import RegulatoryTrees.Text.Letters

/-!
# Names of characters

The character names of the Unicode Character Database, version 14, with the usual other names of control and format
characters. The table is one text of entries that end in semicolons: `@` and a hexadecimal number set the code point of the
next entry, and every other entry is a digit in base 62 that says how many characters it shares with the name before it,
followed by the rest of the name; its code point is one more than that of the entry before.
-/

namespace RegulatoryTrees.Text

/-- The names of all characters that are named one by one. -/
def nameTable : String :=
  "@20;0SPACE;0EXCLAMATION MARK;0QUOTATION MARK;0NUMBER SIGN;0DOLLAR SIGN;0PERCENT SIGN;0AMPERSAND;1POSTROPHE;
0LEFT PARENTHESIS;0RIGHT PARENTHESIS;0ASTERISK;0PLUS SIGN;0COMMA;0HYPHEN-MINUS;0FULL STOP;0SOLIDUS;0DIGIT ZERO;6ONE;
6TWO;7HREE;6FOUR;7IVE;6SIX;7EVEN;6EIGHT;6NINE;0COLON;0SEMICOLON;0LESS-THAN SIGN;0EQUALS SIGN;0GREATER-THAN SIGN;
0QUESTION MARK;0COMMERCIAL AT;0LATIN CAPITAL LETTER A;LB;LC;LD;LE;LF;LG;LH;LI;LJ;LK;LL;LM;LN;LO;LP;LQ;LR;LS;LT;LU;LV;
LW;LX;LY;LZ;1EFT SQUARE BRACKET;0REVERSE SOLIDUS;1IGHT SQUARE BRACKET;0CIRCUMFLEX ACCENT;0LOW LINE;0GRAVE ACCENT;
0LATIN SMALL LETTER A;JB;JC;JD;JE;JF;JG;JH;JI;JJ;JK;JL;JM;JN;JO;JP;JQ;JR;JS;JT;JU;JV;JW;JX;JY;JZ;1EFT CURLY BRACKET;
0VERTICAL LINE;0RIGHT CURLY BRACKET;0TILDE;@A0;0NO-BREAK SPACE;0INVERTED EXCLAMATION MARK;0CENT SIGN;0POUND SIGN;
0CURRENCY SIGN;0YEN SIGN;0BROKEN BAR;0SECTION SIGN;0DIAERESIS;0COPYRIGHT SIGN;0FEMININE ORDINAL INDICATOR;
0LEFT-POINTING DOUBLE ANGLE QUOTATION MARK;0NOT SIGN;0SOFT HYPHEN;0REGISTERED SIGN;0MACRON;0DEGREE SIGN;
0PLUS-MINUS SIGN;0SUPERSCRIPT TWO;DHREE;0ACUTE ACCENT;0MICRO SIGN;0PILCROW SIGN;0MIDDLE DOT;0CEDILLA;0SUPERSCRIPT ONE;
0MASCULINE ORDINAL INDICATOR;0RIGHT-POINTING DOUBLE ANGLE QUOTATION MARK;0VULGAR FRACTION ONE QUARTER;KHALF;
GTHREE QUARTERS;0INVERTED QUESTION MARK;0LATIN CAPITAL LETTER A WITH GRAVE;SACUTE;SCIRCUMFLEX;STILDE;SDIAERESIS;
SRING ABOVE;ME;LC WITH CEDILLA;LE WITH GRAVE;SACUTE;SCIRCUMFLEX;SDIAERESIS;LI WITH GRAVE;SACUTE;SCIRCUMFLEX;SDIAERESIS;
LETH;LN WITH TILDE;LO WITH GRAVE;SACUTE;SCIRCUMFLEX;STILDE;SDIAERESIS;0MULTIPLICATION SIGN;
0LATIN CAPITAL LETTER O WITH STROKE;LU WITH GRAVE;SACUTE;SCIRCUMFLEX;SDIAERESIS;LY WITH ACUTE;LTHORN;
6SMALL LETTER SHARP S;JA WITH GRAVE;QACUTE;QCIRCUMFLEX;QTILDE;QDIAERESIS;QRING ABOVE;KE;JC WITH CEDILLA;JE WITH GRAVE;
QACUTE;QCIRCUMFLEX;QDIAERESIS;JI WITH GRAVE;QACUTE;QCIRCUMFLEX;QDIAERESIS;JETH;JN WITH TILDE;JO WITH GRAVE;QACUTE;
QCIRCUMFLEX;QTILDE;QDIAERESIS;0DIVISION SIGN;0LATIN SMALL LETTER O WITH STROKE;JU WITH GRAVE;QACUTE;QCIRCUMFLEX;
QDIAERESIS;JY WITH ACUTE;JTHORN;JY WITH DIAERESIS;6CAPITAL LETTER A WITH MACRON;6SMALL LETTER A WITH MACRON;
6CAPITAL LETTER A WITH BREVE;6SMALL LETTER A WITH BREVE;6CAPITAL LETTER A WITH OGONEK;6SMALL LETTER A WITH OGONEK;
6CAPITAL LETTER C WITH ACUTE;6SMALL LETTER C WITH ACUTE;6CAPITAL LETTER C WITH CIRCUMFLEX;
6SMALL LETTER C WITH CIRCUMFLEX;6CAPITAL LETTER C WITH DOT ABOVE;6SMALL LETTER C WITH DOT ABOVE;
6CAPITAL LETTER C WITH CARON;6SMALL LETTER C WITH CARON;6CAPITAL LETTER D WITH CARON;6SMALL LETTER D WITH CARON;
6CAPITAL LETTER D WITH STROKE;6SMALL LETTER D WITH STROKE;6CAPITAL LETTER E WITH MACRON;6SMALL LETTER E WITH MACRON;
6CAPITAL LETTER E WITH BREVE;6SMALL LETTER E WITH BREVE;6CAPITAL LETTER E WITH DOT ABOVE;
6SMALL LETTER E WITH DOT ABOVE;6CAPITAL LETTER E WITH OGONEK;6SMALL LETTER E WITH OGONEK;6CAPITAL LETTER E WITH CARON;
6SMALL LETTER E WITH CARON;6CAPITAL LETTER G WITH CIRCUMFLEX;6SMALL LETTER G WITH CIRCUMFLEX;
6CAPITAL LETTER G WITH BREVE;6SMALL LETTER G WITH BREVE;6CAPITAL LETTER G WITH DOT ABOVE;
6SMALL LETTER G WITH DOT ABOVE;6CAPITAL LETTER G WITH CEDILLA;6SMALL LETTER G WITH CEDILLA;
6CAPITAL LETTER H WITH CIRCUMFLEX;6SMALL LETTER H WITH CIRCUMFLEX;6CAPITAL LETTER H WITH STROKE;
6SMALL LETTER H WITH STROKE;6CAPITAL LETTER I WITH TILDE;6SMALL LETTER I WITH TILDE;6CAPITAL LETTER I WITH MACRON;
6SMALL LETTER I WITH MACRON;6CAPITAL LETTER I WITH BREVE;6SMALL LETTER I WITH BREVE;6CAPITAL LETTER I WITH OGONEK;
6SMALL LETTER I WITH OGONEK;6CAPITAL LETTER I WITH DOT ABOVE;6SMALL LETTER DOTLESS I;6CAPITAL LIGATURE IJ;
6SMALL LIGATURE IJ;6CAPITAL LETTER J WITH CIRCUMFLEX;6SMALL LETTER J WITH CIRCUMFLEX;6CAPITAL LETTER K WITH CEDILLA;
6SMALL LETTER K WITH CEDILLA;KRA;6CAPITAL LETTER L WITH ACUTE;6SMALL LETTER L WITH ACUTE;
6CAPITAL LETTER L WITH CEDILLA;6SMALL LETTER L WITH CEDILLA;6CAPITAL LETTER L WITH CARON;6SMALL LETTER L WITH CARON;
6CAPITAL LETTER L WITH MIDDLE DOT;6SMALL LETTER L WITH MIDDLE DOT;6CAPITAL LETTER L WITH STROKE;
6SMALL LETTER L WITH STROKE;6CAPITAL LETTER N WITH ACUTE;6SMALL LETTER N WITH ACUTE;6CAPITAL LETTER N WITH CEDILLA;
6SMALL LETTER N WITH CEDILLA;6CAPITAL LETTER N WITH CARON;6SMALL LETTER N WITH CARON;LPRECEDED BY APOSTROPHE;
6CAPITAL LETTER ENG;6SMALL LETTER ENG;6CAPITAL LETTER O WITH MACRON;6SMALL LETTER O WITH MACRON;
6CAPITAL LETTER O WITH BREVE;6SMALL LETTER O WITH BREVE;6CAPITAL LETTER O WITH DOUBLE ACUTE;
6SMALL LETTER O WITH DOUBLE ACUTE;6CAPITAL LIGATURE OE;6SMALL LIGATURE OE;6CAPITAL LETTER R WITH ACUTE;
6SMALL LETTER R WITH ACUTE;6CAPITAL LETTER R WITH CEDILLA;6SMALL LETTER R WITH CEDILLA;6CAPITAL LETTER R WITH CARON;
6SMALL LETTER R WITH CARON;6CAPITAL LETTER S WITH ACUTE;6SMALL LETTER S WITH ACUTE;6CAPITAL LETTER S WITH CIRCUMFLEX;
6SMALL LETTER S WITH CIRCUMFLEX;6CAPITAL LETTER S WITH CEDILLA;6SMALL LETTER S WITH CEDILLA;
6CAPITAL LETTER S WITH CARON;6SMALL LETTER S WITH CARON;6CAPITAL LETTER T WITH CEDILLA;6SMALL LETTER T WITH CEDILLA;
6CAPITAL LETTER T WITH CARON;6SMALL LETTER T WITH CARON;6CAPITAL LETTER T WITH STROKE;6SMALL LETTER T WITH STROKE;
6CAPITAL LETTER U WITH TILDE;6SMALL LETTER U WITH TILDE;6CAPITAL LETTER U WITH MACRON;6SMALL LETTER U WITH MACRON;
6CAPITAL LETTER U WITH BREVE;6SMALL LETTER U WITH BREVE;6CAPITAL LETTER U WITH RING ABOVE;
6SMALL LETTER U WITH RING ABOVE;6CAPITAL LETTER U WITH DOUBLE ACUTE;6SMALL LETTER U WITH DOUBLE ACUTE;
6CAPITAL LETTER U WITH OGONEK;6SMALL LETTER U WITH OGONEK;6CAPITAL LETTER W WITH CIRCUMFLEX;
6SMALL LETTER W WITH CIRCUMFLEX;6CAPITAL LETTER Y WITH CIRCUMFLEX;6SMALL LETTER Y WITH CIRCUMFLEX;
6CAPITAL LETTER Y WITH DIAERESIS;LZ WITH ACUTE;6SMALL LETTER Z WITH ACUTE;6CAPITAL LETTER Z WITH DOT ABOVE;
6SMALL LETTER Z WITH DOT ABOVE;6CAPITAL LETTER Z WITH CARON;6SMALL LETTER Z WITH CARON;JLONG S;JB WITH STROKE;
6CAPITAL LETTER B WITH HOOK;STOPBAR;6SMALL LETTER B WITH TOPBAR;6CAPITAL LETTER TONE SIX;6SMALL LETTER TONE SIX;
6CAPITAL LETTER OPEN O;LC WITH HOOK;6SMALL LETTER C WITH HOOK;6CAPITAL LETTER AFRICAN D;LD WITH HOOK;STOPBAR;
6SMALL LETTER D WITH TOPBAR;JTURNED DELTA;6CAPITAL LETTER REVERSED E;LSCHWA;LOPEN E;LF WITH HOOK;
6SMALL LETTER F WITH HOOK;6CAPITAL LETTER G WITH HOOK;MAMMA;6SMALL LETTER HV;6CAPITAL LETTER IOTA;M WITH STROKE;
LK WITH HOOK;6SMALL LETTER K WITH HOOK;JL WITH BAR;KAMBDA WITH STROKE;6CAPITAL LETTER TURNED M;LN WITH LEFT HOOK;
6SMALL LETTER N WITH LONG RIGHT LEG;6CAPITAL LETTER O WITH MIDDLE TILDE;SHORN;6SMALL LETTER O WITH HORN;
6CAPITAL LETTER OI;6SMALL LETTER OI;6CAPITAL LETTER P WITH HOOK;6SMALL LETTER P WITH HOOK;6LETTER YR;
6CAPITAL LETTER TONE TWO;6SMALL LETTER TONE TWO;6CAPITAL LETTER ESH;6LETTER REVERSED ESH LOOP;
6SMALL LETTER T WITH PALATAL HOOK;6CAPITAL LETTER T WITH HOOK;6SMALL LETTER T WITH HOOK;
6CAPITAL LETTER T WITH RETROFLEX HOOK;LU WITH HORN;6SMALL LETTER U WITH HORN;6CAPITAL LETTER UPSILON;LV WITH HOOK;
LY WITH HOOK;6SMALL LETTER Y WITH HOOK;6CAPITAL LETTER Z WITH STROKE;6SMALL LETTER Z WITH STROKE;6CAPITAL LETTER EZH;
O REVERSED;6SMALL LETTER EZH REVERSED;NWITH TAIL;6LETTER TWO WITH STROKE;6CAPITAL LETTER TONE FIVE;
6SMALL LETTER TONE FIVE;6LETTER INVERTED GLOTTAL STOP WITH STROKE;DWYNN;DDENTAL CLICK;DLATERAL CLICK;DALVEOLAR CLICK;
DRETROFLEX CLICK;6CAPITAL LETTER DZ WITH CARON;M WITH SMALL LETTER Z WITH CARON;6SMALL LETTER DZ WITH CARON;
6CAPITAL LETTER LJ;M WITH SMALL LETTER J;6SMALL LETTER LJ;6CAPITAL LETTER NJ;M WITH SMALL LETTER J;6SMALL LETTER NJ;
6CAPITAL LETTER A WITH CARON;6SMALL LETTER A WITH CARON;6CAPITAL LETTER I WITH CARON;6SMALL LETTER I WITH CARON;
6CAPITAL LETTER O WITH CARON;6SMALL LETTER O WITH CARON;6CAPITAL LETTER U WITH CARON;6SMALL LETTER U WITH CARON;
6CAPITAL LETTER U WITH DIAERESIS AND MACRON;6SMALL LETTER U WITH DIAERESIS AND MACRON;
6CAPITAL LETTER U WITH DIAERESIS AND ACUTE;6SMALL LETTER U WITH DIAERESIS AND ACUTE;
6CAPITAL LETTER U WITH DIAERESIS AND CARON;6SMALL LETTER U WITH DIAERESIS AND CARON;
6CAPITAL LETTER U WITH DIAERESIS AND GRAVE;6SMALL LETTER U WITH DIAERESIS AND GRAVE;JTURNED E;
6CAPITAL LETTER A WITH DIAERESIS AND MACRON;6SMALL LETTER A WITH DIAERESIS AND MACRON;
6CAPITAL LETTER A WITH DOT ABOVE AND MACRON;6SMALL LETTER A WITH DOT ABOVE AND MACRON;6CAPITAL LETTER AE WITH MACRON;
6SMALL LETTER AE WITH MACRON;6CAPITAL LETTER G WITH STROKE;6SMALL LETTER G WITH STROKE;6CAPITAL LETTER G WITH CARON;
6SMALL LETTER G WITH CARON;6CAPITAL LETTER K WITH CARON;6SMALL LETTER K WITH CARON;6CAPITAL LETTER O WITH OGONEK;
6SMALL LETTER O WITH OGONEK;6CAPITAL LETTER O WITH OGONEK AND MACRON;6SMALL LETTER O WITH OGONEK AND MACRON;
6CAPITAL LETTER EZH WITH CARON;6SMALL LETTER EZH WITH CARON;JJ WITH CARON;6CAPITAL LETTER DZ;M WITH SMALL LETTER Z;
6SMALL LETTER DZ;6CAPITAL LETTER G WITH ACUTE;6SMALL LETTER G WITH ACUTE;6CAPITAL LETTER HWAIR;LWYNN;LN WITH GRAVE;
6SMALL LETTER N WITH GRAVE;6CAPITAL LETTER A WITH RING ABOVE AND ACUTE;6SMALL LETTER A WITH RING ABOVE AND ACUTE;
6CAPITAL LETTER AE WITH ACUTE;6SMALL LETTER AE WITH ACUTE;6CAPITAL LETTER O WITH STROKE AND ACUTE;
6SMALL LETTER O WITH STROKE AND ACUTE;6CAPITAL LETTER A WITH DOUBLE GRAVE;6SMALL LETTER A WITH DOUBLE GRAVE;
6CAPITAL LETTER A WITH INVERTED BREVE;6SMALL LETTER A WITH INVERTED BREVE;6CAPITAL LETTER E WITH DOUBLE GRAVE;
6SMALL LETTER E WITH DOUBLE GRAVE;6CAPITAL LETTER E WITH INVERTED BREVE;6SMALL LETTER E WITH INVERTED BREVE;
6CAPITAL LETTER I WITH DOUBLE GRAVE;6SMALL LETTER I WITH DOUBLE GRAVE;6CAPITAL LETTER I WITH INVERTED BREVE;
6SMALL LETTER I WITH INVERTED BREVE;6CAPITAL LETTER O WITH DOUBLE GRAVE;6SMALL LETTER O WITH DOUBLE GRAVE;
6CAPITAL LETTER O WITH INVERTED BREVE;6SMALL LETTER O WITH INVERTED BREVE;6CAPITAL LETTER R WITH DOUBLE GRAVE;
6SMALL LETTER R WITH DOUBLE GRAVE;6CAPITAL LETTER R WITH INVERTED BREVE;6SMALL LETTER R WITH INVERTED BREVE;
6CAPITAL LETTER U WITH DOUBLE GRAVE;6SMALL LETTER U WITH DOUBLE GRAVE;6CAPITAL LETTER U WITH INVERTED BREVE;
6SMALL LETTER U WITH INVERTED BREVE;6CAPITAL LETTER S WITH COMMA BELOW;6SMALL LETTER S WITH COMMA BELOW;
6CAPITAL LETTER T WITH COMMA BELOW;6SMALL LETTER T WITH COMMA BELOW;6CAPITAL LETTER YOGH;6SMALL LETTER YOGH;
6CAPITAL LETTER H WITH CARON;6SMALL LETTER H WITH CARON;6CAPITAL LETTER N WITH LONG RIGHT LEG;
6SMALL LETTER D WITH CURL;6CAPITAL LETTER OU;6SMALL LETTER OU;6CAPITAL LETTER Z WITH HOOK;6SMALL LETTER Z WITH HOOK;
6CAPITAL LETTER A WITH DOT ABOVE;6SMALL LETTER A WITH DOT ABOVE;6CAPITAL LETTER E WITH CEDILLA;
6SMALL LETTER E WITH CEDILLA;6CAPITAL LETTER O WITH DIAERESIS AND MACRON;6SMALL LETTER O WITH DIAERESIS AND MACRON;
6CAPITAL LETTER O WITH TILDE AND MACRON;6SMALL LETTER O WITH TILDE AND MACRON;6CAPITAL LETTER O WITH DOT ABOVE;
6SMALL LETTER O WITH DOT ABOVE;6CAPITAL LETTER O WITH DOT ABOVE AND MACRON;6SMALL LETTER O WITH DOT ABOVE AND MACRON;
6CAPITAL LETTER Y WITH MACRON;6SMALL LETTER Y WITH MACRON;JL WITH CURL;JN WITH CURL;JT WITH CURL;JDOTLESS J;KB DIGRAPH;
JQP DIGRAPH;6CAPITAL LETTER A WITH STROKE;LC WITH STROKE;6SMALL LETTER C WITH STROKE;6CAPITAL LETTER L WITH BAR;
LT WITH DIAGONAL STROKE;6SMALL LETTER S WITH SWASH TAIL;JZ WITH SWASH TAIL;6CAPITAL LETTER GLOTTAL STOP;
6SMALL LETTER GLOTTAL STOP;6CAPITAL LETTER B WITH STROKE;LU BAR;LTURNED V;LE WITH STROKE;6SMALL LETTER E WITH STROKE;
6CAPITAL LETTER J WITH STROKE;6SMALL LETTER J WITH STROKE;6CAPITAL LETTER SMALL Q WITH HOOK TAIL;
6SMALL LETTER Q WITH HOOK TAIL;6CAPITAL LETTER R WITH STROKE;6SMALL LETTER R WITH STROKE;6CAPITAL LETTER Y WITH STROKE;
6SMALL LETTER Y WITH STROKE;JTURNED A;JALPHA;JTURNED ALPHA;JB WITH HOOK;JOPEN O;JC WITH CURL;JD WITH TAIL;QHOOK;
JREVERSED E;JSCHWA;O WITH HOOK;JOPEN E;JREVERSED OPEN E;Y WITH HOOK;JCLOSED REVERSED OPEN E;JDOTLESS J WITH STROKE;
JG WITH HOOK;JSCRIPT G;6LETTER SMALL CAPITAL G;6SMALL LETTER GAMMA;JRAMS HORN;JTURNED H;JH WITH HOOK;KENG WITH HOOK;
JI WITH STROKE;KOTA;6LETTER SMALL CAPITAL I;6SMALL LETTER L WITH MIDDLE TILDE;QBELT;QRETROFLEX HOOK;KEZH;JTURNED M;
R WITH LONG LEG;JM WITH HOOK;JN WITH LEFT HOOK;QRETROFLEX HOOK;6LETTER SMALL CAPITAL N;6SMALL LETTER BARRED O;
6LETTER SMALL CAPITAL OE;6SMALL LETTER CLOSED OMEGA;JPHI;JTURNED R;R WITH LONG LEG;XHOOK;JR WITH LONG LEG;QTAIL;
QFISHHOOK;KEVERSED R WITH FISHHOOK;6LETTER SMALL CAPITAL R;RINVERTED R;6SMALL LETTER S WITH HOOK;JESH;
JDOTLESS J WITH STROKE AND HOOK;JSQUAT REVERSED ESH;JESH WITH CURL;JTURNED T;K WITH RETROFLEX HOOK;JU BAR;KPSILON;
JV WITH HOOK;JTURNED V;QW;QY;6LETTER SMALL CAPITAL Y;6SMALL LETTER Z WITH RETROFLEX HOOK;QCURL;JEZH;M WITH CURL;
6LETTER GLOTTAL STOP;DPHARYNGEAL VOICED FRICATIVE;DINVERTED GLOTTAL STOP;DSTRETCHED C;DBILABIAL CLICK;DSMALL CAPITAL B;
6SMALL LETTER CLOSED OPEN E;6LETTER SMALL CAPITAL G WITH HOOK;RH;6SMALL LETTER J WITH CROSSED-TAIL;JTURNED K;
6LETTER SMALL CAPITAL L;6SMALL LETTER Q WITH HOOK;6LETTER GLOTTAL STOP WITH STROKE;DREVERSED GLOTTAL STOP WITH STROKE;
6SMALL LETTER DZ DIGRAPH;KEZH DIGRAPH;KZ DIGRAPH WITH CURL;JTS DIGRAPH;KESH DIGRAPH;KC DIGRAPH WITH CURL;JFENG DIGRAPH;
JLS DIGRAPH;KZ DIGRAPH;6LETTER BILABIAL PERCUSSIVE;FDENTAL PERCUSSIVE;6SMALL LETTER TURNED H WITH FISHHOOK;f AND TAIL;
0MODIFIER LETTER SMALL H;N WITH HOOK;MJ;MR;MTURNED R;U WITH HOOK;MCAPITAL INVERTED R;MW;MY;GPRIME;GDOUBLE PRIME;
GTURNED COMMA;GAPOSTROPHE;GREVERSED COMMA;HIGHT HALF RING;GLEFT HALF RING;GGLOTTAL STOP;GREVERSED GLOTTAL STOP;
GLEFT ARROWHEAD;GRIGHT ARROWHEAD;GUP ARROWHEAD;GDOWN ARROWHEAD;GCIRCUMFLEX ACCENT;0CARON;
0MODIFIER LETTER VERTICAL LINE;GMACRON;GACUTE ACCENT;GGRAVE ACCENT;GLOW VERTICAL LINE;KMACRON;KGRAVE ACCENT;
KACUTE ACCENT;GTRIANGULAR COLON;GHALF TRIANGULAR COLON;GCENTRED RIGHT HALF RING;OLEFT HALF RING;GUP TACK;GDOWN TACK;
GPLUS SIGN;GMINUS SIGN;0BREVE;0DOT ABOVE;0RING ABOVE;0OGONEK;0SMALL TILDE;0DOUBLE ACUTE ACCENT;
0MODIFIER LETTER RHOTIC HOOK;GCROSS ACCENT;GSMALL GAMMA;ML;MS;MX;MREVERSED GLOTTAL STOP;GEXTRA-HIGH TONE BAR;
GHIGH TONE BAR;GMID TONE BAR;GLOW TONE BAR;GEXTRA-LOW TONE BAR;GYIN DEPARTING TONE MARK;HANG DEPARTING TONE MARK;
GVOICING;GUNASPIRATED;GDOUBLE APOSTROPHE;GLOW DOWN ARROWHEAD;KUP ARROWHEAD;KLEFT ARROWHEAD;KRIGHT ARROWHEAD;MNG;
GMIDDLE GRAVE ACCENT;NDOUBLE GRAVE ACCENT;UACUTE ACCENT;GLOW TILDE;GRAISED COLON;GBEGIN HIGH TONE;GEND HIGH TONE;
GBEGIN LOW TONE;GEND LOW TONE;GSHELF;GOPEN SHELF;GLOW LEFT ARROW;0COMBINING GRAVE ACCENT;AACUTE ACCENT;
ACIRCUMFLEX ACCENT;ATILDE;AMACRON;AOVERLINE;ABREVE;ADOT ABOVE;BIAERESIS;AHOOK ABOVE;ARING ABOVE;ADOUBLE ACUTE ACCENT;
ACARON;AVERTICAL LINE ABOVE;ADOUBLE VERTICAL LINE ABOVE;HGRAVE ACCENT;ACANDRABINDU;AINVERTED BREVE;ATURNED COMMA ABOVE;
ACOMMA ABOVE;AREVERSED COMMA ABOVE;ACOMMA ABOVE RIGHT;AGRAVE ACCENT BELOW;AACUTE ACCENT BELOW;ALEFT TACK BELOW;
ARIGHT TACK BELOW;ALEFT ANGLE ABOVE;AHORN;ALEFT HALF RING BELOW;AUP TACK BELOW;ADOWN TACK BELOW;APLUS SIGN BELOW;
AMINUS SIGN BELOW;APALATALIZED HOOK BELOW;ARETROFLEX HOOK BELOW;ADOT BELOW;BIAERESIS BELOW;ARING BELOW;ACOMMA BELOW;
BEDILLA;AOGONEK;AVERTICAL LINE BELOW;ABRIDGE BELOW;AINVERTED DOUBLE ARCH BELOW;ACARON BELOW;BIRCUMFLEX ACCENT BELOW;
ABREVE BELOW;AINVERTED BREVE BELOW;ATILDE BELOW;AMACRON BELOW;ALOW LINE;ADOUBLE LOW LINE;ATILDE OVERLAY;
ASHORT STROKE OVERLAY;ALONG STROKE OVERLAY;ASHORT SOLIDUS OVERLAY;ALONG SOLIDUS OVERLAY;ARIGHT HALF RING BELOW;
AINVERTED BRIDGE BELOW;ASQUARE BELOW;BEAGULL BELOW;AX ABOVE;AVERTICAL TILDE;ADOUBLE OVERLINE;AGRAVE TONE MARK;
AACUTE TONE MARK;AGREEK PERISPOMENI;GKORONIS;GDIALYTIKA TONOS;GYPOGEGRAMMENI;ABRIDGE ABOVE;AEQUALS SIGN BELOW;
ADOUBLE VERTICAL LINE BELOW;ALEFT ANGLE BELOW;ANOT TILDE ABOVE;AHOMOTHETIC ABOVE;AALMOST EQUAL TO ABOVE;
ALEFT RIGHT ARROW BELOW;AUPWARDS ARROW BELOW;AGRAPHEME JOINER;ARIGHT ARROWHEAD ABOVE;ALEFT HALF RING ABOVE;AFERMATA;
AX BELOW;ALEFT ARROWHEAD BELOW;ARIGHT ARROWHEAD BELOW;QAND UP ARROWHEAD BELOW;GHALF RING ABOVE;ADOT ABOVE RIGHT;
AASTERISK BELOW;ADOUBLE RING BELOW;AZIGZAG ABOVE;ADOUBLE BREVE BELOW;M;HMACRON;N BELOW;HTILDE;HINVERTED BREVE;
HRIGHTWARDS ARROW BELOW;ALATIN SMALL LETTER A;TE;TI;TO;TU;TC;TD;TH;TM;TR;TT;TV;TX;0GREEK CAPITAL LETTER HETA;
6SMALL LETTER HETA;6CAPITAL LETTER ARCHAIC SAMPI;6SMALL LETTER ARCHAIC SAMPI;6NUMERAL SIGN;6LOWER NUMERAL SIGN;
6CAPITAL LETTER PAMPHYLIAN DIGAMMA;6SMALL LETTER PAMPHYLIAN DIGAMMA;@37A;6YPOGEGRAMMENI;
6SMALL REVERSED LUNATE SIGMA SYMBOL;CDOTTED LUNATE SIGMA SYMBOL;CREVERSED DOTTED LUNATE SIGMA SYMBOL;6QUESTION MARK;
6CAPITAL LETTER YOT;@384;6TONOS;6DIALYTIKA TONOS;6CAPITAL LETTER ALPHA WITH TONOS;6ANO TELEIA;
6CAPITAL LETTER EPSILON WITH TONOS;MTA WITH TONOS;LIOTA WITH TONOS;@38C;LOMICRON WITH TONOS;@38E;LUPSILON WITH TONOS;
LOMEGA WITH TONOS;6SMALL LETTER IOTA WITH DIALYTIKA AND TONOS;6CAPITAL LETTER ALPHA;LBETA;LGAMMA;LDELTA;LEPSILON;LZETA;
LETA;LTHETA;LIOTA;LKAPPA;LLAMDA;LMU;LNU;LXI;LOMICRON;LPI;LRHO;@3A3;LSIGMA;LTAU;LUPSILON;LPHI;LCHI;LPSI;LOMEGA;
LIOTA WITH DIALYTIKA;LUPSILON WITH DIALYTIKA;6SMALL LETTER ALPHA WITH TONOS;JEPSILON WITH TONOS;KTA WITH TONOS;
JIOTA WITH TONOS;JUPSILON WITH DIALYTIKA AND TONOS;JALPHA;JBETA;JGAMMA;JDELTA;JEPSILON;JZETA;JETA;JTHETA;JIOTA;JKAPPA;
JLAMDA;JMU;JNU;JXI;JOMICRON;JPI;JRHO;JFINAL SIGMA;JSIGMA;JTAU;JUPSILON;JPHI;JCHI;JPSI;JOMEGA;JIOTA WITH DIALYTIKA;
JUPSILON WITH DIALYTIKA;JOMICRON WITH TONOS;JUPSILON WITH TONOS;JOMEGA WITH TONOS;6CAPITAL KAI SYMBOL;6BETA SYMBOL;
6THETA SYMBOL;6UPSILON WITH HOOK SYMBOL;JACUTE AND HOOK SYMBOL;JDIAERESIS AND HOOK SYMBOL;6PHI SYMBOL;7I SYMBOL;
6KAI SYMBOL;6LETTER ARCHAIC KOPPA;6SMALL LETTER ARCHAIC KOPPA;6LETTER STIGMA;6SMALL LETTER STIGMA;6LETTER DIGAMMA;
6SMALL LETTER DIGAMMA;6LETTER KOPPA;6SMALL LETTER KOPPA;6LETTER SAMPI;6SMALL LETTER SAMPI;0COPTIC CAPITAL LETTER SHEI;
7SMALL LETTER SHEI;7CAPITAL LETTER FEI;7SMALL LETTER FEI;7CAPITAL LETTER KHEI;7SMALL LETTER KHEI;7CAPITAL LETTER HORI;
7SMALL LETTER HORI;7CAPITAL LETTER GANGIA;7SMALL LETTER GANGIA;7CAPITAL LETTER SHIMA;7SMALL LETTER SHIMA;
7CAPITAL LETTER DEI;7SMALL LETTER DEI;0GREEK KAPPA SYMBOL;6RHO SYMBOL;6LUNATE SIGMA SYMBOL;7ETTER YOT;
6CAPITAL THETA SYMBOL;6LUNATE EPSILON SYMBOL;6REVERSED LUNATE EPSILON SYMBOL;6CAPITAL LETTER SHO;6SMALL LETTER SHO;
6CAPITAL LUNATE SIGMA SYMBOL;FETTER SAN;6SMALL LETTER SAN;6RHO WITH STROKE SYMBOL;
6CAPITAL REVERSED LUNATE SIGMA SYMBOL;EDOTTED LUNATE SIGMA SYMBOL;EREVERSED DOTTED LUNATE SIGMA SYMBOL;
0CYRILLIC CAPITAL LETTER IE WITH GRAVE;PO;ODJE;OGJE;OUKRAINIAN IE;ODZE;OBYELORUSSIAN-UKRAINIAN I;OYI;OJE;OLJE;ONJE;
OTSHE;OKJE;OI WITH GRAVE;OSHORT U;ODZHE;OA;OBE;OVE;OGHE;ODE;OIE;OZHE;PE;OI;OSHORT I;OKA;OEL;PM;PN;OO;OPE;OER;PS;OTE;OU;
OEF;OHA;OTSE;OCHE;OSHA;QCHA;OHARD SIGN;OYERU;OSOFT SIGN;OE;OYU;PA;9SMALL LETTER A;MBE;MVE;MGHE;MDE;MIE;MZHE;NE;MI;
MSHORT I;MKA;MEL;NM;NN;MO;MPE;MER;NS;MTE;MU;MEF;MHA;MTSE;MCHE;MSHA;OCHA;MHARD SIGN;MYERU;MSOFT SIGN;ME;MYU;NA;
MIE WITH GRAVE;NO;MDJE;MGJE;MUKRAINIAN IE;MDZE;MBYELORUSSIAN-UKRAINIAN I;MYI;MJE;MLJE;MNJE;MTSHE;MKJE;MI WITH GRAVE;
MSHORT U;MDZHE;9CAPITAL LETTER OMEGA;9SMALL LETTER OMEGA;9CAPITAL LETTER YAT;9SMALL LETTER YAT;
9CAPITAL LETTER IOTIFIED E;9SMALL LETTER IOTIFIED E;9CAPITAL LETTER LITTLE YUS;9SMALL LETTER LITTLE YUS;
9CAPITAL LETTER IOTIFIED LITTLE YUS;9SMALL LETTER IOTIFIED LITTLE YUS;9CAPITAL LETTER BIG YUS;9SMALL LETTER BIG YUS;
9CAPITAL LETTER IOTIFIED BIG YUS;9SMALL LETTER IOTIFIED BIG YUS;9CAPITAL LETTER KSI;9SMALL LETTER KSI;
9CAPITAL LETTER PSI;9SMALL LETTER PSI;9CAPITAL LETTER FITA;9SMALL LETTER FITA;9CAPITAL LETTER IZHITSA;
9SMALL LETTER IZHITSA;9CAPITAL LETTER IZHITSA WITH DOUBLE GRAVE ACCENT;9SMALL LETTER IZHITSA WITH DOUBLE GRAVE ACCENT;
9CAPITAL LETTER UK;9SMALL LETTER UK;9CAPITAL LETTER ROUND OMEGA;9SMALL LETTER ROUND OMEGA;
9CAPITAL LETTER OMEGA WITH TITLO;9SMALL LETTER OMEGA WITH TITLO;9CAPITAL LETTER OT;9SMALL LETTER OT;
9CAPITAL LETTER KOPPA;9SMALL LETTER KOPPA;9THOUSANDS SIGN;1OMBINING CYRILLIC TITLO;JPALATALIZATION;JDASIA PNEUMATA;
JPSILI PNEUMATA;KOKRYTIE;JHUNDRED THOUSANDS SIGN;JMILLIONS SIGN;1YRILLIC CAPITAL LETTER SHORT I WITH TAIL;
9SMALL LETTER SHORT I WITH TAIL;9CAPITAL LETTER SEMISOFT SIGN;9SMALL LETTER SEMISOFT SIGN;9CAPITAL LETTER ER WITH TICK;
9SMALL LETTER ER WITH TICK;9CAPITAL LETTER GHE WITH UPTURN;9SMALL LETTER GHE WITH UPTURN;
9CAPITAL LETTER GHE WITH STROKE;9SMALL LETTER GHE WITH STROKE;9CAPITAL LETTER GHE WITH MIDDLE HOOK;
9SMALL LETTER GHE WITH MIDDLE HOOK;9CAPITAL LETTER ZHE WITH DESCENDER;9SMALL LETTER ZHE WITH DESCENDER;
9CAPITAL LETTER ZE WITH DESCENDER;9SMALL LETTER ZE WITH DESCENDER;9CAPITAL LETTER KA WITH DESCENDER;
9SMALL LETTER KA WITH DESCENDER;9CAPITAL LETTER KA WITH VERTICAL STROKE;9SMALL LETTER KA WITH VERTICAL STROKE;
9CAPITAL LETTER KA WITH STROKE;9SMALL LETTER KA WITH STROKE;9CAPITAL LETTER BASHKIR KA;9SMALL LETTER BASHKIR KA;
9CAPITAL LETTER EN WITH DESCENDER;9SMALL LETTER EN WITH DESCENDER;9CAPITAL LIGATURE EN GHE;9SMALL LIGATURE EN GHE;
9CAPITAL LETTER PE WITH MIDDLE HOOK;9SMALL LETTER PE WITH MIDDLE HOOK;9CAPITAL LETTER ABKHASIAN HA;
9SMALL LETTER ABKHASIAN HA;9CAPITAL LETTER ES WITH DESCENDER;9SMALL LETTER ES WITH DESCENDER;
9CAPITAL LETTER TE WITH DESCENDER;9SMALL LETTER TE WITH DESCENDER;9CAPITAL LETTER STRAIGHT U;9SMALL LETTER STRAIGHT U;
9CAPITAL LETTER STRAIGHT U WITH STROKE;9SMALL LETTER STRAIGHT U WITH STROKE;9CAPITAL LETTER HA WITH DESCENDER;
9SMALL LETTER HA WITH DESCENDER;9CAPITAL LIGATURE TE TSE;9SMALL LIGATURE TE TSE;9CAPITAL LETTER CHE WITH DESCENDER;
9SMALL LETTER CHE WITH DESCENDER;9CAPITAL LETTER CHE WITH VERTICAL STROKE;9SMALL LETTER CHE WITH VERTICAL STROKE;
9CAPITAL LETTER SHHA;9SMALL LETTER SHHA;9CAPITAL LETTER ABKHASIAN CHE;9SMALL LETTER ABKHASIAN CHE;
9CAPITAL LETTER ABKHASIAN CHE WITH DESCENDER;9SMALL LETTER ABKHASIAN CHE WITH DESCENDER;9LETTER PALOCHKA;
9CAPITAL LETTER ZHE WITH BREVE;9SMALL LETTER ZHE WITH BREVE;9CAPITAL LETTER KA WITH HOOK;9SMALL LETTER KA WITH HOOK;
9CAPITAL LETTER EL WITH TAIL;9SMALL LETTER EL WITH TAIL;9CAPITAL LETTER EN WITH HOOK;9SMALL LETTER EN WITH HOOK;
9CAPITAL LETTER EN WITH TAIL;9SMALL LETTER EN WITH TAIL;9CAPITAL LETTER KHAKASSIAN CHE;9SMALL LETTER KHAKASSIAN CHE;
9CAPITAL LETTER EM WITH TAIL;9SMALL LETTER EM WITH TAIL;MPALOCHKA;9CAPITAL LETTER A WITH BREVE;
9SMALL LETTER A WITH BREVE;9CAPITAL LETTER A WITH DIAERESIS;9SMALL LETTER A WITH DIAERESIS;9CAPITAL LIGATURE A IE;
9SMALL LIGATURE A IE;9CAPITAL LETTER IE WITH BREVE;9SMALL LETTER IE WITH BREVE;9CAPITAL LETTER SCHWA;
9SMALL LETTER SCHWA;9CAPITAL LETTER SCHWA WITH DIAERESIS;9SMALL LETTER SCHWA WITH DIAERESIS;
9CAPITAL LETTER ZHE WITH DIAERESIS;9SMALL LETTER ZHE WITH DIAERESIS;9CAPITAL LETTER ZE WITH DIAERESIS;
9SMALL LETTER ZE WITH DIAERESIS;9CAPITAL LETTER ABKHASIAN DZE;9SMALL LETTER ABKHASIAN DZE;
9CAPITAL LETTER I WITH MACRON;9SMALL LETTER I WITH MACRON;9CAPITAL LETTER I WITH DIAERESIS;
9SMALL LETTER I WITH DIAERESIS;9CAPITAL LETTER O WITH DIAERESIS;9SMALL LETTER O WITH DIAERESIS;
9CAPITAL LETTER BARRED O;9SMALL LETTER BARRED O;9CAPITAL LETTER BARRED O WITH DIAERESIS;
9SMALL LETTER BARRED O WITH DIAERESIS;9CAPITAL LETTER E WITH DIAERESIS;9SMALL LETTER E WITH DIAERESIS;
9CAPITAL LETTER U WITH MACRON;9SMALL LETTER U WITH MACRON;9CAPITAL LETTER U WITH DIAERESIS;
9SMALL LETTER U WITH DIAERESIS;9CAPITAL LETTER U WITH DOUBLE ACUTE;9SMALL LETTER U WITH DOUBLE ACUTE;
9CAPITAL LETTER CHE WITH DIAERESIS;9SMALL LETTER CHE WITH DIAERESIS;9CAPITAL LETTER GHE WITH DESCENDER;
9SMALL LETTER GHE WITH DESCENDER;9CAPITAL LETTER YERU WITH DIAERESIS;9SMALL LETTER YERU WITH DIAERESIS;
9CAPITAL LETTER GHE WITH STROKE AND HOOK;9SMALL LETTER GHE WITH STROKE AND HOOK;9CAPITAL LETTER HA WITH HOOK;
9SMALL LETTER HA WITH HOOK;9CAPITAL LETTER HA WITH STROKE;9SMALL LETTER HA WITH STROKE;9CAPITAL LETTER KOMI DE;
9SMALL LETTER KOMI DE;9CAPITAL LETTER KOMI DJE;9SMALL LETTER KOMI DJE;9CAPITAL LETTER KOMI ZJE;9SMALL LETTER KOMI ZJE;
9CAPITAL LETTER KOMI DZJE;9SMALL LETTER KOMI DZJE;9CAPITAL LETTER KOMI LJE;9SMALL LETTER KOMI LJE;
9CAPITAL LETTER KOMI NJE;9SMALL LETTER KOMI NJE;9CAPITAL LETTER KOMI SJE;9SMALL LETTER KOMI SJE;
9CAPITAL LETTER KOMI TJE;9SMALL LETTER KOMI TJE;9CAPITAL LETTER REVERSED ZE;9SMALL LETTER REVERSED ZE;
9CAPITAL LETTER EL WITH HOOK;9SMALL LETTER EL WITH HOOK;9CAPITAL LETTER LHA;9SMALL LETTER LHA;9CAPITAL LETTER RHA;
9SMALL LETTER RHA;9CAPITAL LETTER YAE;9SMALL LETTER YAE;9CAPITAL LETTER QA;9SMALL LETTER QA;9CAPITAL LETTER WE;
9SMALL LETTER WE;9CAPITAL LETTER ALEUT KA;9SMALL LETTER ALEUT KA;9CAPITAL LETTER EL WITH MIDDLE HOOK;
9SMALL LETTER EL WITH MIDDLE HOOK;9CAPITAL LETTER EN WITH MIDDLE HOOK;9SMALL LETTER EN WITH MIDDLE HOOK;
9CAPITAL LETTER PE WITH DESCENDER;9SMALL LETTER PE WITH DESCENDER;9CAPITAL LETTER SHHA WITH DESCENDER;
9SMALL LETTER SHHA WITH DESCENDER;9CAPITAL LETTER EN WITH LEFT HOOK;9SMALL LETTER EN WITH LEFT HOOK;
9CAPITAL LETTER DZZHE;9SMALL LETTER DZZHE;9CAPITAL LETTER DCHE;9SMALL LETTER DCHE;9CAPITAL LETTER EL WITH DESCENDER;
9SMALL LETTER EL WITH DESCENDER;@531;0ARMENIAN CAPITAL LETTER AYB;OBEN;OGIM;ODA;OECH;OZA;OEH;PT;OTO;OZHE;OINI;OLIWN;
OXEH;OCA;OKEN;OHO;OJA;OGHAD;OCHEH;OMEN;OYI;ONOW;OSHA;OVO;OCHA;OPEH;OJHEH;ORA;OSEH;OVEW;OTIWN;OREH;OCO;OYIWN;OPIWR;OKEH;
OOH;OFEH;@559;9MODIFIER LETTER LEFT HALF RING;9APOSTROPHE;9EMPHASIS MARK;AXCLAMATION MARK;9COMMA;9QUESTION MARK;
9ABBREVIATION MARK;9SMALL LETTER TURNED AYB;MAYB;MBEN;MGIM;MDA;MECH;MZA;MEH;NT;MTO;MZHE;MINI;MLIWN;MXEH;MCA;MKEN;MHO;
MJA;MGHAD;MCHEH;MMEN;MYI;MNOW;MSHA;MVO;MCHA;MPEH;MJHEH;MRA;MSEH;MVEW;MTIWN;MREH;MCO;MYIWN;MPIWR;MKEH;MOH;MFEH;
GIGATURE ECH YIWN;GETTER YI WITH STROKE;9FULL STOP;9HYPHEN;@58D;0RIGHT-FACING ARMENIAN ETERNITY SIGN;
0LEFT-FACING ARMENIAN ETERNITY SIGN;0ARMENIAN DRAM SIGN;@591;0HEBREW ACCENT ETNAHTA;ESEGOL;FHALSHELET;EZAQEF QATAN;
KGADOL;ETIPEHA;EREVIA;EZARQA;EPASHTA;EYETIV;ETEVIR;EGERESH;K MUQDAM;HSHAYIM;EQARNEY PARA;ETELISHA GEDOLA;EPAZER;
EATNAH HAFUKH;EMUNAH;FAHAPAKH;FERKHA;K KEFULA;EDARGA;EQADMA;ETELISHA QETANA;EYERAH BEN YOMO;EOLE;EILUY;EDEHI;EZINOR;
7MARK MASORA CIRCLE;7POINT SHEVA;DHATAF SEGOL;JPATAH;JQAMATS;EIRIQ;DTSERE;DSEGOL;DPATAH;DQAMATS;DHOLAM;I HASER FOR VAV;
DQUBUTS;DDAGESH OR MAPIQ;DMETEG;8UNCTUATION MAQAF;8OINT RAFE;8UNCTUATION PASEQ;8OINT SHIN DOT;EIN DOT;
8UNCTUATION SOF PASUQ;7MARK UPPER DOT;CLOWER DOT;7PUNCTUATION NUN HAFUKHA;8OINT QAMATS QATAN;@5D0;7LETTER ALEF;EBET;
EGIMEL;EDALET;EHE;EVAV;EZAYIN;EHET;ETET;EYOD;EFINAL KAF;EKAF;ELAMED;EFINAL MEM;EMEM;EFINAL NUN;ENUN;ESAMEKH;EAYIN;
EFINAL PE;EPE;EFINAL TSADI;ETSADI;EQOF;ERESH;ESHIN;ETAV;@5EF;7YOD TRIANGLE;7LIGATURE YIDDISH DOUBLE VAV;OVAV YOD;
ODOUBLE YOD;7PUNCTUATION GERESH;MSHAYIM;@600;0ARABIC NUMBER SIGN;7SIGN SANAH;7FOOTNOTE MARKER;7SIGN SAFHA;EMVAT;
7NUMBER MARK ABOVE;6-INDIC CUBE ROOT;DFOURTH ROOT;6 RAY;6-INDIC PER MILLE SIGN;HTEN THOUSAND SIGN;1FGHANI SIGN;
1RABIC COMMA;7DATE SEPARATOR;7POETIC VERSE SIGN;7SIGN MISRA;CSALLALLAHOU ALAYHE WASSALLAM;CALAYHE ASSALLAM;
CRAHMATULLAH ALAYHE;EDI ALLAHOU ANHU;CTAKHALLUS;8MALL HIGH TAH;ILIGATURE ALEF WITH LAM WITH YEH;IZAIN;DFATHA;DDAMMA;
DKASRA;8EMICOLON;7LETTER MARK;7END OF TEXT MARK;7TRIPLE DOT PUNCTUATION MARK;7QUESTION MARK;7LETTER KASHMIRI YEH;
EHAMZA;EALEF WITH MADDA ABOVE;OHAMZA ABOVE;EWAW WITH HAMZA ABOVE;EALEF WITH HAMZA BELOW;EYEH WITH HAMZA ABOVE;EALEF;
EBEH;ETEH MARBUTA;H;FHEH;EJEEM;EHAH;EKHAH;EDAL;ETHAL;EREH;EZAIN;ESEEN;FHEEN;FAD;EDAD;ETAH;EZAH;EAIN;EGHAIN;
EKEHEH WITH TWO DOTS ABOVE;QHREE DOTS BELOW;EFARSI YEH WITH INVERTED V;TTWO DOTS ABOVE;UHREE DOTS ABOVE;7TATWEEL;
7LETTER FEH;EQAF;EKAF;ELAM;EMEEM;ENOON;EHEH;EWAW;EALEF MAKSURA;EYEH;7FATHATAN;7DAMMATAN;7KASRATAN;7FATHA;7DAMMA;7KASRA;
7SHADDA;8UKUN;7MADDAH ABOVE;7HAMZA ABOVE;DBELOW;7SUBSCRIPT ALEF;7INVERTED DAMMA;7MARK NOON GHUNNA;7ZWARAKAY;
7VOWEL SIGN SMALL V ABOVE;IINVERTED SMALL V ABOVE;IDOT BELOW;7REVERSED DAMMA;7FATHA WITH TWO DOTS;7WAVY HAMZA BELOW;
6-INDIC DIGIT ZERO;JONE;JTWO;KHREE;JFOUR;KIVE;JSIX;KEVEN;JEIGHT;JNINE;6 PERCENT SIGN;7DECIMAL SEPARATOR;
7THOUSANDS SEPARATOR;7FIVE POINTED STAR;7LETTER DOTLESS BEH;MQAF;ESUPERSCRIPT ALEF;EALEF WASLA;KITH WAVY HAMZA ABOVE;
ZBELOW;EHIGH HAMZA;O ALEF;PWAW;EU WITH HAMZA ABOVE;EHIGH HAMZA YEH;ETTEH;IEH;EBEEH;ETEH WITH RING;
NTHREE DOTS ABOVE DOWNWARDS;EPEH;ETEHEH;EBEHEH;EHAH WITH HAMZA ABOVE;NTWO DOTS VERTICAL ABOVE;ENYEH;EDYEH;
EHAH WITH THREE DOTS ABOVE;ETCHEH;JEH;EDDAL;FAL WITH RING;NDOT BELOW;W AND SMALL TAH;GHAL;FDAHAL;FUL;
FAL WITH THREE DOTS ABOVE DOWNWARDS;NFOUR DOTS ABOVE;ERREH;FEH WITH SMALL V;NRING;NDOT BELOW;NSMALL V BELOW;
NDOT BELOW AND DOT ABOVE;NTWO DOTS ABOVE;EJEH;EREH WITH FOUR DOTS ABOVE;ESEEN WITH DOT BELOW AND DOT ABOVE;
OTHREE DOTS BELOW;e AND THREE DOTS ABOVE;FAD WITH TWO DOTS BELOW;OHREE DOTS ABOVE;ETAH WITH THREE DOTS ABOVE;
EAIN WITH THREE DOTS ABOVE;EDOTLESS FEH;EFEH WITH DOT MOVED BELOW;RBELOW;EVEH;EFEH WITH THREE DOTS BELOW;EPEHEH;
EQAF WITH DOT ABOVE;NTHREE DOTS ABOVE;EKEHEH;ESWASH KAF;EKAF WITH RING;NDOT ABOVE;ENG;EKAF WITH THREE DOTS BELOW;EGAF;
H WITH RING;ENGOEH;EGAF WITH TWO DOTS BELOW;FUEH;FAF WITH THREE DOTS ABOVE;ELAM WITH SMALL V;NDOT ABOVE;
NTHREE DOTS ABOVE;YBELOW;ENOON WITH DOT BELOW;JGHUNNA;ERNOON;ENOON WITH RING;OTHREE DOTS ABOVE;EHEH DOACHASHMEE;
ETCHEH WITH DOT ABOVE;EHEH WITH YEH ABOVE;IGOAL;M WITH HAMZA ABOVE;ETEH MARBUTA GOAL;EWAW WITH RING;EKIRGHIZ OE;EOE;EU;
EYU;EKIRGHIZ YU;EWAW WITH TWO DOTS ABOVE;EVE;EFARSI YEH;EYEH WITH TAIL;NSMALL V;EWAW WITH DOT ABOVE;EE;
EYEH WITH THREE DOTS BELOW;IBARREE;O WITH HAMZA ABOVE;7FULL STOP;7LETTER AE;
7SMALL HIGH LIGATURE SAD WITH LAM WITH ALEF MAKSURA;RQAF WITH LAM WITH ALEF MAKSURA;IMEEM INITIAL FORM;ILAM ALEF;IJEEM;
ITHREE DOTS;ISEEN;7END OF AYAH;7START OF RUB EL HIZB;8MALL HIGH ROUNDED ZERO;IUPRIGHT RECTANGULAR ZERO;
IDOTLESS HEAD OF KHAH;IMEEM ISOLATED FORM;DLOW SEEN;DHIGH MADDA;DWAW;DYEH;DHIGH YEH;INOON;7PLACE OF SAJDAH;
7EMPTY CENTRE LOW STOP;KHIGH STOP;7ROUNDED HIGH STOP WITH FILLED CENTRE;7SMALL LOW MEEM;7LETTER DAL WITH INVERTED V;
EREH WITH INVERTED V;0EXTENDED ARABIC-INDIC DIGIT ZERO;SONE;STWO;THREE;SFOUR;TIVE;SSIX;TEVEN;SEIGHT;SNINE;
0ARABIC LETTER SHEEN WITH DOT BELOW;EDAD WITH DOT BELOW;EGHAIN WITH DOT BELOW;7SIGN SINDHI AMPERSAND;JPOSTPOSITION MEN;
7LETTER HEH WITH INVERTED V;0SYRIAC END OF PARAGRAPH;7SUPRALINEAR FULL STOP;9BLINEAR FULL STOP;9PRALINEAR COLON;
9BLINEAR COLON;7HORIZONTAL COLON;7COLON SKEWED LEFT;KRIGHT;7SUPRALINEAR COLON SKEWED LEFT;9BLINEAR COLON SKEWED RIGHT;
7CONTRACTION;7HARKLEAN OBELUS;GMETOBELUS;GASTERISCUS;@70F;7ABBREVIATION MARK;7LETTER ALAPH;ESUPERSCRIPT ALAPH;EBETH;
EGAMAL;J GARSHUNI;EDALATH;FOTLESS DALATH RISH;EHE;EWAW;EZAIN;EHETH;ETETH;I GARSHUNI;EYUDH;I HE;EKAPH;ELAMADH;EMIM;ENUN;
ESEMKATH;EFINAL SEMKATH;EE;EPE;EREVERSED PE;ESADHE;EQAPH;ERISH;ESHIN;ETAW;EPERSIAN BHETH;MGHAMAL;MDHALATH;
7PTHAHA ABOVE;EBELOW;EDOTTED;7ZQAPHA ABOVE;EBELOW;EDOTTED;7RBASA ABOVE;DBELOW;7DOTTED ZLAMA HORIZONTAL;KANGULAR;
7HBASA ABOVE;DBELOW;C-ESASA DOTTED;7ESASA ABOVE;DBELOW;7RWAHA;7FEMININE DOT;7QUSHSHAYA;7RUKKAKHA;
7TWO VERTICAL DOTS ABOVE;PBELOW;8HREE DOTS ABOVE;IBELOW;7OBLIQUE LINE ABOVE;KBELOW;7MUSIC;7BARREKH;@74D;
7LETTER SOGDIAN ZHAIN;MKHAPH;MFE;0ARABIC LETTER BEH WITH THREE DOTS HORIZONTALLY BELOW;NDOT BELOW AND THREE DOTS ABOVE;
NTHREE DOTS POINTING UPWARDS BELOW;u AND TWO DOTS ABOVE;OWO DOTS BELOW AND DOT ABOVE;NINVERTED SMALL V BELOW;NSMALL V;
EHAH WITH TWO DOTS ABOVE;OHREE DOTS POINTING UPWARDS BELOW;EDAL WITH TWO DOTS VERTICALLY BELOW AND SMALL TAH;
NINVERTED SMALL V BELOW;EREH WITH STROKE;ESEEN WITH FOUR DOTS ABOVE;EAIN WITH TWO DOTS ABOVE;
OHREE DOTS POINTING DOWNWARDS ABOVE;OWO DOTS VERTICALLY ABOVE;EFEH WITH TWO DOTS BELOW;
OHREE DOTS POINTING UPWARDS BELOW;EKEHEH WITH DOT ABOVE;PTHREE DOTS ABOVE;aPOINTING UPWARDS BELOW;EMEEM WITH DOT ABOVE;
SBELOW;ENOON WITH TWO DOTS BELOW;OSMALL TAH;UV;ELAM WITH BAR;EREH WITH TWO DOTS VERTICALLY ABOVE;NHAMZA ABOVE;
ESEEN WITH TWO DOTS VERTICALLY ABOVE;EHAH WITH SMALL ARABIC LETTER TAH BELOW;lAND TWO DOTS;
ESEEN WITH SMALL ARABIC LETTER TAH AND TWO DOTS;EREH WITH SMALL ARABIC LETTER TAH AND TWO DOTS;
EHAH WITH SMALL ARABIC LETTER TAH ABOVE;EALEF WITH EXTENDED ARABIC-INDIC DIGIT TWO ABOVE;rHREE ABOVE;
EFARSI YEH WITH EXTENDED ARABIC-INDIC DIGIT TWO ABOVE;wHREE ABOVE;vFOUR BELOW;
EWAW WITH EXTENDED ARABIC-INDIC DIGIT TWO ABOVE;qHREE ABOVE;EYEH BARREE WITH EXTENDED ARABIC-INDIC DIGIT TWO ABOVE;
xHREE ABOVE;EHAH WITH EXTENDED ARABIC-INDIC DIGIT FOUR BELOW;ESEEN WITH EXTENDED ARABIC-INDIC DIGIT FOUR ABOVE;
OINVERTED V;EKAF WITH TWO DOTS ABOVE;0THAANA LETTER HAA;ESHAVIYANI;ENOONU;ERAA;EBAA;ELHAVIYANI;EKAAFU;EALIFU;EVAAVU;
EMEEMU;EFAAFU;EDHAALU;ETHAA;ELAAMU;EGAAFU;FNAVIYANI;ESEENU;EDAVIYANI;EZAVIYANI;ETAVIYANI;EYAA;EPAVIYANI;EJAVIYANI;
ECHAVIYANI;ETTAA;EHHAA;EKHAA;ETHAALU;EZAA;ESHEENU;FAADHU;EDAADHU;ETO;EZO;EAINU;EGHAINU;EQAAFU;EWAAVU;7ABAFILI;
8ABAAFILI;7IBIFILI;7EEBEEFILI;7UBUFILI;7OOBOOFILI;7EBEFILI;8YBEYFILI;7OBOFILI;8ABOAFILI;7SUKUN;7LETTER NAA;@7C0;
0NKO DIGIT ZERO;AONE;ATWO;BHREE;AFOUR;BIVE;ASIX;BEVEN;AEIGHT;ANINE;4LETTER A;BEE;BI;BE;BU;BOO;C;BDAGBASINNA;BN;BBA;BPA;
BTA;BJA;BCHA;BDA;BRA;CRA;BSA;BGBA;BFA;BKA;BLA;BNA WOLOSO;BMA;BNYA;CA;BHA;BWA;BYA;BNYA WOLOSO;BJONA JA;GCHA;GRA;
4COMBINING SHORT HIGH TONE;KLOW TONE;KRISING TONE;ELONG DESCENDING TONE;JHIGH TONE;JLOW TONE;JRISING TONE;
ENASALIZATION MARK;EDOUBLE DOT ABOVE;4HIGH TONE APOSTROPHE;4LOW TONE APOSTROPHE;4SYMBOL OO DENNEN;BGBAKURUNEN;4COMMA;
4EXCLAMATION MARK;4LAJANYALAN;@7FD;4DANTAYALAN;5OROME SIGN;4TAMAN SIGN;0SAMARITAN LETTER ALAF;HBIT;HGAMAN;HDALAT;HIY;
HBAA;HZEN;HIT;HTIT;HYUT;HKAAF;HLABAT;HMIM;HNUN;HSINGAAT;HIN;HFI;HTSAADIY;HQUF;HRISH;HSHAN;HTAAF;AMARK IN;H-ALAF;
FOCCLUSION;FDAGESH;BODIFIER LETTER EPENTHETIC YUT;BARK EPENTHETIC YUT;AVOWEL SIGN LONG E;LE;LOVERLONG AA;LLONG AA;LAA;
LOVERLONG A;LLONG A;LA;AMODIFIER LETTER SHORT A;AVOWEL SIGN SHORT A;LLONG U;LU;AMODIFIER LETTER I;AVOWEL SIGN LONG I;
LI;LO;LSUKUN;AMARK NEQUDAA;@830;APUNCTUATION NEQUDAA;MAFSAAQ;NNGED;MBAU;MATMAAU;MSHIYYAALAA;AABBREVIATION MARK;
APUNCTUATION MELODIC QITSA;MZIQAA;MQITSA;MZAEF;MTURU;MARKAANU;MSOF MASHFAAT;MANNAAU;@840;0MANDAIC LETTER HALQA;FAB;GG;
GD;GH;FUSHENNA;FAZ;FIT;FATT;GKSA;H;GL;GM;GN;GS;FIN;FAP;GSZ;GQ;GR;GSH;GT;FDUSHENNA;FKAD;FAIN;8AFFRICATION MARK;
8VOCALIZATION MARK;8GEMINATION MARK;@85E;8PUNCTUATION;@860;0SYRIAC LETTER MALAYALAM NGA;OJA;ONYA;OTTA;ONNA;QNA;OBHA;
ORA;OLLA;QLA;OSSA;@870;0ARABIC LETTER ALEF WITH ATTACHED FATHA;XTOP RIGHT FATHA;ORIGHT MIDDLE STROKE;
OLEFT MIDDLE STROKE;OATTACHED KASRA;XBOTTOM RIGHT KASRA;XROUND DOT ABOVE;YIGHT ROUND DOT;XLEFT ROUND DOT;
XROUND DOT BELOW;ODOT ABOVE;OATTACHED TOP RIGHT FATHA AND DOT ABOVE;ORIGHT MIDDLE STROKE AND DOT ABOVE;
OATTACHED BOTTOM RIGHT KASRA AND DOT ABOVE;XTOP RIGHT FATHA AND LEFT RING;ORIGHT MIDDLE STROKE AND LEFT RING;
OATTACHED BOTTOM RIGHT KASRA AND LEFT RING;XRIGHT HAMZA;XLEFT HAMZA;7TATWEEL WITH OVERSTRUCK HAMZA;VWAW;
KTWO DOTS BELOW;7LETTER THIN YEH;7BASELINE ROUND DOT;7RAISED ROUND DOT;7LETTER NOON WITH INVERTED SMALL V;
EHAH WITH INVERTED SMALL V BELOW;ETAH WITH DOT BELOW;NTHREE DOTS BELOW;EKEHEH WITH TWO DOTS VERTICALLY BELOW;
7VERTICAL TAIL;@890;7POUND MARK ABOVE;8IASTRE MARK ABOVE;@898;7SMALL HIGH WORD AL-JUZ;DLOW WORD ISHMAAM;NMAALA;
MTASHEEL;7MADDA WAAJIB;7SUPERSCRIPT ALEF MOKHASSAS;7DOUBLED MADDA;7HALF MADDA OVER MADDA;
7LETTER BEH WITH SMALL V BELOW;NHAMZA ABOVE;EJEEM WITH TWO DOTS ABOVE;ETAH WITH TWO DOTS ABOVE;
EFEH WITH DOT BELOW AND THREE DOTS ABOVE;EQAF WITH DOT BELOW;ELAM WITH DOUBLE BAR;EMEEM WITH THREE DOTS ABOVE;
EYEH WITH TWO DOTS BELOW AND HAMZA ABOVE;gDOT ABOVE;EREH WITH LOOP;EWAW WITH DOT WITHIN;EROHINGYA YEH;ELOW ALEF;
EDAL WITH THREE DOTS BELOW;ESAD WITH THREE DOTS BELOW;EGAF WITH INVERTED STROKE;ESTRAIGHT WAW;
EZAIN WITH INVERTED V ABOVE;EAIN WITH THREE DOTS BELOW;EKAF WITH DOT BELOW;EQAF WITH DOT BELOW AND NO DOTS ABOVE;
EBEH WITH SMALL MEEM ABOVE;EPEH WITH SMALL MEEM ABOVE;ETEH WITH SMALL TEH ABOVE;EREH WITH SMALL NOON ABOVE;
EYEH WITH TWO DOTS BELOW AND SMALL NOON ABOVE;EAFRICAN FEH;MQAF;MNOON;EPEH WITH SMALL V;ETEH WITH SMALL V;
FTEH WITH SMALL V;FCHEH WITH SMALL V;EKEHEH WITH SMALL V;EGHAIN WITH THREE DOTS ABOVE;
EAFRICAN QAF WITH THREE DOTS ABOVE;EJEEM WITH THREE DOTS ABOVE;ZBELOW;ELAM WITH SMALL ARABIC LETTER TAH ABOVE;EGRAF;
7SMALL FARSI YEH;DHIGH FARSI YEH;IYEH BARREE WITH TWO DOTS BELOW;IWORD SAH;IZAH;7LARGE ROUND DOT ABOVE;NBELOW;
7SUKUN BELOW;7LARGE CIRCLE BELOW;DROUND DOT INSIDE CIRCLE BELOW;7SMALL LOW WAW;DHIGH WORD AR-RUB;ISAD;IAIN;IQAF;
INOON WITH KASRA;DLOW NOON WITH KASRA;DHIGH WORD ATH-THALATHA;OS-SAJDA;ON-NISF;NSAKTA;NQIF;NWAQFA;IFOOTNOTE MARKER;
ISIGN SAFHA;7DISPUTED END OF AYAH;7TURNED DAMMA BELOW;7CURLY FATHA;DDAMMA;DKASRA;DFATHATAN;DDAMMATAN;DKASRATAN;
7TONE ONE DOT ABOVE;CTWO DOTS ABOVE;CLOOP ABOVE;CONE DOT BELOW;CTWO DOTS BELOW;CLOOP BELOW;7OPEN FATHATAN;CDAMMATAN;
CKASRATAN;7SMALL HIGH WAW;7FATHA WITH RING;IDOT ABOVE;7KASRA WITH DOT BELOW;7LEFT ARROWHEAD ABOVE;
7RIGHT ARROWHEAD ABOVE;7LEFT ARROWHEAD BELOW;7RIGHT ARROWHEAD BELOW;7DOUBLE RIGHT ARROWHEAD ABOVE;Z WITH DOT;
7RIGHT ARROWHEAD ABOVE WITH DOT;7DAMMA WITH DOT;7MARK SIDEWAYS NOON GHUNNA;0DEVANAGARI SIGN INVERTED CANDRABINDU;
GCANDRABINDU;GANUSVARA;GVISARGA;BLETTER SHORT A;IA;JA;II;JI;IU;JU;IVOCALIC R;QL;ICANDRA E;ISHORT E;IE;IAI;ICANDRA O;
ISHORT O;IO;IAU;IKA;JHA;IGA;JHA;INGA;ICA;JHA;IJA;JHA;INYA;ITTA;KHA;IDDA;KHA;INNA;ITA;JHA;IDA;JHA;INA;JNNA;IPA;JHA;IBA;
JHA;IMA;IYA;IRA;JRA;ILA;JLA;KLA;IVA;ISHA;JSA;JA;IHA;BVOWEL SIGN OE;NOE;BSIGN NUKTA;GAVAGRAHA;BVOWEL SIGN AA;MI;NI;MU;
NU;MVOCALIC R;VR;MCANDRA E;MSHORT E;ME;MAI;MCANDRA O;MSHORT O;MO;MAU;BSIGN VIRAMA;BVOWEL SIGN PRISHTHAMATRA E;MAW;BOM;
BSTRESS SIGN UDATTA;NANUDATTA;BGRAVE ACCENT;BACUTE ACCENT;BVOWEL SIGN CANDRA LONG E;MUE;NUE;BLETTER QA;IKHHA;IGHHA;IZA;
IDDDHA;IRHA;IFA;IYYA;IVOCALIC RR;QLL;BVOWEL SIGN VOCALIC L;VL;BDANDA;COUBLE DANDA;CIGIT ZERO;HONE;HTWO;IHREE;HFOUR;
IIVE;HSIX;IEVEN;HEIGHT;HNINE;BABBREVIATION SIGN;BSIGN HIGH SPACING DOT;BLETTER CANDRA A;IOE;JOE;IAW;IUE;JUE;
IMARWARI DDA;IZHA;IHEAVY YA;IGGA;IJJA;IGLOTTAL STOP;IDDDA;IBBA;0BENGALI ANJI;8SIGN CANDRABINDU;DANUSVARA;DVISARGA;@985;
8LETTER A;GA;FI;GI;FU;GU;FVOCALIC R;NL;@98F;FE;FAI;@993;FO;FAU;FKA;GHA;FGA;GHA;FNGA;FCA;GHA;FJA;GHA;FNYA;FTTA;HHA;FDDA;
HHA;FNNA;FTA;GHA;FDA;GHA;FNA;@9AA;FPA;GHA;FBA;GHA;FMA;FYA;FRA;@9B2;FLA;@9B6;FSHA;GSA;GA;FHA;@9BC;8SIGN NUKTA;DAVAGRAHA;
8VOWEL SIGN AA;JI;KI;JU;KU;JVOCALIC R;SR;@9C7;JE;JAI;@9CB;JO;JAU;8SIGN VIRAMA;8LETTER KHANDA TA;@9D7;8AU LENGTH MARK;
@9DC;8LETTER RRA;GHA;@9DF;FYYA;FVOCALIC RR;NLL;8VOWEL SIGN VOCALIC L;SL;@9E6;8DIGIT ZERO;EONE;ETWO;FHREE;EFOUR;FIVE;
ESIX;FEVEN;EEIGHT;ENINE;8LETTER RA WITH MIDDLE DIAGONAL;NLOWER DIAGONAL;8RUPEE MARK;ESIGN;8CURRENCY NUMERATOR ONE;RTWO;
SHREE;RFOUR;RONE LESS THAN THE DENOMINATOR;HDENOMINATOR SIXTEEN;8ISSHAR;8GANDA MARK;8LETTER VEDIC ANUSVARA;
8ABBREVIATION SIGN;8SANDHI MARK;@A01;0GURMUKHI SIGN ADAK BINDI;EBINDI;EVISARGA;@A05;9LETTER A;HA;GI;HI;GU;HU;@A0F;GEE;
GAI;@A13;GOO;GAU;GKA;HHA;GGA;HHA;GNGA;GCA;HHA;GJA;HHA;GNYA;GTTA;IHA;GDDA;IHA;GNNA;GTA;HHA;GDA;HHA;GNA;@A2A;GPA;HHA;GBA;
HHA;GMA;GYA;GRA;@A32;GLA;HLA;@A35;GVA;GSHA;@A38;HA;GHA;@A3C;9SIGN NUKTA;@A3E;9VOWEL SIGN AA;KI;LI;KU;LU;@A47;KEE;KAI;
@A4B;KOO;KAU;9SIGN VIRAMA;@A51;EUDAAT;@A59;9LETTER KHHA;GGHHA;GZA;GRRA;@A5E;GFA;@A66;9DIGIT ZERO;FONE;FTWO;GHREE;FFOUR;
GIVE;FSIX;GEVEN;FEIGHT;FNINE;9TIPPI;9ADDAK;9IRI;9URA;9EK ONKAR;9SIGN YAKASH;9ABBREVIATION SIGN;@A81;
2JARATI SIGN CANDRABINDU;EANUSVARA;EVISARGA;@A85;9LETTER A;HA;GI;HI;GU;HU;GVOCALIC R;OL;9VOWEL CANDRA E;@A8F;9LETTER E;
GAI;9VOWEL CANDRA O;@A93;9LETTER O;GAU;GKA;HHA;GGA;HHA;GNGA;GCA;HHA;GJA;HHA;GNYA;GTTA;IHA;GDDA;IHA;GNNA;GTA;HHA;GDA;
HHA;GNA;@AAA;GPA;HHA;GBA;HHA;GMA;GYA;GRA;@AB2;GLA;HLA;@AB5;GVA;GSHA;HSA;HA;GHA;@ABC;9SIGN NUKTA;EAVAGRAHA;
9VOWEL SIGN AA;KI;LI;KU;LU;KVOCALIC R;TR;KCANDRA E;@AC7;KE;KAI;KCANDRA O;@ACB;KO;KAU;9SIGN VIRAMA;@AD0;9OM;@AE0;
9LETTER VOCALIC RR;OLL;9VOWEL SIGN VOCALIC L;TL;@AE6;9DIGIT ZERO;FONE;FTWO;GHREE;FFOUR;GIVE;FSIX;GEVEN;FEIGHT;FNINE;
9ABBREVIATION SIGN;9RUPEE SIGN;@AF9;9LETTER ZHA;9SIGN SUKUN;FHADDA;EMADDAH;ETHREE-DOT NUKTA ABOVE;ECIRCLE NUKTA ABOVE;
ETWO-CIRCLE NUKTA ABOVE;@B01;0ORIYA SIGN CANDRABINDU;BANUSVARA;BVISARGA;@B05;6LETTER A;EA;DI;EI;DU;EU;DVOCALIC R;LL;
@B0F;DE;DAI;@B13;DO;DAU;DKA;EHA;DGA;EHA;DNGA;DCA;EHA;DJA;EHA;DNYA;DTTA;FHA;DDDA;FHA;DNNA;DTA;EHA;DDA;EHA;DNA;@B2A;DPA;
EHA;DBA;EHA;DMA;DYA;DRA;@B32;DLA;ELA;@B35;DVA;DSHA;ESA;EA;DHA;@B3C;6SIGN NUKTA;BAVAGRAHA;6VOWEL SIGN AA;HI;II;HU;IU;
HVOCALIC R;QR;@B47;HE;HAI;@B4B;HO;HAU;6SIGN VIRAMA;@B55;BOVERLINE;6AI LENGTH MARK;7U LENGTH MARK;@B5C;6LETTER RRA;EHA;
@B5F;DYYA;DVOCALIC RR;LLL;6VOWEL SIGN VOCALIC L;QL;@B66;6DIGIT ZERO;CONE;CTWO;DHREE;CFOUR;DIVE;CSIX;DEVEN;CEIGHT;CNINE;
6ISSHAR;6LETTER WA;6FRACTION ONE QUARTER;JHALF;FTHREE QUARTERS;FONE SIXTEENTH;JEIGHTH;FTHREE SIXTEENTHS;@B82;
0TAMIL SIGN ANUSVARA;BVISARGA;@B85;6LETTER A;EA;DI;EI;DU;EU;@B8E;DE;EE;DAI;@B92;DO;EO;DAU;DKA;@B99;DNGA;DCA;@B9C;DJA;
@B9E;DNYA;DTTA;@BA3;DNNA;DTA;@BA8;DNA;ENNA;DPA;@BAE;DMA;DYA;DRA;ERA;DLA;ELA;FLA;DVA;DSHA;ESA;EA;DHA;@BBE;
6VOWEL SIGN AA;HI;II;HU;IU;@BC6;HE;IE;HAI;@BCA;HO;IO;HAU;6SIGN VIRAMA;@BD0;6OM;@BD7;6AU LENGTH MARK;@BE6;6DIGIT ZERO;
CONE;CTWO;DHREE;CFOUR;DIVE;CSIX;DEVEN;CEIGHT;CNINE;6NUMBER TEN;DONE HUNDRED;HTHOUSAND;6DAY SIGN;6MONTH SIGN;6YEAR SIGN;
6DEBIT SIGN;6CREDIT SIGN;6AS ABOVE SIGN;6RUPEE SIGN;6NUMBER SIGN;@C00;1ELUGU SIGN COMBINING CANDRABINDU ABOVE;
DANDRABINDU;CANUSVARA;CVISARGA;CCOMBINING ANUSVARA ABOVE;7LETTER A;FA;EI;FI;EU;FU;EVOCALIC R;ML;@C0E;EE;FE;EAI;@C12;EO;
FO;EAU;EKA;FHA;EGA;FHA;ENGA;ECA;FHA;EJA;FHA;ENYA;ETTA;GHA;EDDA;GHA;ENNA;ETA;FHA;EDA;FHA;ENA;@C2A;EPA;FHA;EBA;FHA;EMA;
EYA;ERA;FRA;ELA;FLA;GLA;EVA;ESHA;FSA;FA;EHA;@C3C;7SIGN NUKTA;CAVAGRAHA;7VOWEL SIGN AA;II;JI;IU;JU;IVOCALIC R;RR;@C46;
IE;JE;IAI;@C4A;IO;JO;IAU;7SIGN VIRAMA;@C55;7LENGTH MARK;7AI LENGTH MARK;@C58;7LETTER TSA;EDZA;ERRRA;@C5D;
ENAKAARA POLLU;@C60;EVOCALIC RR;MLL;7VOWEL SIGN VOCALIC L;RL;@C66;7DIGIT ZERO;DONE;DTWO;EHREE;DFOUR;EIVE;DSIX;EEVEN;
DEIGHT;DNINE;@C77;7SIGN SIDDHAM;7FRACTION DIGIT ZERO FOR ODD POWERS OF FOUR;MONE FOR ODD POWERS OF FOUR;
MTWO FOR ODD POWERS OF FOUR;NHREE FOR ODD POWERS OF FOUR;MONE FOR EVEN POWERS OF FOUR;MTWO FOR EVEN POWERS OF FOUR;
NHREE FOR EVEN POWERS OF FOUR;7SIGN TUUMU;0KANNADA SIGN SPACING CANDRABINDU;DCANDRABINDU;DANUSVARA;DVISARGA;DSIDDHAM;
8LETTER A;GA;FI;GI;FU;GU;FVOCALIC R;NL;@C8E;FE;GE;FAI;@C92;FO;GO;FAU;FKA;GHA;FGA;GHA;FNGA;FCA;GHA;FJA;GHA;FNYA;FTTA;
HHA;FDDA;HHA;FNNA;FTA;GHA;FDA;GHA;FNA;@CAA;FPA;GHA;FBA;GHA;FMA;FYA;FRA;GRA;FLA;GLA;@CB5;FVA;FSHA;GSA;GA;FHA;@CBC;
8SIGN NUKTA;DAVAGRAHA;8VOWEL SIGN AA;JI;KI;JU;KU;JVOCALIC R;SR;@CC6;JE;KE;JAI;@CCA;JO;KO;JAU;8SIGN VIRAMA;@CD5;
8LENGTH MARK;8AI LENGTH MARK;@CDD;8LETTER NAKAARA POLLU;FFA;@CE0;FVOCALIC RR;NLL;8VOWEL SIGN VOCALIC L;SL;@CE6;
8DIGIT ZERO;EONE;ETWO;FHREE;EFOUR;FIVE;ESIX;FEVEN;EEIGHT;ENINE;@CF1;8SIGN JIHVAMULIYA;DUPADHMANIYA;@D00;
0MALAYALAM SIGN COMBINING ANUSVARA ABOVE;GANDRABINDU;FANUSVARA;FVISARGA;ALETTER VEDIC ANUSVARA;HA;IA;HI;II;HU;IU;
HVOCALIC R;PL;@D0E;HE;IE;HAI;@D12;HO;IO;HAU;HKA;IHA;HGA;IHA;HNGA;HCA;IHA;HJA;IHA;HNYA;HTTA;JHA;HDDA;JHA;HNNA;HTA;IHA;
HDA;IHA;HNA;INNA;HPA;IHA;HBA;IHA;HMA;HYA;HRA;IRA;HLA;ILA;JLA;HVA;HSHA;ISA;IA;HHA;HTTTA;ASIGN VERTICAL BAR VIRAMA;
FCIRCULAR VIRAMA;FAVAGRAHA;AVOWEL SIGN AA;LI;MI;LU;MU;LVOCALIC R;UR;@D46;LE;ME;LAI;@D4A;LO;MO;LAU;ASIGN VIRAMA;
ALETTER DOT REPH;ASIGN PARA;@D54;ALETTER CHILLU M;OY;OLLL;AAU LENGTH MARK;AFRACTION ONE ONE-HUNDRED-AND-SIXTIETH;
NFORTIETH;JTHREE EIGHTIETHS;JONE TWENTIETH;OENTH;JTHREE TWENTIETHS;JONE FIFTH;ALETTER ARCHAIC II;HVOCALIC RR;PLL;
AVOWEL SIGN VOCALIC L;UL;@D66;ADIGIT ZERO;GONE;GTWO;HHREE;GFOUR;HIVE;GSIX;HEVEN;GEIGHT;GNINE;ANUMBER TEN;HONE HUNDRED;
LTHOUSAND;AFRACTION ONE QUARTER;NHALF;JTHREE QUARTERS;JONE SIXTEENTH;NEIGHTH;JTHREE SIXTEENTHS;ADATE MARK;
ALETTER CHILLU NN;P;ORR;OL;PL;OK;@D81;0SINHALA SIGN CANDRABINDU;DANUSVARAYA;DVISARGAYA;@D85;8LETTER AYANNA;GAYANNA;
GEYANNA;HEYANNA;FIYANNA;GIYANNA;FUYANNA;GUYANNA;FIRUYANNA;IUYANNA;GLUYANNA;IUYANNA;FEYANNA;GEYANNA;FAIYANNA;FOYANNA;
GOYANNA;FAUYANNA;@D9A;GLPAPRAANA KAYANNA;FMAHAAPRAANA KAYANNA;FALPAPRAANA GAYANNA;FMAHAAPRAANA GAYANNA;
FKANTAJA NAASIKYAYA;FSANYAKA GAYANNA;FALPAPRAANA CAYANNA;FMAHAAPRAANA CAYANNA;FALPAPRAANA JAYANNA;FMAHAAPRAANA JAYANNA;
FTAALUJA NAASIKYAYA;NSANYOOGA NAAKSIKYAYA;FSANYAKA JAYANNA;FALPAPRAANA TTAYANNA;FMAHAAPRAANA TTAYANNA;
FALPAPRAANA DDAYANNA;FMAHAAPRAANA DDAYANNA;GUURDHAJA NAYANNA;FSANYAKA DDAYANNA;FALPAPRAANA TAYANNA;
FMAHAAPRAANA TAYANNA;FALPAPRAANA DAYANNA;FMAHAAPRAANA DAYANNA;FDANTAJA NAYANNA;@DB3;FSANYAKA DAYANNA;
FALPAPRAANA PAYANNA;FMAHAAPRAANA PAYANNA;FALPAPRAANA BAYANNA;FMAHAAPRAANA BAYANNA;HYANNA;FAMBA BAYANNA;FYAYANNA;
FRAYANNA;@DBD;FDANTAJA LAYANNA;@DC0;FVAYANNA;FTAALUJA SAYANNA;FMUURDHAJA SAYANNA;FDANTAJA SAYANNA;FHAYANNA;
FMUURDHAJA LAYANNA;FFAYANNA;@DCA;8SIGN AL-LAKUNA;@DCF;8VOWEL SIGN AELA-PILLA;JKETTI AEDA-PILLA;JDIGA AEDA-PILLA;
JKETTI IS-PILLA;JDIGA IS-PILLA;JKETTI PAA-PILLA;@DD6;JDIGA PAA-PILLA;@DD8;JGAETTA-PILLA;JKOMBUVA;JDIGA KOMBUVA;
JKOMBU DEKA;OVA HAA AELA-PILLA;VDIGA AELA-PILLA;VGAYANUKITTA;JGAYANUKITTA;@DE6;8LITH DIGIT ZERO;JONE;JTWO;KHREE;JFOUR;
KIVE;JSIX;KEVEN;JEIGHT;JNINE;@DF2;8VOWEL SIGN DIGA GAETTA-PILLA;QYANUKITTA;8PUNCTUATION KUNDDALIYA;@E01;
0THAI CHARACTER KO KAI;GHO KHAI;LUAT;LWAI;LON;JRAKHANG;FNGO NGU;FCHO CHAN;LING;LANG;FSO SO;FCHO CHOE;FYO YING;
FDO CHADA;FTO PATAK;GHO THAN;JNANGMONTHO;JPHUTHAO;FNO NEN;FDO DEK;FTO TAO;GHO THUNG;LAHAN;LONG;FNO NU;FBO BAIMAI;
FPO PLA;GHO PHUNG;FFO FA;FPHO PHAN;FFO FAN;FPHO SAMPHAO;FMO MA;FYO YAK;FRO RUA;GU;FLO LING;GU;FWO WAEN;FSO SALA;IRUSI;
ISUA;FHO HIP;FLO CHULA;FO ANG;FHO NOKHUK;FPAIYANNOI;FSARA A;FMAI HAN-AKAT;FSARA AA;LM;KI;LI;KUE;ME;L;LU;FPHINTHU;@E3F;
6URRENCY SYMBOL BAHT;6HARACTER SARA E;KAE;KO;KAI MAIMUAN;RALAI;FLAKKHANGYAO;FMAIYAMOK;ITAIKHU;I EK;JTHO;KRI;JCHATTAWA;
FTHANTHAKHAT;FNIKHAHIT;FYAMAKKAN;FFONGMAN;5DIGIT ZERO;BONE;BTWO;CHREE;BFOUR;CIVE;BSIX;CEVEN;BEIGHT;BNINE;
5CHARACTER ANGKHANKHU;FKHOMUT;@E81;0LAO LETTER KO;CHO SUNG;@E84;FTAM;@E86;BPALI GHA;BNGO;BCO;BPALI CHA;BSO TAM;@E8C;
BPALI JHA;BNYO;BPALI NYA;GTTA;IHA;GDDA;IHA;GNNA;BDO;BTO;CHO SUNG;FTAM;BPALI DHA;BNO;BBO;BPO;CHO SUNG;BFO TAM;BPHO TAM;
BFO SUNG;BPALI BHA;BMO;BYO;BLO LING;@EA5;FOOT;@EA7;BWO;BSANSKRIT SHA;LSA;CO SUNG;BHO SUNG;BPALI LLA;BO;BHO TAM;
4ELLIPSIS;4VOWEL SIGN A;FMAI KAN;FAA;GM;FI;GI;FY;GY;FU;GU;4SIGN PALI VIRAMA;4VOWEL SIGN MAI KON;4SEMIVOWEL SIGN LO;
JNYO;@EC0;4VOWEL SIGN E;GI;FO;FAY;GI;@EC6;4KO LA;@EC8;4TONE MAI EK;DTHO;EI;DCATAWA;4CANCELLATION MARK;4NIGGAHITA;@ED0;
4DIGIT ZERO;AONE;ATWO;BHREE;AFOUR;BIVE;ASIX;BEVEN;AEIGHT;ANINE;@EDC;4HO NO;7MO;4LETTER KHMU GO;GNYO;@F00;
0TIBETAN SYLLABLE OM;8MARK GTER YIG MGO TRUNCATED A;Q-UM RNAM BCAD MA;UGTER TSHEG MA;DINITIAL YIG MGO MDUN MA;
DCLOSING YIG MGO SGAB MA;EARET YIG MGO PHUR SHAD MA;DYIG MGO TSHEG SHAD MA;DSBRUL SHAD;DBSKUR YIG MGO;
EKA- SHOG YIG MGO;DINTERSYLLABIC TSHEG;DDELIMITER TSHEG BSTAR;DSHAD;DNYIS SHAD;DTSHEG SHAD;DNYIS TSHEG SHAD;
DRIN CHEN SPUNGS SHAD;EGYA GRAM SHAD;DCARET -DZUD RTAGS ME LONG CAN;DGTER TSHEG;8LOGOTYPE SIGN CHAD RTAGS;MLHAG RTAGS;
8ASTROLOGICAL SIGN SGRA GCAN -CHAR RTAGS;Q-KHYUD PA;QSDONG TSHUGS;8SIGN RDEL DKAR GCIG;ONYIS;OSUM;INAG GCIG;NNYIS;
IDKAR RDEL NAG;8DIGIT ZERO;EONE;ETWO;FHREE;EFOUR;FIVE;ESIX;FEVEN;EEIGHT;ENINE;EHALF ONE;JTWO;KHREE;JFOUR;KIVE;JSIX;
KEVEN;JEIGHT;JNINE;JZERO;8MARK BSDUS RTAGS;DNGAS BZUNG NYI ZLA;DCARET -DZUD RTAGS BZHI MIG CAN;DNGAS BZUNG SGOR RTAGS;
DCHE MGO;DTSA -PHRU;DGUG RTAGS GYON;PAS;DANG KHANG GYON;PAS;8SIGN YAR TSHES;DMAR TSHES;8LETTER KA;GHA;FGA;GHA;FNGA;FCA;
GHA;FJA;@F49;FNYA;FTTA;HHA;FDDA;HHA;FNNA;FTA;GHA;FDA;GHA;FNA;FPA;GHA;FBA;GHA;FMA;FTSA;HHA;FDZA;HHA;FWA;FZHA;GA;F-A;FYA;
FRA;FLA;FSHA;GSA;GA;FHA;FA;FKSSA;FFIXED-FORM RA;FKKA;FRRA;@F71;8VOWEL SIGN AA;JI;KI;JU;KU;JVOCALIC R;SR;RL;SL;JE;KE;JO;
KO;8SIGN RJES SU NGA RO;ENAM BCAD;8VOWEL SIGN REVERSED I;TI;8SIGN NYI ZLA NAA DA;DSNA LDAN;8MARK HALANTA;DPALUTA;
8SIGN LCI RTAGS;DYANG RTAGS;DLCE TSA CAN;DMCHU CAN;DGRU CAN RGYINGS;HMED RGYINGS;DINVERTED MCHU CAN;
9UBJOINED SIGN LCE TSA CAN;NMCHU CAN;NINVERTED MCHU CAN;ILETTER KA;QHA;PGA;QHA;PNGA;PCA;QHA;PJA;@F99;PNYA;PTTA;RHA;
PDDA;RHA;PNNA;PTA;QHA;PDA;QHA;PNA;PPA;QHA;PBA;QHA;PMA;PTSA;RHA;PDZA;RHA;PWA;PZHA;QA;P-A;PYA;PRA;PLA;PSHA;QSA;QA;PHA;PA;
PKSSA;PFIXED-FORM WA;aYA;aRA;@FBE;8KU RU KHA;H BZHI MIG CAN;8CANTILLATION SIGN HEAVY BEAT;QLIGHT BEAT;QCANG TE-U;
QSBUB -CHAL;8SYMBOL DRIL BU;FRDO RJE;FPADMA GDAN;FRDO RJE RGYA GRAM;FPHUR PA;FNOR BU;L NYIS -KHYIL;MGSUM -KHYIL;
MBZHI -KHYIL;@FCE;9IGN RDEL NAG RDEL DKAR;MGSUM;8MARK BSKA- SHOG GI MGO RGYAN;DMNYAM YIG GI MGO RGYAN;DNYIS TSHEG;
DINITIAL BRDA RNYING YIG MGO MDUN MA;DCLOSING BRDA RNYING YIG MGO SGAB MA;0RIGHT-FACING SVASTI SIGN;
0LEFT-FACING SVASTI SIGN;0RIGHT-FACING SVASTI SIGN WITH DOTS;0LEFT-FACING SVASTI SIGN WITH DOTS;
0TIBETAN MARK LEADING MCHAN RTAGS;DTRAILING MCHAN RTAGS;@1000;0MYANMAR LETTER KA;GHA;FGA;GHA;FNGA;FCA;GHA;FJA;GHA;FNYA;
GNYA;FTTA;HHA;FDDA;HHA;FNNA;FTA;GHA;FDA;GHA;FNA;FPA;GHA;FBA;GHA;FMA;FYA;FRA;FLA;FWA;FSA;FHA;FLLA;FA;FSHAN A;FI;GI;FU;
GU;FE;FMON E;FO;FAU;8VOWEL SIGN TALL AA;JAA;JI;KI;JU;KU;JE;JAI;JMON II;NO;JE ABOVE;8SIGN ANUSVARA;DDOT BELOW;DVISARGA;
FRAMA;DASAT;8CONSONANT SIGN MEDIAL YA;URA;UWA;UHA;8LETTER GREAT SA;8DIGIT ZERO;EONE;ETWO;FHREE;EFOUR;FIVE;ESIX;FEVEN;
EEIGHT;ENINE;8SIGN LITTLE SECTION;DSECTION;9YMBOL LOCATIVE;FCOMPLETED;FAFOREMENTIONED;FGENITIVE;8LETTER SHA;GSA;
FVOCALIC R;OR;NL;OL;8VOWEL SIGN VOCALIC R;SR;RL;SL;8LETTER MON NGA;JJHA;JBBA;LE;8CONSONANT SIGN MON MEDIAL NA;YMA;YLA;
8LETTER SGAW KAREN SHA;8VOWEL SIGN SGAW KAREN EU;8TONE MARK SGAW KAREN HATHI;TKE PHO;8LETTER WESTERN PWO KAREN THA;
XPWA;8VOWEL SIGN WESTERN PWO KAREN EU;bUE;8SIGN WESTERN PWO KAREN TONE-1;a2;a3;a4;a5;8LETTER EASTERN PWO KAREN NNA;
XYWA;XGHWA;8VOWEL SIGN GEBA KAREN I;JKAYAH OE;PU;PEE;8LETTER SHAN KA;LHA;KGA;KCA;KZA;KNYA;KDA;KNA;KPHA;KFA;KBA;KTHA;
KHA;8CONSONANT SIGN SHAN MEDIAL WA;8VOWEL SIGN SHAN AA;OE;P ABOVE;OFINAL Y;8SIGN SHAN TONE-2;N3;N5;N6;ICOUNCIL TONE-2;
V3;QEMPHATIC TONE;8LETTER RUMAI PALAUNG FA;8SIGN RUMAI PALAUNG TONE-5;9HAN DIGIT ZERO;JONE;JTWO;KHREE;JFOUR;KIVE;JSIX;
KEVEN;JEIGHT;JNINE;9IGN KHAMTI TONE-1;P3;8VOWEL SIGN AITON A;QI;8SYMBOL SHAN ONE;KEXCLAMATION;
0GEORGIAN CAPITAL LETTER AN;OBAN;OGAN;ODON;OEN;OVIN;OZEN;OTAN;OIN;OKAN;OLAS;OMAN;ONAR;OON;OPAR;OZHAR;ORAE;OSAN;OTAR;
OUN;OPHAR;OKHAR;OGHAN;OQAR;OSHIN;OCHIN;PAN;OJIL;OCIL;PHAR;OXAN;OJHAN;OHAE;PE;PIE;OWE;OHAR;POE;@10C7;OYN;@10CD;OAEN;
@10D0;9LETTER AN;GBAN;GGAN;GDON;GEN;GVIN;GZEN;GTAN;GIN;GKAN;GLAS;GMAN;GNAR;GON;GPAR;GZHAR;GRAE;GSAN;GTAR;GUN;GPHAR;
GKHAR;GGHAN;GQAR;GSHIN;GCHIN;HAN;GJIL;GCIL;HHAR;GXAN;GJHAN;GHAE;HE;HIE;GWE;GHAR;HOE;GFI;GYN;GELIFI;GTURNED GAN;GAIN;
9PARAGRAPH SEPARATOR;0MODIFIER LETTER GEORGIAN NAR;0GEORGIAN LETTER AEN;GHARD SIGN;GLABIAL SIGN;
0HANGUL CHOSEONG KIYEOK;GSSANGKIYEOK;GNIEUN;GTIKEUT;GSSANGTIKEUT;GRIEUL;GMIEUM;GPIEUP;GSSANGPIEUP;HIOS;HSANGSIOS;
GIEUNG;GCIEUC;GSSANGCIEUC;GCHIEUCH;GKHIEUKH;GTHIEUTH;GPHIEUPH;GHIEUH;GNIEUN-KIYEOK;GSSANGNIEUN;GNIEUN-TIKEUT;MPIEUP;
GTIKEUT-KIYEOK;GRIEUL-NIEUN;GSSANGRIEUL;GRIEUL-HIEUH;GKAPYEOUNRIEUL;GMIEUM-PIEUP;GKAPYEOUNMIEUM;GPIEUP-KIYEOK;MNIEUN;
MTIKEUT;MSIOS;Q-KIYEOK;RTIKEUT;RPIEUP;NSANGSIOS;NIOS-CIEUC;MCIEUC;NHIEUCH;MTHIEUTH;MPHIEUPH;GKAPYEOUNPIEUP;OSSANGPIEUP;
GSIOS-KIYEOK;LNIEUN;LTIKEUT;LRIEUL;LMIEUM;LPIEUP;Q-KIYEOK;LSSANGSIOS;LIEUNG;LCIEUC;MHIEUCH;LKHIEUKH;LTHIEUTH;LPHIEUPH;
LHIEUH;GCHITUEUMSIOS;PSANGSIOS;HEONGCHIEUMSIOS;SSANGSIOS;GPANSIOS;GIEUNG-KIYEOK;MTIKEUT;MMIEUM;MPIEUP;MSIOS;MPANSIOS;
GSSANGIEUNG;GIEUNG-CIEUC;NHIEUCH;MTHIEUTH;MPHIEUPH;GYESIEUNG;GCIEUC-IEUNG;HHITUEUMCIEUC;OSSANGCIEUC;HEONGCHIEUMCIEUC;
RSSANGCIEUC;HHIEUCH-KHIEUKH;OHIEUH;JTUEUMCHIEUCH;HEONGCHIEUMCHIEUCH;GPHIEUPH-PIEUP;GKAPYEOUNPHIEUPH;GSSANGHIEUH;
GYEORINHIEUH;GKIYEOK-TIKEUT;GNIEUN-SIOS;MCIEUC;MHIEUH;GTIKEUT-RIEUL;GFILLER;7JUNGSEONG FILLER;HA;IE;HYA;JE;HEO;I;HYEO;
J;HO;HWA;JE;HOE;HYO;HU;HWEO;J;II;HYU;HEU;HYI;HI;HA-O;JU;HYA-O;KYO;HEO-O;KU;KEU;HYEO-O;LU;HO-EO;K;JYE;JO;JU;HYO-YA;ME;
LEO;KO;KI;HU-A;KE;JEO-EU;JYE;JU;HYU-A;KEO;L;KYEO;M;KU;KI;HEU-U;KEU;HYI-U;HI-A;JYA;JO;JU;JEU;JARAEA;HARAEA;M-EO;NU;NI;
HSSANGARAEA;HA-EU;HYA-U;IEO-YA;HO-YA;LE;8ONGSEONG KIYEOK;HSSANGKIYEOK;HKIYEOK-SIOS;HNIEUN;M-CIEUC;NHIEUH;HTIKEUT;
HRIEUL;M-KIYEOK;NMIEUM;NPIEUP;NSIOS;NTHIEUTH;NPHIEUPH;NHIEUH;HMIEUM;HPIEUP;M-SIOS;HSIOS;ISANGSIOS;HIEUNG;HCIEUC;
IHIEUCH;HKHIEUKH;HTHIEUTH;HPHIEUPH;HHIEUH;HKIYEOK-RIEUL;OSIOS-KIYEOK;HNIEUN-KIYEOK;NTIKEUT;NSIOS;NPANSIOS;NTHIEUTH;
HTIKEUT-KIYEOK;ORIEUL;HRIEUL-KIYEOK-SIOS;NNIEUN;NTIKEUT;T-HIEUH;HSSANGRIEUL;HRIEUL-MIEUM-KIYEOK;TSIOS;NPIEUP-SIOS;
THIEUH;NKAPYEOUNPIEUP;NSSANGSIOS;NPANSIOS;NKHIEUKH;NYEORINHIEUH;HMIEUM-KIYEOK;NRIEUL;NPIEUP;NSIOS;OSANGSIOS;NPANSIOS;
NCHIEUCH;NHIEUH;HKAPYEOUNMIEUM;HPIEUP-RIEUL;NPHIEUPH;NHIEUH;HKAPYEOUNPIEUP;HSIOS-KIYEOK;MTIKEUT;MRIEUL;MPIEUP;HPANSIOS;
HIEUNG-KIYEOK;NSSANGKIYEOK;HSSANGIEUNG;HIEUNG-KHIEUKH;HYESIEUNG;P-SIOS;QPANSIOS;HPHIEUPH-PIEUP;HKAPYEOUNPHIEUPH;
HHIEUH-NIEUN;NRIEUL;NMIEUM;NPIEUP;HYEORINHIEUH;HKIYEOK-NIEUN;OPIEUP;OCHIEUCH;OKHIEUKH;OHIEUH;HSSANGNIEUN;
0ETHIOPIC SYLLABLE HA;JU;JI;JAA;JEE;K;JO;KA;ILA;JU;JI;JAA;JEE;K;JO;JWA;IHHA;KU;KI;KAA;KEE;L;KO;KWA;IMA;JU;JI;JAA;JEE;K;
JO;JWA;ISZA;KU;KI;KAA;KEE;L;KO;KWA;IRA;JU;JI;JAA;JEE;K;JO;JWA;ISA;JU;JI;JAA;JEE;K;JO;JWA;JHA;KU;KI;KAA;KEE;L;KO;KWA;
IQA;JU;JI;JAA;JEE;K;JO;KA;JWA;@124A;KI;KAA;KEE;L;@1250;JHA;KU;KI;KAA;KEE;L;KO;@1258;KWA;@125A;LI;LAA;LEE;M;@1260;IBA;
JU;JI;JAA;JEE;K;JO;JWA;IVA;JU;JI;JAA;JEE;K;JO;JWA;ITA;JU;JI;JAA;JEE;K;JO;JWA;ICA;JU;JI;JAA;JEE;K;JO;JWA;IXA;JU;JI;JAA;
JEE;K;JO;KA;JWA;@128A;KI;KAA;KEE;L;@1290;INA;JU;JI;JAA;JEE;K;JO;JWA;JYA;KU;KI;KAA;KEE;L;KO;KWA;IGLOTTAL A;QU;QI;QAA;
QEE;R;QO;QWA;IKA;JU;JI;JAA;JEE;K;JO;KA;JWA;@12B2;KI;KAA;KEE;L;@12B8;JXA;KU;KI;KAA;KEE;L;KO;@12C0;KWA;@12C2;LI;LAA;LEE;
M;@12C8;IWA;JU;JI;JAA;JEE;K;JO;KA;IPHARYNGEAL A;TU;TI;TAA;TEE;U;TO;@12D8;IZA;JU;JI;JAA;JEE;K;JO;JWA;JHA;KU;KI;KAA;KEE;
L;KO;KWA;IYA;JU;JI;JAA;JEE;K;JO;KA;IDA;JU;JI;JAA;JEE;K;JO;JWA;JDA;KU;KI;KAA;KEE;L;KO;KWA;IJA;JU;JI;JAA;JEE;K;JO;JWA;
IGA;JU;JI;JAA;JEE;K;JO;KA;JWA;@1312;KI;KAA;KEE;L;@1318;JGA;KU;KI;KAA;KEE;L;KO;KWAA;ITHA;KU;KI;KAA;KEE;L;KO;KWA;ICHA;KU;
KI;KAA;KEE;L;KO;KWA;IPHA;KU;KI;KAA;KEE;L;KO;KWA;ITSA;KU;KI;KAA;KEE;L;KO;KWA;JZA;KU;KI;KAA;KEE;L;KO;LA;IFA;JU;JI;JAA;
JEE;K;JO;JWA;IPA;JU;JI;JAA;JEE;K;JO;JWA;IRYA;IMYA;IFYA;@135D;9COMBINING GEMINATION AND VOWEL LENGTH MARK;
JVOWEL LENGTH MARK;JGEMINATION MARK;9SECTION MARK;9WORDSPACE;9FULL STOP;9COMMA;9SEMICOLON;9COLON;9PREFACE COLON;
9QUESTION MARK;9PARAGRAPH SEPARATOR;9DIGIT ONE;FTWO;GHREE;FFOUR;GIVE;FSIX;GEVEN;FEIGHT;FNINE;9NUMBER TEN;HWENTY;HHIRTY;
GFORTY;HIFTY;GSIXTY;HEVENTY;GEIGHTY;GNINETY;GHUNDRED;GTEN THOUSAND;@1380;9SYLLABLE SEBATBEIT MWA;IMWI;KEE;L;
ISEBATBEIT BWA;IBWI;KEE;L;ISEBATBEIT FWA;IFWI;KEE;L;ISEBATBEIT PWA;IPWI;KEE;L;9TONAL MARK YIZET;KDERET;KRIKRIK;
KSHORT RIKRIK;KDIFAT;KKENAT;KCHIRET;KHIDET;KDERET-HIDET;KKURT;@13A0;0CHEROKEE LETTER A;GE;GI;GO;GU;GV;GGA;GKA;GGE;HI;
HO;HU;HV;GHA;HE;HI;HO;HU;HV;GLA;HE;HI;HO;HU;HV;GMA;HE;HI;HO;HU;GNA;GHNA;GNAH;HE;HI;HO;HU;HV;GQUA;IE;II;IO;IU;IV;GSA;H;
HE;HI;HO;HU;HV;GDA;GTA;GDE;GTE;GDI;GTI;GDO;HU;HV;HLA;GTLA;IE;II;IO;IU;IV;HSA;IE;II;IO;IU;IV;GWA;HE;HI;HO;HU;HV;GYA;HE;
HI;HO;HU;HV;GMV;@13F8;9SMALL LETTER YE;NI;NO;NU;NV;MMV;@1400;1ANADIAN SYLLABICS HYPHEN;JE;JAAI;JI;KI;JO;KO;JY-CREE OO;
JCARRIER EE;RI;JA;KA;JWE;LST-CREE WE;KI;KEST-CREE WI;KII;KEST-CREE WII;KO;KEST-CREE WO;KOO;KEST-CREE WOO;JNASKAPI WOO;
JWA;KEST-CREE WA;KAA;KEST-CREE WAA;JNASKAPI WAA;JAI;JY-CREE W;JGLOTTAL STOP;JFINAL ACUTE;PGRAVE;PBOTTOM HALF RING;
PTOP HALF RING;PRIGHT HALF RING;RNG;PDOUBLE ACUTE;WSHORT VERTICAL STROKES;PMIDDLE DOT;PSHORT HORIZONTAL STROKE;PPLUS;
PDOWN TACK;JEN;JIN;JON;JAN;JPE;KAAI;KI;LI;KO;LO;JY-CREE POO;JCARRIER HEE;SI;JPA;LA;KWE;JWEST-CREE PWE;JPWI;
JWEST-CREE PWI;JPWII;JWEST-CREE PWII;JPWO;JWEST-CREE PWO;JPWOO;JWEST-CREE PWOO;JPWA;JWEST-CREE PWA;JPWAA;
JWEST-CREE PWAA;JY-CREE PWAA;JP;JWEST-CREE P;JCARRIER H;JTE;KAAI;KI;LI;KO;LO;JY-CREE TOO;JCARRIER DEE;SI;JTA;LA;KWE;
JWEST-CREE TWE;JTWI;JWEST-CREE TWI;JTWII;JWEST-CREE TWII;JTWO;JWEST-CREE TWO;JTWOO;JWEST-CREE TWOO;JTWA;JWEST-CREE TWA;
JTWAA;JWEST-CREE TWAA;JNASKAPI TWAA;JT;KTE;LI;LO;LA;JKE;KAAI;KI;LI;KO;LO;JY-CREE KOO;JKA;LA;KWE;JWEST-CREE KWE;JKWI;
JWEST-CREE KWI;JKWII;JWEST-CREE KWII;JKWO;JWEST-CREE KWO;JKWOO;JWEST-CREE KWOO;JKWA;JWEST-CREE KWA;JKWAA;
JWEST-CREE KWAA;JNASKAPI KWAA;JK;KW;JSOUTH-SLAVEY KEH;XIH;XOH;XAH;JCE;KAAI;KI;LI;KO;LO;JY-CREE COO;JCA;LA;KWE;
JWEST-CREE CWE;JCWI;JWEST-CREE CWI;JCWII;JWEST-CREE CWII;JCWO;JWEST-CREE CWO;JCWOO;JWEST-CREE CWOO;JCWA;JWEST-CREE CWA;
JCWAA;JWEST-CREE CWAA;JNASKAPI CWAA;JC;JSAYISI TH;JME;KAAI;KI;LI;KO;LO;JY-CREE MOO;JMA;LA;KWE;JWEST-CREE MWE;JMWI;
JWEST-CREE MWI;JMWII;JWEST-CREE MWII;JMWO;JWEST-CREE MWO;JMWOO;JWEST-CREE MWOO;JMWA;JWEST-CREE MWA;JMWAA;
JWEST-CREE MWAA;JNASKAPI MWAA;JM;JWEST-CREE M;JMH;JATHAPASCAN M;JSAYISI M;JNE;KAAI;KI;LI;KO;LO;JY-CREE NOO;JNA;LA;KWE;
JWEST-CREE NWE;JNWA;JWEST-CREE NWA;JNWAA;JWEST-CREE NWAA;JNASKAPI NWAA;K;JCARRIER NG;JNH;JLE;KAAI;KI;LI;KO;LO;
JY-CREE LOO;JLA;LA;KWE;JWEST-CREE LWE;JLWI;JWEST-CREE LWI;JLWII;JWEST-CREE LWII;JLWO;JWEST-CREE LWO;JLWOO;
JWEST-CREE LWOO;JLWA;JWEST-CREE LWA;JLWAA;JWEST-CREE LWAA;JL;JWEST-CREE L;JMEDIAL L;JSE;KAAI;KI;LI;KO;LO;JY-CREE SOO;
JSA;LA;KWE;JWEST-CREE SWE;JSWI;JWEST-CREE SWI;JSWII;JWEST-CREE SWII;JSWO;JWEST-CREE SWO;JSWOO;JWEST-CREE SWOO;JSWA;
JWEST-CREE SWA;JSWAA;JWEST-CREE SWAA;JNASKAPI SWAA;JS;JATHAPASCAN S;JSW;JBLACKFOOT S;JMOOSE-CREE SK;JNASKAPI SKW;S-W;
SPWA;STWA;SKWA;SCWA;JSHE;LI;MI;LO;MO;LA;MA;LWE;JWEST-CREE SHWE;JSHWI;JWEST-CREE SHWI;JSHWII;JWEST-CREE SHWII;JSHWO;
JWEST-CREE SHWO;JSHWOO;JWEST-CREE SHWOO;JSHWA;JWEST-CREE SHWA;JSHWAA;JWEST-CREE SHWAA;JSH;JYE;KAAI;KI;LI;KO;LO;
K-CREE YOO;KA;LA;KWE;JWEST-CREE YWE;JYWI;JWEST-CREE YWI;JYWII;JWEST-CREE YWII;JYWO;JWEST-CREE YWO;JYWOO;
JWEST-CREE YWOO;JYWA;JWEST-CREE YWA;JYWAA;JWEST-CREE YWAA;JNASKAPI YWAA;JY;JBIBLE-CREE Y;JWEST-CREE Y;JSAYISI YI;JRE;
K-CREE RE;JWEST-CREE LE;JRAAI;KI;LI;KO;LO;JWEST-CREE LO;JRA;LA;JWEST-CREE LA;JRWAA;JWEST-CREE RWAA;JR;JWEST-CREE R;
JMEDIAL R;JFE;KAAI;KI;LI;KO;LO;KA;LA;KWAA;JWEST-CREE FWAA;JF;JTHE;JN-CREE THE;JTHI;JN-CREE THI;JTHII;JN-CREE THII;JTHO;
MO;LA;MA;LWAA;JWEST-CREE THWAA;JTH;KTHE;MI;MO;MA;M;KYE;LI;LO;LA;JNUNAVIK HE;SI;TI;SO;TO;SA;TA;S;OUT H;JHK;JQAAI;KI;LI;
KO;LO;KA;LA;K;JTLHE;MI;MO;MA;JWEST-CREE RE;UI;UO;UA;JNGAAI;LI;MI;LO;MO;LA;MA;L;KNG;JSAYISI SHE;SI;SO;SA;
JWOODS-CREE THE;WI;WO;WA;W;JLHI;MI;LO;MO;LA;MA;L;JTH-CREE THE;TI;UI;TO;UO;TA;UA;T;JAIVILIK B;JBLACKFOOT E;TI;TO;TA;TWE;
UI;UO;UA;TNE;UI;UO;UA;TKE;UI;UO;UA;JSAYISI HE;RI;RO;RA;JCARRIER GHU;TO;TE;UE;TI;TA;RRU;SO;SE;TE;SI;SA;RWU;SO;SE;TE;SI;
SA;RHWU;TO;TE;UE;TI;TA;RTHU;TO;TE;UE;TI;TA;STU;TO;TE;UE;TI;TA;RPU;SO;SE;TE;SI;SA;S;RGU;SO;SE;TE;SI;SA;RKHU;TO;TE;UE;TI;
TA;SKU;TO;TE;UE;TI;TA;T;RNU;SO;SE;TE;SI;SA;RMU;SO;SE;TE;SI;SA;RYU;SO;SE;TE;SI;SA;RJU;JSAYISI JU;JCARRIER JO;SE;TE;SI;
JSAYISI JI;JCARRIER JA;SJU;TO;TE;UE;TI;TA;RLU;SO;SE;TE;SI;SA;RDLU;TO;TE;UE;TI;TA;RLHU;TO;TE;UE;TI;TA;RTLHU;UO;UE;VE;UI;
UA;TU;TO;TE;UE;TI;TA;RZU;SO;SE;TE;SI;SA;S;RINITIAL Z;RDZU;TO;TE;UE;TI;TA;RSU;SO;SE;TE;SI;SA;SHU;TO;TE;UE;TI;TA;T;RTSU;
TO;TE;UE;TI;TA;RCHU;TO;TE;UE;TI;TA;RTTSU;UO;UE;VE;UI;UA;KHI SIGN;JFULL STOP;JQAI;JNGAI;KNGI;NI;MO;NO;MA;NA;
JWOODS-CREE THWEE;XI;YI;XO;YO;XA;YA;UFINAL TH;JBLACKFOOT W;0OGHAM SPACE MARK;6LETTER BEITH;DLUIS;DFEARN;DSAIL;DNION;
DUATH;DDAIR;DTINNE;DCOLL;EEIRT;DMUIN;DGORT;DNGEADAL;DSTRAIF;DRUIS;DAILM;DONN;DUR;DEADHADH;DIODHADH;DEABHADH;DOR;
DUILLEANN;DIFIN;DEAMHANCHOLL;DPEITH;6FEATHER MARK;6REVERSED FEATHER MARK;@16A0;0RUNIC LETTER FEHU FEOH FE F;DV;
DURUZ UR U;DYR;E;DW;DTHURISAZ THURS THORN;DETH;DANSUZ A;DOS O;DAC A;EESC;DLONG-BRANCH-OSS O;DSHORT-TWIG-OSS O;DO;EE;EN;
DRAIDO RAD REID R;DKAUNA;DCEN;DKAUN K;DG;DENG;DGEBO GYFU G;EAR;DWUNJO WYNN W;DHAGLAZ H;FEGL H;DLONG-BRANCH-HAGALL H;
DSHORT-TWIG-HAGALL H;DNAUDIZ NYD NAUD N;DSHORT-TWIG-NAUD N;DDOTTED-N;DISAZ IS ISS I;DE;DJERAN J;DGER;
DLONG-BRANCH-AR AE;DSHORT-TWIG-AR A;DIWAZ EOH;DPERTHO PEORTH P;DALGIZ EOLHX;DSOWILO S;EIGEL LONG-BRANCH-SOL S;
EHORT-TWIG-SOL S;DC;DZ;DTIWAZ TIR TYR T;DSHORT-TWIG-TYR T;DD;DBERKANAN BEORC BJARKAN B;DSHORT-TWIG-BJARKAN B;DDOTTED-P;
DOPEN-P;DEHWAZ EH E;DMANNAZ MAN M;DLONG-BRANCH-MADR M;DSHORT-TWIG-MADR M;DLAUKAZ LAGU LOGR L;DDOTTED-L;DINGWAZ;G;
DDAGAZ DAEG D;DOTHALAN ETHEL O;DEAR;DIOR;DCWEORTH;EALC;EEALC;DSTAN;DLONG-BRANCH-YR;DSHORT-TWIG-YR;DICELANDIC-YR;DQ;DX;
6SINGLE PUNCTUATION;6MULTIPLE PUNCTUATION;6CROSS PUNCTUATION;6ARLAUG SYMBOL;6TVIMADUR SYMBOL;6BELGTHOR SYMBOL;
6LETTER K;DSH;DOO;DFRANKS CASKET OS;RIS;REH;RAC;SESC;@1700;0TAGALOG LETTER A;FI;FU;FKA;FGA;FNGA;FTA;FDA;FNA;FPA;FBA;
FMA;FYA;FRA;FLA;FWA;FSA;FHA;8VOWEL SIGN I;JU;8SIGN VIRAMA;DPAMUDPOD;@171F;8LETTER ARCHAIC RA;0HANUNOO LETTER A;FI;FU;
FKA;FGA;FNGA;FTA;FDA;FNA;FPA;FBA;FMA;FYA;FRA;FLA;FWA;FSA;FHA;8VOWEL SIGN I;JU;8SIGN PAMUDPOD;
0PHILIPPINE SINGLE PUNCTUATION;BDOUBLE PUNCTUATION;@1740;0BUHID LETTER A;DI;DU;DKA;DGA;DNGA;DTA;DDA;DNA;DPA;DBA;DMA;
DYA;DRA;DLA;DWA;DSA;DHA;6VOWEL SIGN I;HU;@1760;0TAGBANWA LETTER A;GI;GU;GKA;GGA;GNGA;GTA;GDA;GNA;GPA;GBA;GMA;GYA;@176E;
GLA;GWA;GSA;@1772;9VOWEL SIGN I;KU;@1780;0KHMER LETTER KA;EHA;EO;EHO;DNGO;DCA;EHA;EO;EHO;DNYO;DDA;DTTHA;DDO;DTTHO;DNNO;
DTA;EHA;EO;EHO;DNO;DBA;DPHA;EO;EHO;DMO;DYO;DRO;DLO;DVO;DSHA;ESO;EA;DHA;DLA;DQA;6INDEPENDENT VOWEL QAQ;QA;PI;QI;PU;QK;
QU;RV;ORY;QY;OLY;QY;OQE;PAI;POO TYPE ONE;XTWO;PAU;6VOWEL INHERENT AQ;MA;CSIGN AA;HI;II;HY;IY;HU;IU;IA;HOE;HYA;HIE;HE;
HAE;II;HOO;HAU;6SIGN NIKAHIT;BREAHMUK;BYUUKALEAPINTU;BMUUSIKATOAN;BTRIISAP;BBANTOC;BROBAT;BTOANDAKHIAT;BKAKABAT;BAHSDA;
BSAMYOK SANNYA;BVIRIAM;BCOENG;BBATHAMASAT;BKHAN;BBARIYOOSAN;BCAMNUC PII KUUH;BLEK TOO;BBEYYAL;BPHNAEK MUAN;BKOOMUUT;
6CURRENCY SYMBOL RIEL;6SIGN AVAKRAHASANYA;CTTHACAN;@17E0;6DIGIT ZERO;CONE;CTWO;DHREE;CFOUR;DIVE;CSIX;DEVEN;CEIGHT;
CNINE;@17F0;6SYMBOL LEK ATTAK SON;NMUOY;NPII;NBEI;OUON;NPRAM;R-MUOY;SPII;SBEI;TUON;@1800;0MONGOLIAN BIRGA;AELLIPSIS;
ACOMMA;AFULL STOP;ACOLON;AFOUR DOTS;ATODO SOFT HYPHEN;ASIBE SYLLABLE BOUNDARY MARKER;AMANCHU COMMA;HFULL STOP;ANIRUGU;
AFREE VARIATION SELECTOR ONE;YTWO;ZHREE;AVOWEL SEPARATOR;AFREE VARIATION SELECTOR FOUR;ADIGIT ZERO;GONE;GTWO;HHREE;
GFOUR;HIVE;GSIX;HEVEN;GEIGHT;GNINE;@1820;ALETTER A;HE;HI;HO;HU;HOE;HUE;HEE;HNA;HANG;HBA;HPA;HQA;HGA;HMA;HLA;HSA;IHA;
HTA;HDA;HCHA;HJA;HYA;HRA;HWA;HFA;HKA;IHA;HTSA;HZA;HHAA;HZRA;HLHA;HZHI;HCHI;HTODO LONG VOWEL SIGN;ME;MI;MO;MU;MOE;MUE;
MANG;MBA;MPA;MQA;MGA;MMA;MTA;MDA;MCHA;MJA;MTSA;MYA;MWA;MKA;MGAA;MHAA;MJIA;MNIA;MDZA;HSIBE E;MI;NY;MUE;N;MANG;MKA;MGA;
MHA;MPA;MSHA;MTA;MDA;MJA;MFA;MGAA;MHAA;MTSA;MZA;MRAA;MCHA;MZHA;HMANCHU I;OKA;ORA;OFA;OZHA;HCHA WITH TWO DOTS;@1880;
HALI GALI ANUSVARA ONE;QVISARGA ONE;QDAMARU;QUBADAMA;QINVERTED UBADAMA;QBALUDA;QTHREE BALUDA;QA;QI;QKA;QNGA;QCA;QTTA;
SHA;QDDA;QNNA;QTA;QDA;QPA;RHA;QSSA;QZHA;RA;QAH;HTODO ALI GALI TA;VZHA;HMANCHU ALI GALI GHA;XNGA;XCA;XJHA;XTTA;XDDHA;
XTA;XDHA;XSSA;XCYA;XZHA;YA;HALI GALI HALF U;VYA;HMANCHU ALI GALI BHA;HALI GALI DAGALGA;HMANCHU ALI GALI LHA;@18B0;
0CANADIAN SYLLABICS OY;JAY;KAY;JWAY;JPOY;KAY;KWOY;JTAY;JKAY;KWAY;JMAY;JNOY;KAY;JLAY;JSOY;KAY;KHOY;LAY;LWOY;JYOY;KAY;
JRAY;JNWI;JOJIBWAY NWI;JNWII;JOJIBWAY NWII;JNWO;JOJIBWAY NWO;JNWOO;JOJIBWAY NWOO;JRWEE;LI;MI;LO;MO;LA;JOJIBWAY P;RT;RK;
RC;RM;RN;RS;SH;JEASTERN W;JWESTERN W;JFINAL SMALL RING;PRAISED DOT;JR-CREE RWE;JWEST-CREE LOO;UAA;JTHWE;MA;KTHWE;MOO;
MAA;KLHWE;MOO;JSAYISI SHWE;SOO;QHOO;JCARRIER GWU;RDENE GEE;RGAA;SWA;JSAYISI JUU;JCARRIER JWA;JBEAVER DENE L;VR;
JCARRIER DENTAL S;@1900;0LIMBU VOWEL-CARRIER LETTER;6LETTER KA;EHA;DGA;EHA;DNGA;DCA;EHA;DJA;EHA;DYAN;DTA;EHA;DDA;EHA;
DNA;DPA;EHA;DBA;EHA;DMA;DYA;DRA;DLA;DWA;DSHA;ESA;EA;DHA;DGYAN;DTRA;@1920;6VOWEL SIGN A;HI;HU;HEE;HAI;HOO;HAU;HE;HO;
6SUBJOINED LETTER YA;NRA;NWA;@1930;7MALL LETTER KA;JNGA;JANUSVARA;JTA;JNA;JPA;JMA;JRA;JLA;7IGN MUKPHRENG;BKEMPHRENG;
BSA-I;@1940;BLOO;@1944;6EXCLAMATION MARK;6QUESTION MARK;6DIGIT ZERO;CONE;CTWO;DHREE;CFOUR;DIVE;CSIX;DEVEN;CEIGHT;CNINE;
0TAI LE LETTER KA;EXA;ENGA;ETSA;ESA;EYA;ETA;FHA;ELA;EPA;FHA;EMA;EFA;EVA;EHA;EQA;EKHA;ETSHA;ENA;EA;EI;EEE;FH;EU;EOO;F;
EUE;EE;EAUE;FI;@1970;ETONE-2;J3;J4;J5;J6;@1980;0NEW TAI LUE LETTER HIGH QA;JLOW QA;JHIGH KA;OXA;ONGA;JLOW KA;NXA;NNGA;
JHIGH TSA;OSA;OYA;JLOW TSA;NSA;NYA;JHIGH TA;PHA;ONA;JLOW TA;OHA;NNA;JHIGH PA;PHA;OMA;JLOW PA;OHA;NMA;JHIGH FA;OVA;OLA;
JLOW FA;NVA;NLA;JHIGH HA;ODA;OBA;JLOW HA;NDA;NBA;JHIGH KVA;OXVA;JLOW KVA;NXVA;JHIGH SUA;JLOW SUA;@19B0;
CVOWEL SIGN VOWEL SHORTENER;NAA;NII;NU;OU;NE;NAE;NO;OA;NUE;NAY;OAY;NUY;NOY;OAY;NUEY;NIY;CLETTER FINAL V;PNG;Q;PM;PK;PD;
PB;CTONE MARK-1;M2;@19D0;CDIGIT ZERO;IONE;ITWO;JHREE;IFOUR;JIVE;ISIX;JEVEN;IEIGHT;ININE;CTHAM DIGIT ONE;@19DE;
CSIGN LAE;KV;0KHMER SYMBOL PATHAMASAT;DMUOY KOET;DPII KOET;DBEI KOET;EUON KOET;DPRAM KOET;H-MUOY KOET;IPII KOET;
IBEI KOET;JUON KOET;DDAP KOET;G-MUOY KOET;HPII KOET;HBEI KOET;IUON KOET;HPRAM KOET;DTUTEYASAT;DMUOY ROC;DPII ROC;
DBEI ROC;EUON ROC;DPRAM ROC;H-MUOY ROC;IPII ROC;IBEI ROC;JUON ROC;DDAP ROC;G-MUOY ROC;HPII ROC;HBEI ROC;IUON ROC;
HPRAM ROC;0BUGINESE LETTER KA;GGA;GNGA;IKA;GPA;GBA;GMA;HPA;GTA;GDA;GNA;HRA;GCA;GJA;GNYA;ICA;GYA;GRA;GLA;GVA;GSA;GA;GHA;
9VOWEL SIGN I;KU;KE;KO;KAE;@1A1E;9PALLAWA;9END OF SECTION;0TAI THAM LETTER HIGH KA;MHA;MXA;GLOW KA;LXA;LHA;GNGA;
GHIGH CA;MHA;GLOW CA;KSA;KCHA;GNYA;GRATA;GHIGH RATHA;GDA;GLOW RATHA;GRANA;GHIGH TA;MHA;GLOW TA;LHA;GNA;GBA;GHIGH PA;
MHA;LFA;GLOW PA;KFA;KPHA;GMA;GLOW YA;GHIGH YA;GRA;HUE;GLA;HUE;GWA;GHIGH SHA;MSA;MA;LHA;GLLA;GA;GLOW HA;GI;HI;GU;HU;GEE;
GOO;GLAE;GGREAT SA;9CONSONANT SIGN MEDIAL RA;VLA;OLA TANG LAI;9SIGN MAI KANG LAI;9CONSONANT SIGN FINAL NGA;OLOW PA;
OHIGH RATHA OR LOW PA;OMA;OBA;OSA;@1A60;9SIGN SAKOT;9VOWEL SIGN A;KMAI SAT;KAA;KTALL AA;KI;LI;KUE;LUE;L;LU;KO;LA BELOW;
LY;KE;KAE;KOO;KAI;KTHAM AI;KOA ABOVE;9SIGN MAI KANG;ETONE-1;J2;EKHUEN TONE-3;P4;P5;ERA HAAM;EMAI SAM;EKHUEN-LUE KARAN;
@1A7F;9COMBINING CRYPTOGRAMMIC DOT;9HORA DIGIT ZERO;KONE;KTWO;LHREE;KFOUR;LIVE;KSIX;LEVEN;KEIGHT;KNINE;@1A90;
9THAM DIGIT ZERO;KONE;KTWO;LHREE;KFOUR;LIVE;KSIX;LEVEN;KEIGHT;KNINE;@1AA0;9SIGN WIANG;JWAAK;ESAWAN;EKEOW;EHOY;EDOKMAI;
EREVERSED ROTATED RANA;EMAI YAMOK;EKAAN;IKUU;ESATKAAN;LKUU;EHANG;ECAANG;@1AB0;0COMBINING DOUBLED CIRCUMFLEX ACCENT;
BIAERESIS-RING;AINFINITY;ADOWNWARDS ARROW;ATRIPLE DOT;AX-X BELOW;AWIGGLY LINE BELOW;AOPEN MARK BELOW;
ADOUBLE OPEN MARK BELOW;ALIGHT CENTRALIZATION STROKE BELOW;ASTRONG CENTRALIZATION STROKE BELOW;APARENTHESES ABOVE;
ADOUBLE PARENTHESES ABOVE;APARENTHESES BELOW;MOVERLAY;ALATIN SMALL LETTER W BELOW;TTURNED W BELOW;
BEFT PARENTHESIS ABOVE LEFT;ARIGHT PARENTHESIS ABOVE RIGHT;ALEFT PARENTHESIS BELOW LEFT;ARIGHT PARENTHESIS BELOW RIGHT;
ASQUARE BRACKETS ABOVE;ANUMBER SIGN ABOVE;AINVERTED DOUBLE ARCH ABOVE;APLUS SIGN ABOVE;ADOUBLE PLUS SIGN ABOVE;RBELOW;
ATRIPLE ACUTE ACCENT;ALATIN SMALL LETTER INSULAR G;bR;bT;@1B00;0BALINESE SIGN ULU RICEM;ICANDRA;ECECEK;ESURANG;EBISAH;
9LETTER AKARA;L TEDUNG;GIKARA;L TEDUNG;GUKARA;L TEDUNG;GRA REPA;N TEDUNG;GLA LENGA;O TEDUNG;GEKARA;GAIKARA;GOKARA;
L TEDUNG;GKA;I MAHAPRANA;GGA;I GORA;GNGA;GCA;I LACA;GJA;I JERA;GNYA;GTA LATIK;JMURDA MAHAPRANA;GDA MURDA ALPAPRANA;
PMAHAPRANA;GNA RAMBAT;GTA;I TAWA;GDA;I MADU;GNA;GPA;I KAPAL;GBA;I KEMBANG;GMA;GYA;GRA;GLA;GWA;GSA SAGA;LPA;I;GHA;
9SIGN REREKAN;9VOWEL SIGN TEDUNG;KULU;N SARI;KSUKU;O ILUT;KRA REPA;R TEDUNG;KLA LENGA;S TEDUNG;KTALING;Q REPA;RTEDUNG;
RREPA TEDUNG;KPEPET;P TEDUNG;9ADEG ADEG;9LETTER KAF SASAK;HHOT SASAK;GTZIR SASAK;GEF SASAK;GVE SASAK;GZAL SASAK;
GASYURA SASAK;HRCHAIC JNYA;@1B50;9DIGIT ZERO;FONE;FTWO;GHREE;FFOUR;GIVE;FSIX;GEVEN;FEIGHT;FNINE;9PANTI;BMADA;9WINDU;
9CARIK PAMUNGKAH;FSIKI;FPAREREN;9PAMENENG;9MUSICAL SYMBOL DONG;PENG;PUNG;PANG;S SURANG;PING;PAENG;PEUNG;PAING;QNG GEDE;
OCOMBINING TEGEH;YENDEP;YKEMPUL;cLI;YJEGOGAN;YKEMPUL WITH JEGOGAN;cLI WITH JEGOGAN;YBENDE;YGONG;ORIGHT-HAND OPEN DUG;
fAG;ZCLOSED TUK;hAK;OLEFT-HAND OPEN PANG;eUNG;YCLOSED PLAK;hUK;YOPEN PING;9PANTI LANTANG;BMADA LANTANG;@1B80;
0SUNDANESE SIGN PANYECEK;IGLAYAR;JWISAD;ALETTER A;HI;HU;HAE;HO;HE;IU;HKA;HQA;HGA;HNGA;HCA;HJA;HZA;HNYA;HTA;HDA;HNA;HPA;
HFA;HVA;HBA;HMA;HYA;HRA;HLA;HWA;HSA;HXA;HHA;ACONSONANT SIGN PAMINGKAL;RNYAKRA;TIKU;AVOWEL SIGN PANGHULU;OYUKU;OAELAENG;
OOLONG;NMEPET;NNEULEUNG;ASIGN PAMAAEH;FVIRAMA;ACONSONANT SIGN PASANGAN MA;YWA;ALETTER KHA;HSYA;ADIGIT ZERO;GONE;GTWO;
HHREE;GFOUR;HIVE;GSIX;HEVEN;GEIGHT;GNINE;AAVAGRAHA;ALETTER REU;HLEU;HBHA;HFINAL K;NM;0BATAK LETTER A;DSIMALUNGUN A;DHA;
DSIMALUNGUN HA;DMANDAILING HA;DBA;DKARO BA;DPA;DSIMALUNGUN PA;DNA;DMANDAILING NA;DWA;DSIMALUNGUN WA;DPAKPAK WA;DGA;
DSIMALUNGUN GA;DJA;DDA;DRA;DSIMALUNGUN RA;DMA;DSIMALUNGUN MA;EOUTHERN TA;DNORTHERN TA;DSA;EIMALUNGUN SA;DMANDAILING SA;
DYA;DSIMALUNGUN YA;DNGA;DLA;DSIMALUNGUN LA;DNYA;DCA;DNDA;DMBA;DI;DU;6SIGN TOMPI;6VOWEL SIGN E;HPAKPAK E;HEE;HI;HKARO I;
HO;HKARO O;HU;I FOR SIMALUNGUN SA;6CONSONANT SIGN NG;LH;6PANGOLAT;9ONGONAN;@1BFC;6SYMBOL BINDU NA METEK;JPINARBORAS;
JJUDUL;JPANGOLAT;0LEPCHA LETTER KA;FLA;FHA;EGA;FLA;ENGA;ECA;FHA;EJA;ENYA;ETA;FHA;EDA;ENA;EPA;FLA;FHA;EFA;FLA;EBA;FLA;
EMA;FLA;ETSA;GHA;EDZA;EYA;ERA;ELA;EHA;FLA;EVA;ESA;FHA;EWA;EA;7SUBJOINED LETTER YA;ORA;7VOWEL SIGN AA;II;IO;JO;IU;JU;IE;
7CONSONANT SIGN K;MM;ML;MN;MP;MR;MT;MNYIN-DO;MKANG;7SIGN RAN;CNUKTA;@1C3B;7PUNCTUATION TA-ROL;JNYET THYOOM TA-ROL;
JCER-WA;JTSHOOK CER-WA;P;7DIGIT ZERO;DONE;DTWO;EHREE;DFOUR;EIVE;DSIX;EEVEN;DEIGHT;DNINE;@1C4D;7LETTER TTA;GHA;EDDA;
0OL CHIKI DIGIT ZERO;FONE;FTWO;GHREE;FFOUR;GIVE;FSIX;GEVEN;FEIGHT;FNINE;9LETTER LA;GAT;HG;HNG;HL;GLAA;GAAK;IJ;IM;IW;
GLI;GIS;HH;HNY;HR;GLU;GUC;HD;HNN;HY;GLE;GEP;HDD;HN;HRR;GLO;GOTT;HB;HV;HH;9MU TTUDDAG;9GAAHLAA TTUDDAAG;
9MU-GAAHLAA TTUDDAAG;9RELAA;9PHAARKAA;9AHAD;9PUNCTUATION MUCAAD;LDOUBLE MUCAAD;0CYRILLIC SMALL LETTER ROUNDED VE;
MLONG-LEGGED DE;MNARROW O;MWIDE ES;MTALL TE;NHREE-LEGGED TE;NALL HARD SIGN;RYAT;MUNBLENDED UK;@1C90;
0GEORGIAN MTAVRULI CAPITAL LETTER AN;XBAN;XGAN;XDON;XEN;XVIN;XZEN;XTAN;XIN;XKAN;XLAS;XMAN;XNAR;XON;XPAR;XZHAR;XRAE;
XSAN;XTAR;XUN;XPHAR;XKHAR;XGHAN;XQAR;XSHIN;XCHIN;YAN;XJIL;XCIL;YHAR;XXAN;XJHAN;XHAE;YE;YIE;XWE;XHAR;YOE;XFI;XYN;XELIFI;
XTURNED GAN;XAIN;@1CBD;YEN;XHARD SIGN;XLABIAL SIGN;0SUNDANESE PUNCTUATION BINDU SURYA;SPANGLONG;TURNAMA;SCAKRA;
SLEU SATANGA;SKA SATANGA;SDA SATANGA;SBA SATANGA;@1CD0;0VEDIC TONE KARSHANA;BSHARA;BPRENKHA;6SIGN NIHSHVASA;
BYAJURVEDIC MIDLINE SVARITA;6TONE YAJURVEDIC AGGRAVATED INDEPENDENT SVARITA;MINDEPENDENT SVARITA;
MKATHAKA INDEPENDENT SVARITA;BCANDRA BELOW;BYAJURVEDIC KATHAKA INDEPENDENT SVARITA SCHROEDER;BDOUBLE SVARITA;
BTRIPLE SVARITA;BKATHAKA ANUDATTA;BDOT BELOW;BTWO DOTS BELOW;CHREE DOTS BELOW;BRIGVEDIC KASHMIRI INDEPENDENT SVARITA;
BATHARVAVEDIC INDEPENDENT SVARITA;6SIGN VISARGA SVARITA;JUDATTA;BREVERSED VISARGA UDATTA;BVISARGA ANUDATTA;
BREVERSED VISARGA ANUDATTA;BVISARGA UDATTA WITH TAIL;JANUDATTA WITH TAIL;BANUSVARA ANTARGOMUKHA;KBAHIRGOMUKHA;
KVAMAGOMUKHA;V WITH TAIL;BTIRYAK;BHEXIFORM LONG ANUSVARA;BLONG ANUSVARA;BRTHANG LONG ANUSVARA;BANUSVARA UBHAYATO MUKHA;
CRDHAVISARGA;BROTATED ARDHAVISARGA;6TONE CANDRA ABOVE;6SIGN JIHVAMULIYA;BUPADHMANIYA;BATIKRAMA;6TONE RING ABOVE;
BDOUBLE RING ABOVE;6SIGN DOUBLE ANUSVARA ANTARGOMUKHA;@1D00;0LATIN LETTER SMALL CAPITAL A;SE;6SMALL LETTER TURNED AE;
6LETTER SMALL CAPITAL BARRED B;RC;RD;RETH;S;6SMALL LETTER TURNED OPEN E;QI;6LETTER SMALL CAPITAL J;RK;RL WITH STROKE;
RM;RREVERSED N;RO;SPEN O;6SMALL LETTER SIDEWAYS O;TPEN O;T WITH STROKE;JTURNED OE;6LETTER SMALL CAPITAL OU;
6SMALL LETTER TOP HALF O;JBOTTOM HALF O;6LETTER SMALL CAPITAL P;RREVERSED R;RTURNED R;S;RU;6SMALL LETTER SIDEWAYS U;
SDIAERESIZED U;STURNED M;6LETTER SMALL CAPITAL V;RW;RZ;REZH;DVOICED LARYNGEAL SPIRANT;DAIN;
0GREEK LETTER SMALL CAPITAL GAMMA;RLAMDA;RPI;RRHO;RPSI;0CYRILLIC LETTER SMALL CAPITAL EL;0MODIFIER LETTER CAPITAL A;PE;
OB;PARRED B;OD;OE;OREVERSED E;OG;OH;OI;OJ;OK;OL;OM;ON;OREVERSED N;OO;PU;OP;OR;OT;OU;OW;GSMALL A;MTURNED A;MALPHA;
MTURNED AE;MB;MD;ME;MSCHWA;MOPEN E;MTURNED OPEN E;MG;MTURNED I;MK;MM;MENG;MO;NPEN O;MTOP HALF O;MBOTTOM HALF O;MP;MT;
MU;MSIDEWAYS U;MTURNED M;MV;MAIN;MBETA;MGREEK GAMMA;MDELTA;MGREEK PHI;MCHI;0LATIN SUBSCRIPT SMALL LETTER I;TR;TU;TV;
0GREEK SUBSCRIPT SMALL LETTER BETA;TGAMMA;TRHO;TPHI;TCHI;0LATIN SMALL LETTER UE;JB WITH MIDDLE TILDE;
JD WITH MIDDLE TILDE;JF WITH MIDDLE TILDE;JM WITH MIDDLE TILDE;JN WITH MIDDLE TILDE;JP WITH MIDDLE TILDE;
JR WITH MIDDLE TILDE;QFISHHOOK AND MIDDLE TILDE;JS WITH MIDDLE TILDE;JT WITH MIDDLE TILDE;JZ WITH MIDDLE TILDE;
JTURNED G;0MODIFIER LETTER CYRILLIC EN;0LATIN SMALL LETTER INSULAR G;JTH WITH STRIKETHROUGH;
CCAPITAL LETTER I WITH STROKE;CLETTER IOTA WITH STROKE;JP WITH STROKE;CCAPITAL LETTER U WITH STROKE;
CLETTER UPSILON WITH STROKE;JB WITH PALATAL HOOK;JD WITH PALATAL HOOK;JF WITH PALATAL HOOK;JG WITH PALATAL HOOK;
JK WITH PALATAL HOOK;JL WITH PALATAL HOOK;JM WITH PALATAL HOOK;JN WITH PALATAL HOOK;JP WITH PALATAL HOOK;
JR WITH PALATAL HOOK;JS WITH PALATAL HOOK;JESH WITH PALATAL HOOK;JV WITH PALATAL HOOK;JX WITH PALATAL HOOK;
JZ WITH PALATAL HOOK;JA WITH RETROFLEX HOOK;KLPHA WITH RETROFLEX HOOK;JD WITH HOOK AND TAIL;JE WITH RETROFLEX HOOK;
JOPEN E WITH RETROFLEX HOOK;JREVERSED OPEN E WITH RETROFLEX HOOK;JSCHWA WITH RETROFLEX HOOK;JI WITH RETROFLEX HOOK;
JOPEN O WITH RETROFLEX HOOK;JESH WITH RETROFLEX HOOK;JU WITH RETROFLEX HOOK;JEZH WITH RETROFLEX HOOK;
0MODIFIER LETTER SMALL TURNED ALPHA;MC;N WITH CURL;METH;MREVERSED OPEN E;MF;MDOTLESS J WITH STROKE;MSCRIPT G;MTURNED H;
MI WITH STROKE;NOTA;MCAPITAL I;V WITH STROKE;MJ WITH CROSSED-TAIL;ML WITH RETROFLEX HOOK;TPALATAL HOOK;MCAPITAL L;
MM WITH HOOK;MTURNED M WITH LONG LEG;MN WITH LEFT HOOK;TRETROFLEX HOOK;MCAPITAL N;MBARRED O;MPHI;MS WITH HOOK;MESH;
MT WITH PALATAL HOOK;MU BAR;NPSILON;MCAPITAL U;MV WITH HOOK;MTURNED V;MZ;N WITH RETROFLEX HOOK;TCURL;MEZH;MTHETA;
0COMBINING DOTTED GRAVE ACCENT;HACUTE ACCENT;ASNAKE BELOW;BUSPENSION MARK;AMACRON-ACUTE;AGRAVE-MACRON;AMACRON-GRAVE;
AACUTE-MACRON;AGRAVE-ACUTE-GRAVE;AACUTE-GRAVE-ACUTE;ALATIN SMALL LETTER R BELOW;ABREVE-MACRON;AMACRON-BREVE;
ADOUBLE CIRCUMFLEX ABOVE;AOGONEK ABOVE;AZIGZAG BELOW;AIS BELOW;AUR ABOVE;BS ABOVE;
ALATIN SMALL LETTER FLATTENED OPEN A ABOVE;TAE;UO;UV;TC CEDILLA;TINSULAR D;TETH;TG;GLETTER SMALL CAPITAL G;
GSMALL LETTER K;TL;GLETTER SMALL CAPITAL L;bM;GSMALL LETTER N;GLETTER SMALL CAPITAL N;bR;GSMALL LETTER R ROTUNDA;TS;
TLONG S;TZ;TALPHA;TB;UETA;TSCHWA;TF;TL WITH DOUBLE MIDDLE TILDE;TO WITH LIGHT CENTRALIZATION STROKE;TP;TESH;
TU WITH LIGHT CENTRALIZATION STROKE;TW;TA WITH DIAERESIS;TO WITH DIAERESIS;TU WITH DIAERESIS;AUP TACK ABOVE;
AKAVYKA ABOVE RIGHT;NLEFT;ADOT ABOVE LEFT;AWIDE INVERTED BRIDGE BELOW;ADOT BELOW LEFT;BELETION MARK;
BOUBLE INVERTED BREVE BELOW;AALMOST EQUAL TO BELOW;ALEFT ARROWHEAD ABOVE;ARIGHT ARROWHEAD AND DOWN ARROWHEAD BELOW;
0LATIN CAPITAL LETTER A WITH RING BELOW;6SMALL LETTER A WITH RING BELOW;6CAPITAL LETTER B WITH DOT ABOVE;
6SMALL LETTER B WITH DOT ABOVE;6CAPITAL LETTER B WITH DOT BELOW;6SMALL LETTER B WITH DOT BELOW;
6CAPITAL LETTER B WITH LINE BELOW;6SMALL LETTER B WITH LINE BELOW;6CAPITAL LETTER C WITH CEDILLA AND ACUTE;
6SMALL LETTER C WITH CEDILLA AND ACUTE;6CAPITAL LETTER D WITH DOT ABOVE;6SMALL LETTER D WITH DOT ABOVE;
6CAPITAL LETTER D WITH DOT BELOW;6SMALL LETTER D WITH DOT BELOW;6CAPITAL LETTER D WITH LINE BELOW;
6SMALL LETTER D WITH LINE BELOW;6CAPITAL LETTER D WITH CEDILLA;6SMALL LETTER D WITH CEDILLA;
6CAPITAL LETTER D WITH CIRCUMFLEX BELOW;6SMALL LETTER D WITH CIRCUMFLEX BELOW;6CAPITAL LETTER E WITH MACRON AND GRAVE;
6SMALL LETTER E WITH MACRON AND GRAVE;6CAPITAL LETTER E WITH MACRON AND ACUTE;6SMALL LETTER E WITH MACRON AND ACUTE;
6CAPITAL LETTER E WITH CIRCUMFLEX BELOW;6SMALL LETTER E WITH CIRCUMFLEX BELOW;6CAPITAL LETTER E WITH TILDE BELOW;
6SMALL LETTER E WITH TILDE BELOW;6CAPITAL LETTER E WITH CEDILLA AND BREVE;6SMALL LETTER E WITH CEDILLA AND BREVE;
6CAPITAL LETTER F WITH DOT ABOVE;6SMALL LETTER F WITH DOT ABOVE;6CAPITAL LETTER G WITH MACRON;
6SMALL LETTER G WITH MACRON;6CAPITAL LETTER H WITH DOT ABOVE;6SMALL LETTER H WITH DOT ABOVE;
6CAPITAL LETTER H WITH DOT BELOW;6SMALL LETTER H WITH DOT BELOW;6CAPITAL LETTER H WITH DIAERESIS;
6SMALL LETTER H WITH DIAERESIS;6CAPITAL LETTER H WITH CEDILLA;6SMALL LETTER H WITH CEDILLA;
6CAPITAL LETTER H WITH BREVE BELOW;6SMALL LETTER H WITH BREVE BELOW;6CAPITAL LETTER I WITH TILDE BELOW;
6SMALL LETTER I WITH TILDE BELOW;6CAPITAL LETTER I WITH DIAERESIS AND ACUTE;6SMALL LETTER I WITH DIAERESIS AND ACUTE;
6CAPITAL LETTER K WITH ACUTE;6SMALL LETTER K WITH ACUTE;6CAPITAL LETTER K WITH DOT BELOW;
6SMALL LETTER K WITH DOT BELOW;6CAPITAL LETTER K WITH LINE BELOW;6SMALL LETTER K WITH LINE BELOW;
6CAPITAL LETTER L WITH DOT BELOW;6SMALL LETTER L WITH DOT BELOW;6CAPITAL LETTER L WITH DOT BELOW AND MACRON;
6SMALL LETTER L WITH DOT BELOW AND MACRON;6CAPITAL LETTER L WITH LINE BELOW;6SMALL LETTER L WITH LINE BELOW;
6CAPITAL LETTER L WITH CIRCUMFLEX BELOW;6SMALL LETTER L WITH CIRCUMFLEX BELOW;6CAPITAL LETTER M WITH ACUTE;
6SMALL LETTER M WITH ACUTE;6CAPITAL LETTER M WITH DOT ABOVE;6SMALL LETTER M WITH DOT ABOVE;
6CAPITAL LETTER M WITH DOT BELOW;6SMALL LETTER M WITH DOT BELOW;6CAPITAL LETTER N WITH DOT ABOVE;
6SMALL LETTER N WITH DOT ABOVE;6CAPITAL LETTER N WITH DOT BELOW;6SMALL LETTER N WITH DOT BELOW;
6CAPITAL LETTER N WITH LINE BELOW;6SMALL LETTER N WITH LINE BELOW;6CAPITAL LETTER N WITH CIRCUMFLEX BELOW;
6SMALL LETTER N WITH CIRCUMFLEX BELOW;6CAPITAL LETTER O WITH TILDE AND ACUTE;6SMALL LETTER O WITH TILDE AND ACUTE;
6CAPITAL LETTER O WITH TILDE AND DIAERESIS;6SMALL LETTER O WITH TILDE AND DIAERESIS;
6CAPITAL LETTER O WITH MACRON AND GRAVE;6SMALL LETTER O WITH MACRON AND GRAVE;6CAPITAL LETTER O WITH MACRON AND ACUTE;
6SMALL LETTER O WITH MACRON AND ACUTE;6CAPITAL LETTER P WITH ACUTE;6SMALL LETTER P WITH ACUTE;
6CAPITAL LETTER P WITH DOT ABOVE;6SMALL LETTER P WITH DOT ABOVE;6CAPITAL LETTER R WITH DOT ABOVE;
6SMALL LETTER R WITH DOT ABOVE;6CAPITAL LETTER R WITH DOT BELOW;6SMALL LETTER R WITH DOT BELOW;
6CAPITAL LETTER R WITH DOT BELOW AND MACRON;6SMALL LETTER R WITH DOT BELOW AND MACRON;
6CAPITAL LETTER R WITH LINE BELOW;6SMALL LETTER R WITH LINE BELOW;6CAPITAL LETTER S WITH DOT ABOVE;
6SMALL LETTER S WITH DOT ABOVE;6CAPITAL LETTER S WITH DOT BELOW;6SMALL LETTER S WITH DOT BELOW;
6CAPITAL LETTER S WITH ACUTE AND DOT ABOVE;6SMALL LETTER S WITH ACUTE AND DOT ABOVE;
6CAPITAL LETTER S WITH CARON AND DOT ABOVE;6SMALL LETTER S WITH CARON AND DOT ABOVE;
6CAPITAL LETTER S WITH DOT BELOW AND DOT ABOVE;6SMALL LETTER S WITH DOT BELOW AND DOT ABOVE;
6CAPITAL LETTER T WITH DOT ABOVE;6SMALL LETTER T WITH DOT ABOVE;6CAPITAL LETTER T WITH DOT BELOW;
6SMALL LETTER T WITH DOT BELOW;6CAPITAL LETTER T WITH LINE BELOW;6SMALL LETTER T WITH LINE BELOW;
6CAPITAL LETTER T WITH CIRCUMFLEX BELOW;6SMALL LETTER T WITH CIRCUMFLEX BELOW;6CAPITAL LETTER U WITH DIAERESIS BELOW;
6SMALL LETTER U WITH DIAERESIS BELOW;6CAPITAL LETTER U WITH TILDE BELOW;6SMALL LETTER U WITH TILDE BELOW;
6CAPITAL LETTER U WITH CIRCUMFLEX BELOW;6SMALL LETTER U WITH CIRCUMFLEX BELOW;6CAPITAL LETTER U WITH TILDE AND ACUTE;
6SMALL LETTER U WITH TILDE AND ACUTE;6CAPITAL LETTER U WITH MACRON AND DIAERESIS;
6SMALL LETTER U WITH MACRON AND DIAERESIS;6CAPITAL LETTER V WITH TILDE;6SMALL LETTER V WITH TILDE;
6CAPITAL LETTER V WITH DOT BELOW;6SMALL LETTER V WITH DOT BELOW;6CAPITAL LETTER W WITH GRAVE;
6SMALL LETTER W WITH GRAVE;6CAPITAL LETTER W WITH ACUTE;6SMALL LETTER W WITH ACUTE;6CAPITAL LETTER W WITH DIAERESIS;
6SMALL LETTER W WITH DIAERESIS;6CAPITAL LETTER W WITH DOT ABOVE;6SMALL LETTER W WITH DOT ABOVE;
6CAPITAL LETTER W WITH DOT BELOW;6SMALL LETTER W WITH DOT BELOW;6CAPITAL LETTER X WITH DOT ABOVE;
6SMALL LETTER X WITH DOT ABOVE;6CAPITAL LETTER X WITH DIAERESIS;6SMALL LETTER X WITH DIAERESIS;
6CAPITAL LETTER Y WITH DOT ABOVE;6SMALL LETTER Y WITH DOT ABOVE;6CAPITAL LETTER Z WITH CIRCUMFLEX;
6SMALL LETTER Z WITH CIRCUMFLEX;6CAPITAL LETTER Z WITH DOT BELOW;6SMALL LETTER Z WITH DOT BELOW;
6CAPITAL LETTER Z WITH LINE BELOW;6SMALL LETTER Z WITH LINE BELOW;JH WITH LINE BELOW;JT WITH DIAERESIS;
JW WITH RING ABOVE;JY WITH RING ABOVE;JA WITH RIGHT HALF RING;JLONG S WITH DOT ABOVE;WIAGONAL STROKE;VHIGH STROKE;
6CAPITAL LETTER SHARP S;6SMALL LETTER DELTA;6CAPITAL LETTER A WITH DOT BELOW;6SMALL LETTER A WITH DOT BELOW;
6CAPITAL LETTER A WITH HOOK ABOVE;6SMALL LETTER A WITH HOOK ABOVE;6CAPITAL LETTER A WITH CIRCUMFLEX AND ACUTE;
6SMALL LETTER A WITH CIRCUMFLEX AND ACUTE;6CAPITAL LETTER A WITH CIRCUMFLEX AND GRAVE;
6SMALL LETTER A WITH CIRCUMFLEX AND GRAVE;6CAPITAL LETTER A WITH CIRCUMFLEX AND HOOK ABOVE;
6SMALL LETTER A WITH CIRCUMFLEX AND HOOK ABOVE;6CAPITAL LETTER A WITH CIRCUMFLEX AND TILDE;
6SMALL LETTER A WITH CIRCUMFLEX AND TILDE;6CAPITAL LETTER A WITH CIRCUMFLEX AND DOT BELOW;
6SMALL LETTER A WITH CIRCUMFLEX AND DOT BELOW;6CAPITAL LETTER A WITH BREVE AND ACUTE;
6SMALL LETTER A WITH BREVE AND ACUTE;6CAPITAL LETTER A WITH BREVE AND GRAVE;6SMALL LETTER A WITH BREVE AND GRAVE;
6CAPITAL LETTER A WITH BREVE AND HOOK ABOVE;6SMALL LETTER A WITH BREVE AND HOOK ABOVE;
6CAPITAL LETTER A WITH BREVE AND TILDE;6SMALL LETTER A WITH BREVE AND TILDE;6CAPITAL LETTER A WITH BREVE AND DOT BELOW;
6SMALL LETTER A WITH BREVE AND DOT BELOW;6CAPITAL LETTER E WITH DOT BELOW;6SMALL LETTER E WITH DOT BELOW;
6CAPITAL LETTER E WITH HOOK ABOVE;6SMALL LETTER E WITH HOOK ABOVE;6CAPITAL LETTER E WITH TILDE;
6SMALL LETTER E WITH TILDE;6CAPITAL LETTER E WITH CIRCUMFLEX AND ACUTE;6SMALL LETTER E WITH CIRCUMFLEX AND ACUTE;
6CAPITAL LETTER E WITH CIRCUMFLEX AND GRAVE;6SMALL LETTER E WITH CIRCUMFLEX AND GRAVE;
6CAPITAL LETTER E WITH CIRCUMFLEX AND HOOK ABOVE;6SMALL LETTER E WITH CIRCUMFLEX AND HOOK ABOVE;
6CAPITAL LETTER E WITH CIRCUMFLEX AND TILDE;6SMALL LETTER E WITH CIRCUMFLEX AND TILDE;
6CAPITAL LETTER E WITH CIRCUMFLEX AND DOT BELOW;6SMALL LETTER E WITH CIRCUMFLEX AND DOT BELOW;
6CAPITAL LETTER I WITH HOOK ABOVE;6SMALL LETTER I WITH HOOK ABOVE;6CAPITAL LETTER I WITH DOT BELOW;
6SMALL LETTER I WITH DOT BELOW;6CAPITAL LETTER O WITH DOT BELOW;6SMALL LETTER O WITH DOT BELOW;
6CAPITAL LETTER O WITH HOOK ABOVE;6SMALL LETTER O WITH HOOK ABOVE;6CAPITAL LETTER O WITH CIRCUMFLEX AND ACUTE;
6SMALL LETTER O WITH CIRCUMFLEX AND ACUTE;6CAPITAL LETTER O WITH CIRCUMFLEX AND GRAVE;
6SMALL LETTER O WITH CIRCUMFLEX AND GRAVE;6CAPITAL LETTER O WITH CIRCUMFLEX AND HOOK ABOVE;
6SMALL LETTER O WITH CIRCUMFLEX AND HOOK ABOVE;6CAPITAL LETTER O WITH CIRCUMFLEX AND TILDE;
6SMALL LETTER O WITH CIRCUMFLEX AND TILDE;6CAPITAL LETTER O WITH CIRCUMFLEX AND DOT BELOW;
6SMALL LETTER O WITH CIRCUMFLEX AND DOT BELOW;6CAPITAL LETTER O WITH HORN AND ACUTE;
6SMALL LETTER O WITH HORN AND ACUTE;6CAPITAL LETTER O WITH HORN AND GRAVE;6SMALL LETTER O WITH HORN AND GRAVE;
6CAPITAL LETTER O WITH HORN AND HOOK ABOVE;6SMALL LETTER O WITH HORN AND HOOK ABOVE;
6CAPITAL LETTER O WITH HORN AND TILDE;6SMALL LETTER O WITH HORN AND TILDE;6CAPITAL LETTER O WITH HORN AND DOT BELOW;
6SMALL LETTER O WITH HORN AND DOT BELOW;6CAPITAL LETTER U WITH DOT BELOW;6SMALL LETTER U WITH DOT BELOW;
6CAPITAL LETTER U WITH HOOK ABOVE;6SMALL LETTER U WITH HOOK ABOVE;6CAPITAL LETTER U WITH HORN AND ACUTE;
6SMALL LETTER U WITH HORN AND ACUTE;6CAPITAL LETTER U WITH HORN AND GRAVE;6SMALL LETTER U WITH HORN AND GRAVE;
6CAPITAL LETTER U WITH HORN AND HOOK ABOVE;6SMALL LETTER U WITH HORN AND HOOK ABOVE;
6CAPITAL LETTER U WITH HORN AND TILDE;6SMALL LETTER U WITH HORN AND TILDE;6CAPITAL LETTER U WITH HORN AND DOT BELOW;
6SMALL LETTER U WITH HORN AND DOT BELOW;6CAPITAL LETTER Y WITH GRAVE;6SMALL LETTER Y WITH GRAVE;
6CAPITAL LETTER Y WITH DOT BELOW;6SMALL LETTER Y WITH DOT BELOW;6CAPITAL LETTER Y WITH HOOK ABOVE;
6SMALL LETTER Y WITH HOOK ABOVE;6CAPITAL LETTER Y WITH TILDE;6SMALL LETTER Y WITH TILDE;
6CAPITAL LETTER MIDDLE-WELSH LL;6SMALL LETTER MIDDLE-WELSH LL;6CAPITAL LETTER MIDDLE-WELSH V;
6SMALL LETTER MIDDLE-WELSH V;6CAPITAL LETTER Y WITH LOOP;6SMALL LETTER Y WITH LOOP;
0GREEK SMALL LETTER ALPHA WITH PSILI;UDASIA;UPSILI AND VARIA;UDASIA AND VARIA;UPSILI AND OXIA;UDASIA AND OXIA;
UPSILI AND PERISPOMENI;UDASIA AND PERISPOMENI;6CAPITAL LETTER ALPHA WITH PSILI;WDASIA;WPSILI AND VARIA;
WDASIA AND VARIA;WPSILI AND OXIA;WDASIA AND OXIA;WPSILI AND PERISPOMENI;WDASIA AND PERISPOMENI;
6SMALL LETTER EPSILON WITH PSILI;WDASIA;WPSILI AND VARIA;WDASIA AND VARIA;WPSILI AND OXIA;WDASIA AND OXIA;@1F18;
6CAPITAL LETTER EPSILON WITH PSILI;YDASIA;YPSILI AND VARIA;YDASIA AND VARIA;YPSILI AND OXIA;YDASIA AND OXIA;@1F20;
6SMALL LETTER ETA WITH PSILI;SDASIA;SPSILI AND VARIA;SDASIA AND VARIA;SPSILI AND OXIA;SDASIA AND OXIA;
SPSILI AND PERISPOMENI;SDASIA AND PERISPOMENI;6CAPITAL LETTER ETA WITH PSILI;UDASIA;UPSILI AND VARIA;UDASIA AND VARIA;
UPSILI AND OXIA;UDASIA AND OXIA;UPSILI AND PERISPOMENI;UDASIA AND PERISPOMENI;6SMALL LETTER IOTA WITH PSILI;TDASIA;
TPSILI AND VARIA;TDASIA AND VARIA;TPSILI AND OXIA;TDASIA AND OXIA;TPSILI AND PERISPOMENI;TDASIA AND PERISPOMENI;
6CAPITAL LETTER IOTA WITH PSILI;VDASIA;VPSILI AND VARIA;VDASIA AND VARIA;VPSILI AND OXIA;VDASIA AND OXIA;
VPSILI AND PERISPOMENI;VDASIA AND PERISPOMENI;6SMALL LETTER OMICRON WITH PSILI;WDASIA;WPSILI AND VARIA;
WDASIA AND VARIA;WPSILI AND OXIA;WDASIA AND OXIA;@1F48;6CAPITAL LETTER OMICRON WITH PSILI;YDASIA;YPSILI AND VARIA;
YDASIA AND VARIA;YPSILI AND OXIA;YDASIA AND OXIA;@1F50;6SMALL LETTER UPSILON WITH PSILI;WDASIA;WPSILI AND VARIA;
WDASIA AND VARIA;WPSILI AND OXIA;WDASIA AND OXIA;WPSILI AND PERISPOMENI;WDASIA AND PERISPOMENI;@1F59;
6CAPITAL LETTER UPSILON WITH DASIA;@1F5B;d AND VARIA;@1F5D;iOXIA;@1F5F;iPERISPOMENI;6SMALL LETTER OMEGA WITH PSILI;
UDASIA;UPSILI AND VARIA;UDASIA AND VARIA;UPSILI AND OXIA;UDASIA AND OXIA;UPSILI AND PERISPOMENI;UDASIA AND PERISPOMENI;
6CAPITAL LETTER OMEGA WITH PSILI;WDASIA;WPSILI AND VARIA;WDASIA AND VARIA;WPSILI AND OXIA;WDASIA AND OXIA;
WPSILI AND PERISPOMENI;WDASIA AND PERISPOMENI;6SMALL LETTER ALPHA WITH VARIA;UOXIA;JEPSILON WITH VARIA;WOXIA;
KTA WITH VARIA;SOXIA;JIOTA WITH VARIA;TOXIA;JOMICRON WITH VARIA;WOXIA;JUPSILON WITH VARIA;WOXIA;JOMEGA WITH VARIA;
UOXIA;@1F80;JALPHA WITH PSILI AND YPOGEGRAMMENI;UDASIA AND YPOGEGRAMMENI;UPSILI AND VARIA AND YPOGEGRAMMENI;
UDASIA AND VARIA AND YPOGEGRAMMENI;UPSILI AND OXIA AND YPOGEGRAMMENI;UDASIA AND OXIA AND YPOGEGRAMMENI;
UPSILI AND PERISPOMENI AND YPOGEGRAMMENI;UDASIA AND PERISPOMENI AND YPOGEGRAMMENI;
6CAPITAL LETTER ALPHA WITH PSILI AND PROSGEGRAMMENI;WDASIA AND PROSGEGRAMMENI;WPSILI AND VARIA AND PROSGEGRAMMENI;
WDASIA AND VARIA AND PROSGEGRAMMENI;WPSILI AND OXIA AND PROSGEGRAMMENI;WDASIA AND OXIA AND PROSGEGRAMMENI;
WPSILI AND PERISPOMENI AND PROSGEGRAMMENI;WDASIA AND PERISPOMENI AND PROSGEGRAMMENI;
6SMALL LETTER ETA WITH PSILI AND YPOGEGRAMMENI;SDASIA AND YPOGEGRAMMENI;SPSILI AND VARIA AND YPOGEGRAMMENI;
SDASIA AND VARIA AND YPOGEGRAMMENI;SPSILI AND OXIA AND YPOGEGRAMMENI;SDASIA AND OXIA AND YPOGEGRAMMENI;
SPSILI AND PERISPOMENI AND YPOGEGRAMMENI;SDASIA AND PERISPOMENI AND YPOGEGRAMMENI;
6CAPITAL LETTER ETA WITH PSILI AND PROSGEGRAMMENI;UDASIA AND PROSGEGRAMMENI;UPSILI AND VARIA AND PROSGEGRAMMENI;
UDASIA AND VARIA AND PROSGEGRAMMENI;UPSILI AND OXIA AND PROSGEGRAMMENI;UDASIA AND OXIA AND PROSGEGRAMMENI;
UPSILI AND PERISPOMENI AND PROSGEGRAMMENI;UDASIA AND PERISPOMENI AND PROSGEGRAMMENI;
6SMALL LETTER OMEGA WITH PSILI AND YPOGEGRAMMENI;UDASIA AND YPOGEGRAMMENI;UPSILI AND VARIA AND YPOGEGRAMMENI;
UDASIA AND VARIA AND YPOGEGRAMMENI;UPSILI AND OXIA AND YPOGEGRAMMENI;UDASIA AND OXIA AND YPOGEGRAMMENI;
UPSILI AND PERISPOMENI AND YPOGEGRAMMENI;UDASIA AND PERISPOMENI AND YPOGEGRAMMENI;
6CAPITAL LETTER OMEGA WITH PSILI AND PROSGEGRAMMENI;WDASIA AND PROSGEGRAMMENI;WPSILI AND VARIA AND PROSGEGRAMMENI;
WDASIA AND VARIA AND PROSGEGRAMMENI;WPSILI AND OXIA AND PROSGEGRAMMENI;WDASIA AND OXIA AND PROSGEGRAMMENI;
WPSILI AND PERISPOMENI AND PROSGEGRAMMENI;WDASIA AND PERISPOMENI AND PROSGEGRAMMENI;6SMALL LETTER ALPHA WITH VRACHY;
UMACRON;UVARIA AND YPOGEGRAMMENI;UYPOGEGRAMMENI;UOXIA AND YPOGEGRAMMENI;@1FB6;UPERISPOMENI;f AND YPOGEGRAMMENI;
6CAPITAL LETTER ALPHA WITH VRACHY;WMACRON;WVARIA;WOXIA;WPROSGEGRAMMENI;6KORONIS;6PROSGEGRAMMENI;7SILI;7ERISPOMENI;
6DIALYTIKA AND PERISPOMENI;6SMALL LETTER ETA WITH VARIA AND YPOGEGRAMMENI;SYPOGEGRAMMENI;SOXIA AND YPOGEGRAMMENI;@1FC6;
SPERISPOMENI;d AND YPOGEGRAMMENI;6CAPITAL LETTER EPSILON WITH VARIA;YOXIA;MTA WITH VARIA;UOXIA;UPROSGEGRAMMENI;
6PSILI AND VARIA;GOXIA;GPERISPOMENI;6SMALL LETTER IOTA WITH VRACHY;TMACRON;TDIALYTIKA AND VARIA;hOXIA;@1FD6;
TPERISPOMENI;TDIALYTIKA AND PERISPOMENI;6CAPITAL LETTER IOTA WITH VRACHY;VMACRON;VVARIA;VOXIA;@1FDD;6DASIA AND VARIA;
GOXIA;GPERISPOMENI;6SMALL LETTER UPSILON WITH VRACHY;WMACRON;WDIALYTIKA AND VARIA;kOXIA;JRHO WITH PSILI;SDASIA;
JUPSILON WITH PERISPOMENI;WDIALYTIKA AND PERISPOMENI;6CAPITAL LETTER UPSILON WITH VRACHY;YMACRON;YVARIA;YOXIA;
LRHO WITH DASIA;6DIALYTIKA AND VARIA;KOXIA;6VARIA;@1FF2;6SMALL LETTER OMEGA WITH VARIA AND YPOGEGRAMMENI;
UYPOGEGRAMMENI;UOXIA AND YPOGEGRAMMENI;@1FF6;UPERISPOMENI;f AND YPOGEGRAMMENI;6CAPITAL LETTER OMICRON WITH VARIA;YOXIA;
NEGA WITH VARIA;WOXIA;WPROSGEGRAMMENI;6OXIA;6DASIA;@2000;0EN QUAD;1M QUAD;1N SPACE;1M SPACE;0THREE-PER-EM SPACE;
0FOUR-PER-EM SPACE;0SIX-PER-EM SPACE;0FIGURE SPACE;0PUNCTUATION SPACE;0THIN SPACE;0HAIR SPACE;0ZERO WIDTH SPACE;
BNON-JOINER;BJOINER;0LEFT-TO-RIGHT MARK;0RIGHT-TO-LEFT MARK;0HYPHEN;0NON-BREAKING HYPHEN;0FIGURE DASH;0EN DASH;1M DASH;
0HORIZONTAL BAR;0DOUBLE VERTICAL LINE;7LOW LINE;0LEFT SINGLE QUOTATION MARK;0RIGHT SINGLE QUOTATION MARK;
0SINGLE LOW-9 QUOTATION MARK;7HIGH-REVERSED-9 QUOTATION MARK;0LEFT DOUBLE QUOTATION MARK;0RIGHT DOUBLE QUOTATION MARK;
0DOUBLE LOW-9 QUOTATION MARK;7HIGH-REVERSED-9 QUOTATION MARK;1AGGER;1OUBLE DAGGER;0BULLET;0TRIANGULAR BULLET;
0ONE DOT LEADER;0TWO DOT LEADER;0HORIZONTAL ELLIPSIS;1YPHENATION POINT;0LINE SEPARATOR;0PARAGRAPH SEPARATOR;
0LEFT-TO-RIGHT EMBEDDING;0RIGHT-TO-LEFT EMBEDDING;0POP DIRECTIONAL FORMATTING;0LEFT-TO-RIGHT OVERRIDE;
0RIGHT-TO-LEFT OVERRIDE;0NARROW NO-BREAK SPACE;0PER MILLE SIGN;4TEN THOUSAND SIGN;1RIME;0DOUBLE PRIME;0TRIPLE PRIME;
0REVERSED PRIME;9DOUBLE PRIME;9TRIPLE PRIME;0CARET;0SINGLE LEFT-POINTING ANGLE QUOTATION MARK;
7RIGHT-POINTING ANGLE QUOTATION MARK;0REFERENCE MARK;0DOUBLE EXCLAMATION MARK;0INTERROBANG;0OVERLINE;0UNDERTIE;
0CHARACTER TIE;1ARET INSERTION POINT;0ASTERISM;0HYPHEN BULLET;0FRACTION SLASH;0LEFT SQUARE BRACKET WITH QUILL;
0RIGHT SQUARE BRACKET WITH QUILL;0DOUBLE QUESTION MARK;0QUESTION EXCLAMATION MARK;0EXCLAMATION QUESTION MARK;
0TIRONIAN SIGN ET;0REVERSED PILCROW SIGN;0BLACK LEFTWARDS BULLET;6RIGHTWARDS BULLET;0LOW ASTERISK;0REVERSED SEMICOLON;
0CLOSE UP;0TWO ASTERISKS ALIGNED VERTICALLY;0COMMERCIAL MINUS SIGN;0SWUNG DASH;0INVERTED UNDERTIE;
0FLOWER PUNCTUATION MARK;0THREE DOT PUNCTUATION;0QUADRUPLE PRIME;0FOUR DOT PUNCTUATION;1IVE DOT PUNCTUATION;
0TWO DOT PUNCTUATION;0FOUR DOT MARK;0DOTTED CROSS;0TRICOLON;0VERTICAL FOUR DOTS;0MEDIUM MATHEMATICAL SPACE;
0WORD JOINER;0FUNCTION APPLICATION;0INVISIBLE TIMES;ASEPARATOR;APLUS;@2066;0LEFT-TO-RIGHT ISOLATE;
0RIGHT-TO-LEFT ISOLATE;0FIRST STRONG ISOLATE;0POP DIRECTIONAL ISOLATE;0INHIBIT SYMMETRIC SWAPPING;
0ACTIVATE SYMMETRIC SWAPPING;0INHIBIT ARABIC FORM SHAPING;0ACTIVATE ARABIC FORM SHAPING;0NATIONAL DIGIT SHAPES;
1OMINAL DIGIT SHAPES;0SUPERSCRIPT ZERO;CLATIN SMALL LETTER I;@2074;CFOUR;DIVE;CSIX;DEVEN;CEIGHT;CNINE;CPLUS SIGN;
CMINUS;CEQUALS SIGN;CLEFT PARENTHESIS;CRIGHT PARENTHESIS;CLATIN SMALL LETTER N;2BSCRIPT ZERO;AONE;ATWO;BHREE;AFOUR;
BIVE;ASIX;BEVEN;AEIGHT;ANINE;APLUS SIGN;AMINUS;AEQUALS SIGN;ALEFT PARENTHESIS;ARIGHT PARENTHESIS;@2090;
0LATIN SUBSCRIPT SMALL LETTER A;TE;TO;TX;TSCHWA;TH;TK;TL;TM;TN;TP;TS;TT;@20A0;0EURO-CURRENCY SIGN;0COLON SIGN;
1RUZEIRO SIGN;0FRENCH FRANC SIGN;0LIRA SIGN;0MILL SIGN;0NAIRA SIGN;0PESETA SIGN;0RUPEE SIGN;0WON SIGN;0NEW SHEQEL SIGN;
0DONG SIGN;0EURO SIGN;0KIP SIGN;0TUGRIK SIGN;0DRACHMA SIGN;0GERMAN PENNY SIGN;0PESO SIGN;0GUARANI SIGN;0AUSTRAL SIGN;
0HRYVNIA SIGN;0CEDI SIGN;0LIVRE TOURNOIS SIGN;0SPESMILO SIGN;0TENGE SIGN;0INDIAN RUPEE SIGN;0TURKISH LIRA SIGN;
0NORDIC MARK SIGN;0MANAT SIGN;0RUBLE SIGN;0LARI SIGN;0BITCOIN SIGN;0SOM SIGN;@20D0;0COMBINING LEFT HARPOON ABOVE;
ARIGHT HARPOON ABOVE;ALONG VERTICAL LINE OVERLAY;ASHORT VERTICAL LINE OVERLAY;AANTICLOCKWISE ARROW ABOVE;
ACLOCKWISE ARROW ABOVE;ALEFT ARROW ABOVE;ARIGHT ARROW ABOVE;CNG OVERLAY;ACLOCKWISE RING OVERLAY;
AANTICLOCKWISE RING OVERLAY;ATHREE DOTS ABOVE;AFOUR DOTS ABOVE;AENCLOSING CIRCLE;KSQUARE;KDIAMOND;KCIRCLE BACKSLASH;
ALEFT RIGHT ARROW ABOVE;AENCLOSING SCREEN;KKEYCAP;KUPWARD POINTING TRIANGLE;AREVERSE SOLIDUS OVERLAY;
ADOUBLE VERTICAL STROKE OVERLAY;AANNUITY SYMBOL;ATRIPLE UNDERDOT;AWIDE BRIDGE ABOVE;ALEFTWARDS ARROW OVERLAY;
BONG DOUBLE SOLIDUS OVERLAY;ARIGHTWARDS HARPOON WITH BARB DOWNWARDS;ALEFTWARDS HARPOON WITH BARB DOWNWARDS;
E ARROW BELOW;ARIGHT ARROW BELOW;AASTERISK ABOVE;@2100;0ACCOUNT OF;1DDRESSED TO THE SUBJECT;0DOUBLE-STRUCK CAPITAL C;
1EGREE CELSIUS;0CENTRE LINE SYMBOL;1ARE OF;2DA UNA;0EULER CONSTANT;0SCRUPLE;0DEGREE FAHRENHEIT;0SCRIPT SMALL G;
7CAPITAL H;0BLACK-LETTER CAPITAL H;0DOUBLE-STRUCK CAPITAL H;0PLANCK CONSTANT;F OVER TWO PI;0SCRIPT CAPITAL I;
0BLACK-LETTER CAPITAL I;0SCRIPT CAPITAL L;7SMALL L;0L B BAR SYMBOL;0DOUBLE-STRUCK CAPITAL N;0NUMERO SIGN;
0SOUND RECORDING COPYRIGHT;1CRIPT CAPITAL P;0DOUBLE-STRUCK CAPITAL P;MQ;0SCRIPT CAPITAL R;0BLACK-LETTER CAPITAL R;
0DOUBLE-STRUCK CAPITAL R;0PRESCRIPTION TAKE;0RESPONSE;0SERVICE MARK;0TELEPHONE SIGN;1RADE MARK SIGN;0VERSICLE;
0DOUBLE-STRUCK CAPITAL Z;0OUNCE SIGN;1HM SIGN;0INVERTED OHM SIGN;0BLACK-LETTER CAPITAL Z;
0TURNED GREEK SMALL LETTER IOTA;0KELVIN SIGN;0ANGSTROM SIGN;0SCRIPT CAPITAL B;0BLACK-LETTER CAPITAL C;
0ESTIMATED SYMBOL;0SCRIPT SMALL E;7CAPITAL E;FF;0TURNED CAPITAL F;0SCRIPT CAPITAL M;7SMALL O;0ALEF SYMBOL;0BET SYMBOL;
0GIMEL SYMBOL;0DALET SYMBOL;0INFORMATION SOURCE;0ROTATED CAPITAL Q;0FACSIMILE SIGN;0DOUBLE-STRUCK SMALL PI;KGAMMA;
ECAPITAL GAMMA;MPI;EN-ARY SUMMATION;0TURNED SANS-SERIF CAPITAL G;QL;0REVERSED SANS-SERIF CAPITAL L;
0TURNED SANS-SERIF CAPITAL Y;0DOUBLE-STRUCK ITALIC CAPITAL D;LSMALL D;RE;RI;RJ;0PROPERTY LINE;0TURNED AMPERSAND;
0PER SIGN;0AKTIESELSKAB;0TURNED SMALL F;0SYMBOL FOR SAMARITAN SOURCE;0VULGAR FRACTION ONE SEVENTH;KNINTH;KTENTH;LHIRD;
GTWO THIRDS;GONE FIFTH;GTWO FIFTHS;HHREE FIFTHS;GFOUR FIFTHS;GONE SIXTH;GFIVE SIXTHS;GONE EIGHTH;GTHREE EIGHTHS;
GFIVE EIGHTHS;GSEVEN EIGHTHS;0FRACTION NUMERATOR ONE;0ROMAN NUMERAL ONE;ETWO;FHREE;EFOUR;FIVE;ESIX;FEVEN;EEIGHT;ENINE;
ETEN;EELEVEN;ETWELVE;EFIFTY;EONE HUNDRED;EFIVE HUNDRED;EONE THOUSAND;0SMALL ROMAN NUMERAL ONE;KTWO;LHREE;KFOUR;LIVE;
KSIX;LEVEN;KEIGHT;KNINE;KTEN;KELEVEN;KTWELVE;KFIFTY;KONE HUNDRED;KFIVE HUNDRED;KONE THOUSAND;
0ROMAN NUMERAL ONE THOUSAND C D;EFIVE THOUSAND;ETEN THOUSAND;EREVERSED ONE HUNDRED;0LATIN SMALL LETTER REVERSED C;
0ROMAN NUMERAL SIX LATE FORM;EFIFTY EARLY FORM;KTHOUSAND;EONE HUNDRED THOUSAND;0VULGAR FRACTION ZERO THIRDS;
0TURNED DIGIT TWO;EHREE;@2190;0LEFTWARDS ARROW;0UPWARDS ARROW;0RIGHTWARDS ARROW;0DOWNWARDS ARROW;0LEFT RIGHT ARROW;
0UP DOWN ARROW;0NORTH WEST ARROW;6EAST ARROW;0SOUTH EAST ARROW;6WEST ARROW;0LEFTWARDS ARROW WITH STROKE;
0RIGHTWARDS ARROW WITH STROKE;0LEFTWARDS WAVE ARROW;0RIGHTWARDS WAVE ARROW;0LEFTWARDS TWO HEADED ARROW;
0UPWARDS TWO HEADED ARROW;0RIGHTWARDS TWO HEADED ARROW;0DOWNWARDS TWO HEADED ARROW;0LEFTWARDS ARROW WITH TAIL;
0RIGHTWARDS ARROW WITH TAIL;0LEFTWARDS ARROW FROM BAR;0UPWARDS ARROW FROM BAR;0RIGHTWARDS ARROW FROM BAR;
0DOWNWARDS ARROW FROM BAR;0UP DOWN ARROW WITH BASE;0LEFTWARDS ARROW WITH HOOK;0RIGHTWARDS ARROW WITH HOOK;
0LEFTWARDS ARROW WITH LOOP;0RIGHTWARDS ARROW WITH LOOP;0LEFT RIGHT WAVE ARROW;BARROW WITH STROKE;
0DOWNWARDS ZIGZAG ARROW;0UPWARDS ARROW WITH TIP LEFTWARDS;NRIGHTWARDS;0DOWNWARDS ARROW WITH TIP LEFTWARDS;PRIGHTWARDS;
0RIGHTWARDS ARROW WITH CORNER DOWNWARDS;0DOWNWARDS ARROW WITH CORNER LEFTWARDS;0ANTICLOCKWISE TOP SEMICIRCLE ARROW;
0CLOCKWISE TOP SEMICIRCLE ARROW;0NORTH WEST ARROW TO LONG BAR;0LEFTWARDS ARROW TO BAR OVER RIGHTWARDS ARROW TO BAR;
0ANTICLOCKWISE OPEN CIRCLE ARROW;0CLOCKWISE OPEN CIRCLE ARROW;0LEFTWARDS HARPOON WITH BARB UPWARDS;SDOWNWARDS;
0UPWARDS HARPOON WITH BARB RIGHTWARDS;QLEFTWARDS;0RIGHTWARDS HARPOON WITH BARB UPWARDS;TDOWNWARDS;
0DOWNWARDS HARPOON WITH BARB RIGHTWARDS;SLEFTWARDS;0RIGHTWARDS ARROW OVER LEFTWARDS ARROW;
0UPWARDS ARROW LEFTWARDS OF DOWNWARDS ARROW;0LEFTWARDS ARROW OVER RIGHTWARDS ARROW;APAIRED ARROWS;
0UPWARDS PAIRED ARROWS;0RIGHTWARDS PAIRED ARROWS;0DOWNWARDS PAIRED ARROWS;0LEFTWARDS HARPOON OVER RIGHTWARDS HARPOON;
0RIGHTWARDS HARPOON OVER LEFTWARDS HARPOON;0LEFTWARDS DOUBLE ARROW WITH STROKE;4 RIGHT DOUBLE ARROW WITH STROKE;
0RIGHTWARDS DOUBLE ARROW WITH STROKE;0LEFTWARDS DOUBLE ARROW;0UPWARDS DOUBLE ARROW;0RIGHTWARDS DOUBLE ARROW;
0DOWNWARDS DOUBLE ARROW;0LEFT RIGHT DOUBLE ARROW;0UP DOWN DOUBLE ARROW;0NORTH WEST DOUBLE ARROW;6EAST DOUBLE ARROW;
0SOUTH EAST DOUBLE ARROW;6WEST DOUBLE ARROW;0LEFTWARDS TRIPLE ARROW;0RIGHTWARDS TRIPLE ARROW;0LEFTWARDS SQUIGGLE ARROW;
0RIGHTWARDS SQUIGGLE ARROW;0UPWARDS ARROW WITH DOUBLE STROKE;0DOWNWARDS ARROW WITH DOUBLE STROKE;
0LEFTWARDS DASHED ARROW;0UPWARDS DASHED ARROW;0RIGHTWARDS DASHED ARROW;0DOWNWARDS DASHED ARROW;0LEFTWARDS ARROW TO BAR;
0RIGHTWARDS ARROW TO BAR;0LEFTWARDS WHITE ARROW;0UPWARDS WHITE ARROW;0RIGHTWARDS WHITE ARROW;0DOWNWARDS WHITE ARROW;
0UPWARDS WHITE ARROW FROM BAR;KON PEDESTAL;V WITH HORIZONTAL BAR;bVERTICAL BAR;EDOUBLE ARROW;Q ON PEDESTAL;
0RIGHTWARDS WHITE ARROW FROM WALL;0NORTH WEST ARROW TO CORNER;0SOUTH EAST ARROW TO CORNER;0UP DOWN WHITE ARROW;
0RIGHT ARROW WITH SMALL CIRCLE;0DOWNWARDS ARROW LEFTWARDS OF UPWARDS ARROW;0THREE RIGHTWARDS ARROWS;
0LEFTWARDS ARROW WITH VERTICAL STROKE;0RIGHTWARDS ARROW WITH VERTICAL STROKE;0LEFT RIGHT ARROW WITH VERTICAL STROKE;
4WARDS ARROW WITH DOUBLE VERTICAL STROKE;0RIGHTWARDS ARROW WITH DOUBLE VERTICAL STROKE;
0LEFT RIGHT ARROW WITH DOUBLE VERTICAL STROKE;4WARDS OPEN-HEADED ARROW;0RIGHTWARDS OPEN-HEADED ARROW;
0LEFT RIGHT OPEN-HEADED ARROW;0FOR ALL;0COMPLEMENT;0PARTIAL DIFFERENTIAL;0THERE EXISTS;6DOES NOT EXIST;0EMPTY SET;
0INCREMENT;0NABLA;0ELEMENT OF;0NOT AN ELEMENT OF;0SMALL ELEMENT OF;0CONTAINS AS MEMBER;0DOES NOT CONTAIN AS MEMBER;
0SMALL CONTAINS AS MEMBER;0END OF PROOF;0N-ARY PRODUCT;6COPRODUCT;6SUMMATION;0MINUS SIGN;5-OR-PLUS SIGN;0DOT PLUS;
1IVISION SLASH;0SET MINUS;0ASTERISK OPERATOR;0RING OPERATOR;0BULLET OPERATOR;0SQUARE ROOT;0CUBE ROOT;0FOURTH ROOT;
0PROPORTIONAL TO;0INFINITY;0RIGHT ANGLE;0ANGLE;0MEASURED ANGLE;0SPHERICAL ANGLE;0DIVIDES;1OES NOT DIVIDE;0PARALLEL TO;
0NOT PARALLEL TO;0LOGICAL AND;8OR;0INTERSECTION;0UNION;0INTEGRAL;0DOUBLE INTEGRAL;0TRIPLE INTEGRAL;0CONTOUR INTEGRAL;
0SURFACE INTEGRAL;0VOLUME INTEGRAL;0CLOCKWISE INTEGRAL;ACONTOUR INTEGRAL;0ANTICLOCKWISE CONTOUR INTEGRAL;0THEREFORE;
0BECAUSE;0RATIO;0PROPORTION;0DOT MINUS;0EXCESS;0GEOMETRIC PROPORTION;0HOMOTHETIC;0TILDE OPERATOR;0REVERSED TILDE;
0INVERTED LAZY S;0SINE WAVE;0WREATH PRODUCT;0NOT TILDE;0MINUS TILDE;0ASYMPTOTICALLY EQUAL TO;
0NOT ASYMPTOTICALLY EQUAL TO;0APPROXIMATELY EQUAL TO;EBUT NOT ACTUALLY EQUAL TO;
0NEITHER APPROXIMATELY NOR ACTUALLY EQUAL TO;0ALMOST EQUAL TO;0NOT ALMOST EQUAL TO;0ALMOST EQUAL OR EQUAL TO;
0TRIPLE TILDE;0ALL EQUAL TO;0EQUIVALENT TO;0GEOMETRICALLY EQUIVALENT TO;0DIFFERENCE BETWEEN;0APPROACHES THE LIMIT;
0GEOMETRICALLY EQUAL TO;0APPROXIMATELY EQUAL TO OR THE IMAGE OF;0IMAGE OF OR APPROXIMATELY EQUAL TO;0COLON EQUALS;
0EQUALS COLON;0RING IN EQUAL TO;5EQUAL TO;0CORRESPONDS TO;0ESTIMATES;1QUIANGULAR TO;0STAR EQUALS;0DELTA EQUAL TO;
0EQUAL TO BY DEFINITION;0MEASURED BY;0QUESTIONED EQUAL TO;0NOT EQUAL TO;0IDENTICAL TO;0NOT IDENTICAL TO;
0STRICTLY EQUIVALENT TO;0LESS-THAN OR EQUAL TO;0GREATER-THAN OR EQUAL TO;0LESS-THAN OVER EQUAL TO;
0GREATER-THAN OVER EQUAL TO;0LESS-THAN BUT NOT EQUAL TO;0GREATER-THAN BUT NOT EQUAL TO;0MUCH LESS-THAN;5GREATER-THAN;
0BETWEEN;0NOT EQUIVALENT TO;4LESS-THAN;4GREATER-THAN;1EITHER LESS-THAN NOR EQUAL TO;8GREATER-THAN NOR EQUAL TO;
0LESS-THAN OR EQUIVALENT TO;0GREATER-THAN OR EQUIVALENT TO;0NEITHER LESS-THAN NOR EQUIVALENT TO;
8GREATER-THAN NOR EQUIVALENT TO;0LESS-THAN OR GREATER-THAN;0GREATER-THAN OR LESS-THAN;
0NEITHER LESS-THAN NOR GREATER-THAN;8GREATER-THAN NOR LESS-THAN;0PRECEDES;0SUCCEEDS;0PRECEDES OR EQUAL TO;
0SUCCEEDS OR EQUAL TO;0PRECEDES OR EQUIVALENT TO;0SUCCEEDS OR EQUIVALENT TO;0DOES NOT PRECEDE;9SUCCEED;0SUBSET OF;
2PERSET OF;0NOT A SUBSET OF;8PERSET OF;0SUBSET OF OR EQUAL TO;2PERSET OF OR EQUAL TO;0NEITHER A SUBSET OF NOR EQUAL TO;
CPERSET OF NOR EQUAL TO;0SUBSET OF WITH NOT EQUAL TO;2PERSET OF WITH NOT EQUAL TO;0MULTISET;8 MULTIPLICATION;9UNION;
0SQUARE IMAGE OF;7ORIGINAL OF;7IMAGE OF OR EQUAL TO;7ORIGINAL OF OR EQUAL TO;7CAP;8UP;0CIRCLED PLUS;8MINUS;8TIMES;
8DIVISION SLASH;9OT OPERATOR;8RING OPERATOR;8ASTERISK OPERATOR;8EQUALS;8DASH;0SQUARED PLUS;8MINUS;8TIMES;8DOT OPERATOR;
0RIGHT TACK;0LEFT TACK;0DOWN TACK;0UP TACK;0ASSERTION;0MODELS;0TRUE;0FORCES;0TRIPLE VERTICAL BAR RIGHT TURNSTILE;
0DOUBLE VERTICAL BAR DOUBLE RIGHT TURNSTILE;2ES NOT PROVE;0NOT TRUE;0DOES NOT FORCE;
0NEGATED DOUBLE VERTICAL BAR DOUBLE RIGHT TURNSTILE;0PRECEDES UNDER RELATION;0SUCCEEDS UNDER RELATION;
0NORMAL SUBGROUP OF;0CONTAINS AS NORMAL SUBGROUP;0NORMAL SUBGROUP OF OR EQUAL TO;
0CONTAINS AS NORMAL SUBGROUP OR EQUAL TO;0ORIGINAL OF;0IMAGE OF;0MULTIMAP;0HERMITIAN CONJUGATE MATRIX;0INTERCALATE;
0XOR;0NAND;1OR;0RIGHT ANGLE WITH ARC;6TRIANGLE;0N-ARY LOGICAL AND;EOR;6INTERSECTION;6UNION;0DIAMOND OPERATOR;
1OT OPERATOR;0STAR OPERATOR;0DIVISION TIMES;0BOWTIE;0LEFT NORMAL FACTOR SEMIDIRECT PRODUCT;
0RIGHT NORMAL FACTOR SEMIDIRECT PRODUCT;0LEFT SEMIDIRECT PRODUCT;0RIGHT SEMIDIRECT PRODUCT;1EVERSED TILDE EQUALS;
0CURLY LOGICAL OR;EAND;0DOUBLE SUBSET;9PERSET;7INTERSECTION;7UNION;0PITCHFORK;0EQUAL AND PARALLEL TO;
0LESS-THAN WITH DOT;0GREATER-THAN WITH DOT;0VERY MUCH LESS-THAN;AGREATER-THAN;0LESS-THAN EQUAL TO OR GREATER-THAN;
0GREATER-THAN EQUAL TO OR LESS-THAN;0EQUAL TO OR LESS-THAN;CGREATER-THAN;CPRECEDES;CSUCCEEDS;
0DOES NOT PRECEDE OR EQUAL;9SUCCEED OR EQUAL;0NOT SQUARE IMAGE OF OR EQUAL TO;BORIGINAL OF OR EQUAL TO;
0SQUARE IMAGE OF OR NOT EQUAL TO;7ORIGINAL OF OR NOT EQUAL TO;0LESS-THAN BUT NOT EQUIVALENT TO;
0GREATER-THAN BUT NOT EQUIVALENT TO;0PRECEDES BUT NOT EQUIVALENT TO;0SUCCEEDS BUT NOT EQUIVALENT TO;
0NOT NORMAL SUBGROUP OF;0DOES NOT CONTAIN AS NORMAL SUBGROUP;0NOT NORMAL SUBGROUP OF OR EQUAL TO;
0DOES NOT CONTAIN AS NORMAL SUBGROUP OR EQUAL;0VERTICAL ELLIPSIS;0MIDLINE HORIZONTAL ELLIPSIS;
0UP RIGHT DIAGONAL ELLIPSIS;0DOWN RIGHT DIAGONAL ELLIPSIS;0ELEMENT OF WITH LONG HORIZONTAL STROKE;
GVERTICAL BAR AT END OF HORIZONTAL STROKE;0SMALL ELEMENT OF WITH VERTICAL BAR AT END OF HORIZONTAL STROKE;
0ELEMENT OF WITH DOT ABOVE;GOVERBAR;0SMALL ELEMENT OF WITH OVERBAR;0ELEMENT OF WITH UNDERBAR;GTWO HORIZONTAL STROKES;
0CONTAINS WITH LONG HORIZONTAL STROKE;EVERTICAL BAR AT END OF HORIZONTAL STROKE;
0SMALL CONTAINS WITH VERTICAL BAR AT END OF HORIZONTAL STROKE;0CONTAINS WITH OVERBAR;0SMALL CONTAINS WITH OVERBAR;
0Z NOTATION BAG MEMBERSHIP;0DIAMETER SIGN;0ELECTRIC ARROW;0HOUSE;0UP ARROWHEAD;0DOWN ARROWHEAD;0PROJECTIVE;1ERSPECTIVE;
0WAVY LINE;0LEFT CEILING;0RIGHT CEILING;0LEFT FLOOR;0RIGHT FLOOR;0BOTTOM RIGHT CROP;7LEFT CROP;0TOP RIGHT CROP;
4LEFT CROP;0REVERSED NOT SIGN;0SQUARE LOZENGE;0ARC;0SEGMENT;2CTOR;0TELEPHONE RECORDER;0POSITION INDICATOR;
0VIEWDATA SQUARE;0PLACE OF INTEREST SIGN;0TURNED NOT SIGN;0WATCH;0HOURGLASS;0TOP LEFT CORNER;4RIGHT CORNER;
0BOTTOM LEFT CORNER;7RIGHT CORNER;0TOP HALF INTEGRAL;0BOTTOM HALF INTEGRAL;0FROWN;0SMILE;
0UP ARROWHEAD BETWEEN TWO HORIZONTAL BARS;0OPTION KEY;0ERASE TO THE RIGHT;0X IN A RECTANGLE BOX;0KEYBOARD;
0LEFT-POINTING ANGLE BRACKET;0RIGHT-POINTING ANGLE BRACKET;0ERASE TO THE LEFT;0BENZENE RING;0CYLINDRICITY;
0ALL AROUND-PROFILE;0SYMMETRY;0TOTAL RUNOUT;0DIMENSION ORIGIN;0CONICAL TAPER;0SLOPE;0COUNTERBORE;7SINK;
0APL FUNCTIONAL SYMBOL I-BEAM;MSQUISH QUAD;MQUAD EQUAL;RDIVIDE;TAMOND;RJOT;RCIRCLE;MCIRCLE STILE;TJOT;MSLASH BAR;
MBACKSLASH BAR;MQUAD SLASH;RBACKSLASH;RLESS-THAN;RGREATER-THAN;MLEFTWARDS VANE;MRIGHTWARDS VANE;MQUAD LEFTWARDS ARROW;
RRIGHTWARDS ARROW;MCIRCLE BACKSLASH;MDOWN TACK UNDERBAR;NELTA STILE;MQUAD DOWN CARET;SELTA;MDOWN TACK JOT;
MUPWARDS VANE;MQUAD UPWARDS ARROW;MUP TACK OVERBAR;MDEL STILE;MQUAD UP CARET;RDEL;MUP TACK JOT;MDOWNWARDS VANE;
MQUAD DOWNWARDS ARROW;OOTE UNDERBAR;MDELTA UNDERBAR;NIAMOND UNDERBAR;MJOT UNDERBAR;MCIRCLE UNDERBAR;MUP SHOE JOT;
MQUOTE QUAD;MCIRCLE STAR;MQUAD COLON;MUP TACK DIAERESIS;MDEL DIAERESIS;MSTAR DIAERESIS;MJOT DIAERESIS;
MCIRCLE DIAERESIS;MDOWN SHOE STILE;MLEFT SHOE STILE;MTILDE DIAERESIS;MGREATER-THAN DIAERESIS;MCOMMA BAR;MDEL TILDE;
MZILDE;MSTILE TILDE;NEMICOLON UNDERBAR;MQUAD NOT EQUAL;RQUESTION;MDOWN CARET TILDE;MUP CARET TILDE;MIOTA;MRHO;MOMEGA;
MALPHA UNDERBAR;MEPSILON UNDERBAR;MIOTA UNDERBAR;MOMEGA UNDERBAR;MALPHA;0NOT CHECK MARK;
0RIGHT ANGLE WITH DOWNWARDS ZIGZAG ARROW;0SHOULDERED OPEN BOX;0BELL SYMBOL;0VERTICAL LINE WITH MIDDLE DOT;
0INSERTION SYMBOL;0CONTINUOUS UNDERLINE SYMBOL;0DISCONTINUOUS UNDERLINE SYMBOL;0EMPHASIS SYMBOL;0COMPOSITION SYMBOL;
0WHITE SQUARE WITH CENTRE VERTICAL LINE;0ENTER SYMBOL;0ALTERNATIVE KEY SYMBOL;0HELM SYMBOL;
0CIRCLED HORIZONTAL BAR WITH NOTCH;8TRIANGLE DOWN;0BROKEN CIRCLE WITH NORTHWEST ARROW;0UNDO SYMBOL;0MONOSTABLE SYMBOL;
0HYSTERESIS SYMBOL;0OPEN-CIRCUIT-OUTPUT H-TYPE SYMBOL;KL-TYPE SYMBOL;0PASSIVE-PULL-DOWN-OUTPUT SYMBOL;
DUP-OUTPUT SYMBOL;0DIRECT CURRENT SYMBOL FORM TWO;0SOFTWARE-FUNCTION SYMBOL;0APL FUNCTIONAL SYMBOL QUAD;
0DECIMAL SEPARATOR KEY SYMBOL;0PREVIOUS PAGE;0NEXT PAGE;0PRINT SCREEN SYMBOL;0CLEAR SCREEN SYMBOL;
0LEFT PARENTHESIS UPPER HOOK;HEXTENSION;HLOWER HOOK;0RIGHT PARENTHESIS UPPER HOOK;IEXTENSION;ILOWER HOOK;
0LEFT SQUARE BRACKET UPPER CORNER;KEXTENSION;KLOWER CORNER;0RIGHT SQUARE BRACKET UPPER CORNER;LEXTENSION;LLOWER CORNER;
0LEFT CURLY BRACKET UPPER HOOK;JMIDDLE PIECE;JLOWER HOOK;0CURLY BRACKET EXTENSION;0RIGHT CURLY BRACKET UPPER HOOK;
KMIDDLE PIECE;KLOWER HOOK;0INTEGRAL EXTENSION;0HORIZONTAL LINE EXTENSION;
0UPPER LEFT OR LOWER RIGHT CURLY BRACKET SECTION;6RIGHT OR LOWER LEFT CURLY BRACKET SECTION;0SUMMATION TOP;ABOTTOM;
0TOP SQUARE BRACKET;0BOTTOM SQUARE BRACKET;L OVER TOP SQUARE BRACKET;0RADICAL SYMBOL BOTTOM;0LEFT VERTICAL BOX LINE;
0RIGHT VERTICAL BOX LINE;0HORIZONTAL SCAN LINE-1;L3;L7;L9;0DENTISTRY SYMBOL LIGHT VERTICAL AND TOP RIGHT;aBOTTOM RIGHT;
WWITH CIRCLE;NDOWN AND HORIZONTAL WITH CIRCLE;NUP AND HORIZONTAL WITH CIRCLE;NVERTICAL WITH TRIANGLE;
NDOWN AND HORIZONTAL WITH TRIANGLE;NUP AND HORIZONTAL WITH TRIANGLE;NVERTICAL AND WAVE;NDOWN AND HORIZONTAL WITH WAVE;
NUP AND HORIZONTAL WITH WAVE;NDOWN AND HORIZONTAL;NUP AND HORIZONTAL;NVERTICAL AND TOP LEFT;aBOTTOM LEFT;0SQUARE FOOT;
0RETURN SYMBOL;0EJECT SYMBOL;0VERTICAL LINE EXTENSION;0METRICAL BREVE;9LONG OVER SHORT;9SHORT OVER LONG;
9LONG OVER TWO SHORTS;9TWO SHORTS OVER LONG;KJOINED;ARISEME;AETRASEME;9PENTASEME;0EARTH GROUND;0FUSE;0TOP PARENTHESIS;
0BOTTOM PARENTHESIS;0TOP CURLY BRACKET;0BOTTOM CURLY BRACKET;0TOP TORTOISE SHELL BRACKET;
0BOTTOM TORTOISE SHELL BRACKET;0WHITE TRAPEZIUM;0BENZENE RING WITH CIRCLE;0STRAIGHTNESS;0FLATNESS;0AC CURRENT;
0ELECTRICAL INTERSECTION;0DECIMAL EXPONENT SYMBOL;0BLACK RIGHT-POINTING DOUBLE TRIANGLE;6LEFT-POINTING DOUBLE TRIANGLE;
6UP-POINTING DOUBLE TRIANGLE;6DOWN-POINTING DOUBLE TRIANGLE;6RIGHT-POINTING DOUBLE TRIANGLE WITH VERTICAL BAR;
6LEFT-POINTING DOUBLE TRIANGLE WITH VERTICAL BAR;6RIGHT-POINTING TRIANGLE WITH DOUBLE VERTICAL BAR;0ALARM CLOCK;
0STOPWATCH;0TIMER CLOCK;0HOURGLASS WITH FLOWING SAND;0BLACK MEDIUM LEFT-POINTING TRIANGLE;DRIGHT-POINTING TRIANGLE;
DUP-POINTING TRIANGLE;DDOWN-POINTING TRIANGLE;0DOUBLE VERTICAL BAR;0BLACK SQUARE FOR STOP;6CIRCLE FOR RECORD;
0POWER SYMBOL;6ON-OFF SYMBOL;8 SYMBOL;6SLEEP SYMBOL;0OBSERVER EYE SYMBOL;0SYMBOL FOR NULL;BSTART OF HEADING;KTEXT;
BEND OF TEXT;JRANSMISSION;DQUIRY;BACKNOWLEDGE;BBELL;CACKSPACE;BHORIZONTAL TABULATION;BLINE FEED;BVERTICAL TABULATION;
BFORM FEED;BCARRIAGE RETURN;BSHIFT OUT;HIN;BDATA LINK ESCAPE;CEVICE CONTROL ONE;QTWO;RHREE;QFOUR;BNEGATIVE ACKNOWLEDGE;
BSYNCHRONOUS IDLE;BEND OF TRANSMISSION BLOCK;BCANCEL;BEND OF MEDIUM;BSUBSTITUTE;BESCAPE;BFILE SEPARATOR;
BGROUP SEPARATOR;BRECORD SEPARATOR;BUNIT SEPARATOR;BSPACE;BDELETE;0BLANK SYMBOL;0OPEN BOX;0SYMBOL FOR NEWLINE;
BDELETE FORM TWO;BSUBSTITUTE FORM TWO;@2440;0OCR HOOK;4CHAIR;4FORK;4INVERTED FORK;4BELT BUCKLE;5OW TIE;
5RANCH BANK IDENTIFICATION;4AMOUNT OF CHECK;4DASH;4CUSTOMER ACCOUNT NUMBER;4DOUBLE BACKSLASH;@2460;0CIRCLED DIGIT ONE;
ETWO;FHREE;EFOUR;FIVE;ESIX;FEVEN;EEIGHT;ENINE;8NUMBER TEN;FELEVEN;FTWELVE;GHIRTEEN;FFOURTEEN;GIFTEEN;FSIXTEEN;
GEVENTEEN;FEIGHTEEN;FNINETEEN;FTWENTY;0PARENTHESIZED DIGIT ONE;KTWO;LHREE;KFOUR;LIVE;KSIX;LEVEN;KEIGHT;KNINE;
ENUMBER TEN;LELEVEN;LTWELVE;MHIRTEEN;LFOURTEEN;MIFTEEN;LSIXTEEN;MEVENTEEN;LEIGHTEEN;LNINETEEN;LTWENTY;
0DIGIT ONE FULL STOP;6TWO FULL STOP;7HREE FULL STOP;6FOUR FULL STOP;7IVE FULL STOP;6SIX FULL STOP;7EVEN FULL STOP;
6EIGHT FULL STOP;6NINE FULL STOP;0NUMBER TEN FULL STOP;7ELEVEN FULL STOP;7TWELVE FULL STOP;8HIRTEEN FULL STOP;
7FOURTEEN FULL STOP;8IFTEEN FULL STOP;7SIXTEEN FULL STOP;8EVENTEEN FULL STOP;7EIGHTEEN FULL STOP;7NINETEEN FULL STOP;
7TWENTY FULL STOP;0PARENTHESIZED LATIN SMALL LETTER A;XB;XC;XD;XE;XF;XG;XH;XI;XJ;XK;XL;XM;XN;XO;XP;XQ;XR;XS;XT;XU;XV;
XW;XX;XY;XZ;0CIRCLED LATIN CAPITAL LETTER A;TB;TC;TD;TE;TF;TG;TH;TI;TJ;TK;TL;TM;TN;TO;TP;TQ;TR;TS;TT;TU;TV;TW;TX;TY;TZ;
ESMALL LETTER A;RB;RC;RD;RE;RF;RG;RH;RI;RJ;RK;RL;RM;RN;RO;RP;RQ;RR;RS;RT;RU;RV;RW;RX;RY;RZ;8DIGIT ZERO;
0NEGATIVE CIRCLED NUMBER ELEVEN;OTWELVE;PHIRTEEN;OFOURTEEN;PIFTEEN;OSIXTEEN;PEVENTEEN;OEIGHTEEN;ONINETEEN;OTWENTY;
0DOUBLE CIRCLED DIGIT ONE;LTWO;MHREE;LFOUR;MIVE;LSIX;MEVEN;LEIGHT;LNINE;FNUMBER TEN;0NEGATIVE CIRCLED DIGIT ZERO;
0BOX DRAWINGS LIGHT HORIZONTAL;DHEAVY HORIZONTAL;DLIGHT VERTICAL;DHEAVY VERTICAL;DLIGHT TRIPLE DASH HORIZONTAL;
DHEAVY TRIPLE DASH HORIZONTAL;DLIGHT TRIPLE DASH VERTICAL;DHEAVY TRIPLE DASH VERTICAL;DLIGHT QUADRUPLE DASH HORIZONTAL;
DHEAVY QUADRUPLE DASH HORIZONTAL;DLIGHT QUADRUPLE DASH VERTICAL;DHEAVY QUADRUPLE DASH VERTICAL;DLIGHT DOWN AND RIGHT;
DDOWN LIGHT AND RIGHT HEAVY;IHEAVY AND RIGHT LIGHT;DHEAVY DOWN AND RIGHT;DLIGHT DOWN AND LEFT;
DDOWN LIGHT AND LEFT HEAVY;IHEAVY AND LEFT LIGHT;DHEAVY DOWN AND LEFT;DLIGHT UP AND RIGHT;DUP LIGHT AND RIGHT HEAVY;
GHEAVY AND RIGHT LIGHT;DHEAVY UP AND RIGHT;DLIGHT UP AND LEFT;DUP LIGHT AND LEFT HEAVY;GHEAVY AND LEFT LIGHT;
DHEAVY UP AND LEFT;DLIGHT VERTICAL AND RIGHT;DVERTICAL LIGHT AND RIGHT HEAVY;DUP HEAVY AND RIGHT DOWN LIGHT;
DDOWN HEAVY AND RIGHT UP LIGHT;DVERTICAL HEAVY AND RIGHT LIGHT;DDOWN LIGHT AND RIGHT UP HEAVY;
DUP LIGHT AND RIGHT DOWN HEAVY;DHEAVY VERTICAL AND RIGHT;DLIGHT VERTICAL AND LEFT;DVERTICAL LIGHT AND LEFT HEAVY;
DUP HEAVY AND LEFT DOWN LIGHT;DDOWN HEAVY AND LEFT UP LIGHT;DVERTICAL HEAVY AND LEFT LIGHT;
DDOWN LIGHT AND LEFT UP HEAVY;DUP LIGHT AND LEFT DOWN HEAVY;DHEAVY VERTICAL AND LEFT;DLIGHT DOWN AND HORIZONTAL;
EEFT HEAVY AND RIGHT DOWN LIGHT;DRIGHT HEAVY AND LEFT DOWN LIGHT;DDOWN LIGHT AND HORIZONTAL HEAVY;
IHEAVY AND HORIZONTAL LIGHT;DRIGHT LIGHT AND LEFT DOWN HEAVY;DLEFT LIGHT AND RIGHT DOWN HEAVY;
DHEAVY DOWN AND HORIZONTAL;DLIGHT UP AND HORIZONTAL;EEFT HEAVY AND RIGHT UP LIGHT;DRIGHT HEAVY AND LEFT UP LIGHT;
DUP LIGHT AND HORIZONTAL HEAVY;GHEAVY AND HORIZONTAL LIGHT;DRIGHT LIGHT AND LEFT UP HEAVY;
DLEFT LIGHT AND RIGHT UP HEAVY;DHEAVY UP AND HORIZONTAL;DLIGHT VERTICAL AND HORIZONTAL;
EEFT HEAVY AND RIGHT VERTICAL LIGHT;DRIGHT HEAVY AND LEFT VERTICAL LIGHT;DVERTICAL LIGHT AND HORIZONTAL HEAVY;
DUP HEAVY AND DOWN HORIZONTAL LIGHT;DDOWN HEAVY AND UP HORIZONTAL LIGHT;DVERTICAL HEAVY AND HORIZONTAL LIGHT;
DLEFT UP HEAVY AND RIGHT DOWN LIGHT;DRIGHT UP HEAVY AND LEFT DOWN LIGHT;DLEFT DOWN HEAVY AND RIGHT UP LIGHT;
DRIGHT DOWN HEAVY AND LEFT UP LIGHT;DDOWN LIGHT AND UP HORIZONTAL HEAVY;DUP LIGHT AND DOWN HORIZONTAL HEAVY;
DRIGHT LIGHT AND LEFT VERTICAL HEAVY;DLEFT LIGHT AND RIGHT VERTICAL HEAVY;DHEAVY VERTICAL AND HORIZONTAL;
DLIGHT DOUBLE DASH HORIZONTAL;DHEAVY DOUBLE DASH HORIZONTAL;DLIGHT DOUBLE DASH VERTICAL;DHEAVY DOUBLE DASH VERTICAL;
DDOUBLE HORIZONTAL;KVERTICAL;FWN SINGLE AND RIGHT DOUBLE;IDOUBLE AND RIGHT SINGLE;FUBLE DOWN AND RIGHT;
FWN SINGLE AND LEFT DOUBLE;IDOUBLE AND LEFT SINGLE;FUBLE DOWN AND LEFT;DUP SINGLE AND RIGHT DOUBLE;
GDOUBLE AND RIGHT SINGLE;DDOUBLE UP AND RIGHT;DUP SINGLE AND LEFT DOUBLE;GDOUBLE AND LEFT SINGLE;DDOUBLE UP AND LEFT;
DVERTICAL SINGLE AND RIGHT DOUBLE;MDOUBLE AND RIGHT SINGLE;DDOUBLE VERTICAL AND RIGHT;DVERTICAL SINGLE AND LEFT DOUBLE;
MDOUBLE AND LEFT SINGLE;DDOUBLE VERTICAL AND LEFT;FWN SINGLE AND HORIZONTAL DOUBLE;IDOUBLE AND HORIZONTAL SINGLE;
FUBLE DOWN AND HORIZONTAL;DUP SINGLE AND HORIZONTAL DOUBLE;GDOUBLE AND HORIZONTAL SINGLE;DDOUBLE UP AND HORIZONTAL;
DVERTICAL SINGLE AND HORIZONTAL DOUBLE;MDOUBLE AND HORIZONTAL SINGLE;DDOUBLE VERTICAL AND HORIZONTAL;
DLIGHT ARC DOWN AND RIGHT;WLEFT;NUP AND LEFT;URIGHT;JDIAGONAL UPPER RIGHT TO LOWER LEFT;YLEFT TO LOWER RIGHT;SCROSS;
JLEFT;JUP;JRIGHT;JDOWN;DHEAVY LEFT;JUP;JRIGHT;JDOWN;DLIGHT LEFT AND HEAVY RIGHT;JUP AND HEAVY DOWN;
DHEAVY LEFT AND LIGHT RIGHT;JUP AND LIGHT DOWN;0UPPER HALF BLOCK;0LOWER ONE EIGHTH BLOCK;AQUARTER BLOCK;
6THREE EIGHTHS BLOCK;6HALF BLOCK;6FIVE EIGHTHS BLOCK;6THREE QUARTERS BLOCK;6SEVEN EIGHTHS BLOCK;0FULL BLOCK;
0LEFT SEVEN EIGHTHS BLOCK;5THREE QUARTERS BLOCK;5FIVE EIGHTHS BLOCK;5HALF BLOCK;5THREE EIGHTHS BLOCK;
5ONE QUARTER BLOCK;9EIGHTH BLOCK;0RIGHT HALF BLOCK;0LIGHT SHADE;0MEDIUM SHADE;0DARK SHADE;0UPPER ONE EIGHTH BLOCK;
0RIGHT ONE EIGHTH BLOCK;0QUADRANT LOWER LEFT;FRIGHT;9UPPER LEFT;J AND LOWER LEFT AND LOWER RIGHT;URIGHT;
OUPPER RIGHT AND LOWER LEFT;kRIGHT;FRIGHT;K AND LOWER LEFT;Z AND LOWER RIGHT;0BLACK SQUARE;0WHITE SQUARE;
C WITH ROUNDED CORNERS;DCONTAINING BLACK SMALL SQUARE;0SQUARE WITH HORIZONTAL FILL;CVERTICAL FILL;
CORTHOGONAL CROSSHATCH FILL;CUPPER LEFT TO LOWER RIGHT FILL;IRIGHT TO LOWER LEFT FILL;CDIAGONAL CROSSHATCH FILL;
0BLACK SMALL SQUARE;0WHITE SMALL SQUARE;0BLACK RECTANGLE;0WHITE RECTANGLE;0BLACK VERTICAL RECTANGLE;
0WHITE VERTICAL RECTANGLE;0BLACK PARALLELOGRAM;0WHITE PARALLELOGRAM;0BLACK UP-POINTING TRIANGLE;
0WHITE UP-POINTING TRIANGLE;0BLACK UP-POINTING SMALL TRIANGLE;0WHITE UP-POINTING SMALL TRIANGLE;
0BLACK RIGHT-POINTING TRIANGLE;0WHITE RIGHT-POINTING TRIANGLE;0BLACK RIGHT-POINTING SMALL TRIANGLE;
0WHITE RIGHT-POINTING SMALL TRIANGLE;0BLACK RIGHT-POINTING POINTER;0WHITE RIGHT-POINTING POINTER;
0BLACK DOWN-POINTING TRIANGLE;0WHITE DOWN-POINTING TRIANGLE;0BLACK DOWN-POINTING SMALL TRIANGLE;
0WHITE DOWN-POINTING SMALL TRIANGLE;0BLACK LEFT-POINTING TRIANGLE;0WHITE LEFT-POINTING TRIANGLE;
0BLACK LEFT-POINTING SMALL TRIANGLE;0WHITE LEFT-POINTING SMALL TRIANGLE;0BLACK LEFT-POINTING POINTER;
0WHITE LEFT-POINTING POINTER;0BLACK DIAMOND;0WHITE DIAMOND;D CONTAINING BLACK SMALL DIAMOND;0FISHEYE;0LOZENGE;
0WHITE CIRCLE;0DOTTED CIRCLE;0CIRCLE WITH VERTICAL FILL;0BULLSEYE;1LACK CIRCLE;0CIRCLE WITH LEFT HALF BLACK;
CRIGHT HALF BLACK;CLOWER HALF BLACK;CUPPER HALF BLACK;IRIGHT QUADRANT BLACK;CALL BUT UPPER LEFT QUADRANT BLACK;
0LEFT HALF BLACK CIRCLE;0RIGHT HALF BLACK CIRCLE;0INVERSE BULLET;8WHITE CIRCLE;0UPPER HALF INVERSE WHITE CIRCLE;
0LOWER HALF INVERSE WHITE CIRCLE;0UPPER LEFT QUADRANT CIRCULAR ARC;6RIGHT QUADRANT CIRCULAR ARC;
0LOWER RIGHT QUADRANT CIRCULAR ARC;6LEFT QUADRANT CIRCULAR ARC;0UPPER HALF CIRCLE;0LOWER HALF CIRCLE;
0BLACK LOWER RIGHT TRIANGLE;CLEFT TRIANGLE;6UPPER LEFT TRIANGLE;CRIGHT TRIANGLE;0WHITE BULLET;
0SQUARE WITH LEFT HALF BLACK;CRIGHT HALF BLACK;CUPPER LEFT DIAGONAL HALF BLACK;CLOWER RIGHT DIAGONAL HALF BLACK;
0WHITE SQUARE WITH VERTICAL BISECTING LINE;6UP-POINTING TRIANGLE WITH DOT;0UP-POINTING TRIANGLE WITH LEFT HALF BLACK;
QRIGHT HALF BLACK;0LARGE CIRCLE;0WHITE SQUARE WITH UPPER LEFT QUADRANT;ILOWER LEFT QUADRANT;ORIGHT QUADRANT;
IUPPER RIGHT QUADRANT;6CIRCLE WITH UPPER LEFT QUADRANT;ILOWER LEFT QUADRANT;ORIGHT QUADRANT;IUPPER RIGHT QUADRANT;
0UPPER LEFT TRIANGLE;6RIGHT TRIANGLE;0LOWER LEFT TRIANGLE;0WHITE MEDIUM SQUARE;0BLACK MEDIUM SQUARE;
0WHITE MEDIUM SMALL SQUARE;0BLACK MEDIUM SMALL SQUARE;0LOWER RIGHT TRIANGLE;0BLACK SUN WITH RAYS;0CLOUD;0UMBRELLA;
0SNOWMAN;0COMET;0BLACK STAR;0WHITE STAR;0LIGHTNING;0THUNDERSTORM;0SUN;0ASCENDING NODE;0DESCENDING NODE;0CONJUNCTION;
0OPPOSITION;0BLACK TELEPHONE;0WHITE TELEPHONE;0BALLOT BOX;A WITH CHECK;GX;0SALTIRE;0UMBRELLA WITH RAIN DROPS;
0HOT BEVERAGE;0WHITE SHOGI PIECE;0BLACK SHOGI PIECE;0SHAMROCK;0REVERSED ROTATED FLORAL HEART BULLET;
0BLACK LEFT POINTING INDEX;6RIGHT POINTING INDEX;0WHITE LEFT POINTING INDEX;6UP POINTING INDEX;6RIGHT POINTING INDEX;
6DOWN POINTING INDEX;0SKULL AND CROSSBONES;0CAUTION SIGN;0RADIOACTIVE SIGN;0BIOHAZARD SIGN;0CADUCEUS;0ANKH;
0ORTHODOX CROSS;0CHI RHO;1ROSS OF LORRAINE;9JERUSALEM;0STAR AND CRESCENT;0FARSI SYMBOL;0ADI SHAKTI;0HAMMER AND SICKLE;
0PEACE SYMBOL;0YIN YANG;0TRIGRAM FOR HEAVEN;CLAKE;CFIRE;CTHUNDER;CWIND;DATER;CMOUNTAIN;CEARTH;0WHEEL OF DHARMA;
2ITE FROWNING FACE;6SMILING FACE;0BLACK SMILING FACE;0WHITE SUN WITH RAYS;0FIRST QUARTER MOON;0LAST QUARTER MOON;
0MERCURY;0FEMALE SIGN;0EARTH;0MALE SIGN;0JUPITER;0SATURN;0URANUS;0NEPTUNE;0PLUTO;0ARIES;0TAURUS;0GEMINI;0CANCER;0LEO;
0VIRGO;0LIBRA;0SCORPIUS;1AGITTARIUS;0CAPRICORN;0AQUARIUS;0PISCES;0WHITE CHESS KING;CQUEEN;CROOK;CBISHOP;CKNIGHT;CPAWN;
0BLACK CHESS KING;CQUEEN;CROOK;CBISHOP;CKNIGHT;CPAWN;6SPADE SUIT;0WHITE HEART SUIT;6DIAMOND SUIT;0BLACK CLUB SUIT;
0WHITE SPADE SUIT;0BLACK HEART SUIT;6DIAMOND SUIT;0WHITE CLUB SUIT;0HOT SPRINGS;0QUARTER NOTE;0EIGHTH NOTE;
0BEAMED EIGHTH NOTES;7SIXTEENTH NOTES;0MUSIC FLAT SIGN;6NATURAL SIGN;6SHARP SIGN;0WEST SYRIAC CROSS;0EAST SYRIAC CROSS;
0UNIVERSAL RECYCLING SYMBOL;0RECYCLING SYMBOL FOR TYPE-1 PLASTICS;Q2 PLASTICS;Q3 PLASTICS;Q4 PLASTICS;Q5 PLASTICS;
Q6 PLASTICS;Q7 PLASTICS;LGENERIC MATERIALS;0BLACK UNIVERSAL RECYCLING SYMBOL;0RECYCLED PAPER SYMBOL;
0PARTIALLY-RECYCLED PAPER SYMBOL;1ERMANENT PAPER SIGN;0WHEELCHAIR SYMBOL;0DIE FACE-1;92;93;94;95;96;
0WHITE CIRCLE WITH DOT RIGHT;ITWO DOTS;0BLACK CIRCLE WITH WHITE DOT RIGHT;ITWO WHITE DOTS;0MONOGRAM FOR YANG;EIN;
0DIGRAM FOR GREATER YANG;BLESSER YIN;JANG;BGREATER YIN;0WHITE FLAG;0BLACK FLAG;0HAMMER AND PICK;0ANCHOR;
0CROSSED SWORDS;0STAFF OF AESCULAPIUS;1CALES;0ALEMBIC;0FLOWER;0GEAR;0STAFF OF HERMES;0ATOM SYMBOL;0FLEUR-DE-LIS;
0OUTLINED WHITE STAR;0THREE LINES CONVERGING RIGHT;NLEFT;0WARNING SIGN;0HIGH VOLTAGE SIGN;0DOUBLED FEMALE SIGN;
8MALE SIGN;0INTERLOCKED FEMALE AND MALE SIGN;0MALE AND FEMALE SIGN;5WITH STROKE SIGN;HAND MALE AND FEMALE SIGN;
0VERTICAL MALE WITH STROKE SIGN;0HORIZONTAL MALE WITH STROKE SIGN;0MEDIUM WHITE CIRCLE;7BLACK CIRCLE;
7SMALL WHITE CIRCLE;1ARRIAGE SYMBOL;0DIVORCE SYMBOL;0UNMARRIED PARTNERSHIP SYMBOL;0COFFIN;0FUNERAL URN;0NEUTER;0CERES;
0PALLAS;0JUNO;0VESTA;0CHIRON;0BLACK MOON LILITH;0SEXTILE;2MISEXTILE;0QUINCUNX;0SESQUIQUADRATE;1OCCER BALL;0BASEBALL;
0SQUARED KEY;0WHITE DRAUGHTS MAN;FKING;0BLACK DRAUGHTS MAN;FKING;0SNOWMAN WITHOUT SNOW;1UN BEHIND CLOUD;0RAIN;
0BLACK SNOWMAN;0THUNDER CLOUD AND RAIN;1URNED WHITE SHOGI PIECE;7BLACK SHOGI PIECE;0WHITE DIAMOND IN SQUARE;
0CROSSING LANES;0DISABLED CAR;0OPHIUCHUS;0PICK;0CAR SLIDING;0HELMET WITH WHITE CROSS;0CIRCLED CROSSING LANES;1HAINS;
0NO ENTRY;0ALTERNATE ONE-WAY LEFT WAY TRAFFIC;0BLACK TWO-WAY LEFT WAY TRAFFIC;0WHITE TWO-WAY LEFT WAY TRAFFIC;
0BLACK LEFT LANE MERGE;0WHITE LEFT LANE MERGE;0DRIVE SLOW SIGN;0HEAVY WHITE DOWN-POINTING TRIANGLE;0LEFT CLOSED ENTRY;
0SQUARED SALTIRE;0FALLING DIAGONAL IN WHITE CIRCLE IN BLACK SQUARE;0BLACK TRUCK;0RESTRICTED LEFT ENTRY-1;M2;
0ASTRONOMICAL SYMBOL FOR URANUS;0HEAVY CIRCLE WITH STROKE AND TWO DOTS ABOVE;0PENTAGRAM;
0RIGHT-HANDED INTERLACED PENTAGRAM;0LEFT-HANDED INTERLACED PENTAGRAM;0INVERTED PENTAGRAM;0BLACK CROSS ON SHIELD;
0SHINTO SHRINE;0CHURCH;1ASTLE;0HISTORIC SITE;0GEAR WITHOUT HUB;9 HANDLES;0MAP SYMBOL FOR LIGHTHOUSE;1OUNTAIN;
0UMBRELLA ON GROUND;0FOUNTAIN;1LAG IN HOLE;1ERRY;0SAILBOAT;1QUARE FOUR CORNERS;1KIER;0ICE SKATE;0PERSON WITH BALL;
0TENT;0JAPANESE BANK SYMBOL;0HEADSTONE GRAVEYARD SYMBOL;0FUEL PUMP;0CUP ON BLACK SQUARE;
0WHITE FLAG WITH HORIZONTAL MIDDLE BLACK STRIPE;0BLACK SAFETY SCISSORS;0UPPER BLADE SCISSORS;0BLACK SCISSORS;
0LOWER BLADE SCISSORS;0WHITE SCISSORS;6HEAVY CHECK MARK;0TELEPHONE LOCATION SIGN;1APE DRIVE;0AIRPLANE;0ENVELOPE;
0RAISED FIST;7HAND;0VICTORY HAND;0WRITING HAND;0LOWER RIGHT PENCIL;0PENCIL;0UPPER RIGHT PENCIL;0WHITE NIB;0BLACK NIB;
0CHECK MARK;0HEAVY CHECK MARK;0MULTIPLICATION X;0HEAVY MULTIPLICATION X;0BALLOT X;0HEAVY BALLOT X;
0OUTLINED GREEK CROSS;0HEAVY GREEK CROSS;0OPEN CENTRE CROSS;0HEAVY OPEN CENTRE CROSS;0LATIN CROSS;
0SHADOWED WHITE LATIN CROSS;0OUTLINED LATIN CROSS;0MALTESE CROSS;0STAR OF DAVID;0FOUR TEARDROP-SPOKED ASTERISK;
5BALLOON-SPOKED ASTERISK;0HEAVY FOUR BALLOON-SPOKED ASTERISK;0FOUR CLUB-SPOKED ASTERISK;0BLACK FOUR POINTED STAR;
0WHITE FOUR POINTED STAR;0SPARKLES;1TRESS OUTLINED WHITE STAR;0CIRCLED WHITE STAR;0OPEN CENTRE BLACK STAR;
0BLACK CENTRE WHITE STAR;0OUTLINED BLACK STAR;0HEAVY OUTLINED BLACK STAR;0PINWHEEL STAR;0SHADOWED WHITE STAR;
0HEAVY ASTERISK;0OPEN CENTRE ASTERISK;0EIGHT SPOKED ASTERISK;6POINTED BLACK STAR;EPINWHEEL STAR;
0SIX POINTED BLACK STAR;0EIGHT POINTED RECTILINEAR BLACK STAR;0HEAVY EIGHT POINTED RECTILINEAR BLACK STAR;
0TWELVE POINTED BLACK STAR;0SIXTEEN POINTED ASTERISK;0TEARDROP-SPOKED ASTERISK;0OPEN CENTRE TEARDROP-SPOKED ASTERISK;
0HEAVY TEARDROP-SPOKED ASTERISK;0SIX PETALLED BLACK AND WHITE FLORETTE;0BLACK FLORETTE;0WHITE FLORETTE;
0EIGHT PETALLED OUTLINED BLACK FLORETTE;0CIRCLED OPEN CENTRE EIGHT POINTED STAR;
0HEAVY TEARDROP-SPOKED PINWHEEL ASTERISK;0SNOWFLAKE;0TIGHT TRIFOLIATE SNOWFLAKE;0HEAVY CHEVRON SNOWFLAKE;0SPARKLE;
0HEAVY SPARKLE;0BALLOON-SPOKED ASTERISK;0EIGHT TEARDROP-SPOKED PROPELLER ASTERISK;
0HEAVY EIGHT TEARDROP-SPOKED PROPELLER ASTERISK;0CROSS MARK;0SHADOWED WHITE CIRCLE;0NEGATIVE SQUARED CROSS MARK;
0LOWER RIGHT DROP-SHADOWED WHITE SQUARE;0UPPER RIGHT DROP-SHADOWED WHITE SQUARE;0LOWER RIGHT SHADOWED WHITE SQUARE;
0UPPER RIGHT SHADOWED WHITE SQUARE;0BLACK QUESTION MARK ORNAMENT;0WHITE QUESTION MARK ORNAMENT;
6EXCLAMATION MARK ORNAMENT;0BLACK DIAMOND MINUS WHITE X;0HEAVY EXCLAMATION MARK SYMBOL;0LIGHT VERTICAL BAR;
0MEDIUM VERTICAL BAR;0HEAVY VERTICAL BAR;6SINGLE TURNED COMMA QUOTATION MARK ORNAMENT;DCOMMA QUOTATION MARK ORNAMENT;
6DOUBLE TURNED COMMA QUOTATION MARK ORNAMENT;DCOMMA QUOTATION MARK ORNAMENT;6LOW SINGLE COMMA QUOTATION MARK ORNAMENT;
ADOUBLE COMMA QUOTATION MARK ORNAMENT;0CURVED STEM PARAGRAPH SIGN ORNAMENT;0HEAVY EXCLAMATION MARK ORNAMENT;
6HEART EXCLAMATION MARK ORNAMENT;6BLACK HEART;0ROTATED HEAVY BLACK HEART BULLET;0FLORAL HEART;
0ROTATED FLORAL HEART BULLET;0MEDIUM LEFT PARENTHESIS ORNAMENT;7RIGHT PARENTHESIS ORNAMENT;
7FLATTENED LEFT PARENTHESIS ORNAMENT;HRIGHT PARENTHESIS ORNAMENT;7LEFT-POINTING ANGLE BRACKET ORNAMENT;
7RIGHT-POINTING ANGLE BRACKET ORNAMENT;0HEAVY LEFT-POINTING ANGLE QUOTATION MARK ORNAMENT;
6RIGHT-POINTING ANGLE QUOTATION MARK ORNAMENT;6LEFT-POINTING ANGLE BRACKET ORNAMENT;
6RIGHT-POINTING ANGLE BRACKET ORNAMENT;0LIGHT LEFT TORTOISE SHELL BRACKET ORNAMENT;
6RIGHT TORTOISE SHELL BRACKET ORNAMENT;0MEDIUM LEFT CURLY BRACKET ORNAMENT;7RIGHT CURLY BRACKET ORNAMENT;
0DINGBAT NEGATIVE CIRCLED DIGIT ONE;VTWO;WHREE;VFOUR;WIVE;VSIX;WEVEN;VEIGHT;VNINE;PNUMBER TEN;
8CIRCLED SANS-SERIF DIGIT ONE;XTWO;YHREE;XFOUR;YIVE;XSIX;YEVEN;XEIGHT;XNINE;RNUMBER TEN;
8NEGATIVE CIRCLED SANS-SERIF DIGIT ONE;gTWO;hHREE;gFOUR;hIVE;gSIX;hEVEN;gEIGHT;gNINE;aNUMBER TEN;
0HEAVY WIDE-HEADED RIGHTWARDS ARROW;6PLUS SIGN;6MINUS SIGN;6DIVISION SIGN;6SOUTH EAST ARROW;6RIGHTWARDS ARROW;
6NORTH EAST ARROW;0DRAFTING POINT RIGHTWARDS ARROW;0HEAVY ROUND-TIPPED RIGHTWARDS ARROW;
0TRIANGLE-HEADED RIGHTWARDS ARROW;0HEAVY TRIANGLE-HEADED RIGHTWARDS ARROW;0DASHED TRIANGLE-HEADED RIGHTWARDS ARROW;
0HEAVY DASHED TRIANGLE-HEADED RIGHTWARDS ARROW;0BLACK RIGHTWARDS ARROW;0THREE-D TOP-LIGHTED RIGHTWARDS ARROWHEAD;
8BOTTOM-LIGHTED RIGHTWARDS ARROWHEAD;0BLACK RIGHTWARDS ARROWHEAD;0HEAVY BLACK CURVED DOWNWARDS AND RIGHTWARDS ARROW;
JUPWARDS AND RIGHTWARDS ARROW;0SQUAT BLACK RIGHTWARDS ARROW;0HEAVY CONCAVE-POINTED BLACK RIGHTWARDS ARROW;
0RIGHT-SHADED WHITE RIGHTWARDS ARROW;0LEFT-SHADED WHITE RIGHTWARDS ARROW;0BACK-TILTED SHADOWED WHITE RIGHTWARDS ARROW;
0FRONT-TILTED SHADOWED WHITE RIGHTWARDS ARROW;0HEAVY LOWER RIGHT-SHADOWED WHITE RIGHTWARDS ARROW;
6UPPER RIGHT-SHADOWED WHITE RIGHTWARDS ARROW;0NOTCHED LOWER RIGHT-SHADOWED WHITE RIGHTWARDS ARROW;0CURLY LOOP;
0NOTCHED UPPER RIGHT-SHADOWED WHITE RIGHTWARDS ARROW;0CIRCLED HEAVY WHITE RIGHTWARDS ARROW;
0WHITE-FEATHERED RIGHTWARDS ARROW;0BLACK-FEATHERED SOUTH EAST ARROW;GRIGHTWARDS ARROW;GNORTH EAST ARROW;
0HEAVY BLACK-FEATHERED SOUTH EAST ARROW;MRIGHTWARDS ARROW;MNORTH EAST ARROW;0TEARDROP-BARBED RIGHTWARDS ARROW;
0HEAVY TEARDROP-SHANKED RIGHTWARDS ARROW;0WEDGE-TAILED RIGHTWARDS ARROW;0HEAVY WEDGE-TAILED RIGHTWARDS ARROW;
0OPEN-OUTLINED RIGHTWARDS ARROW;0DOUBLE CURLY LOOP;0THREE DIMENSIONAL ANGLE;
0WHITE TRIANGLE CONTAINING SMALL WHITE TRIANGLE;0PERPENDICULAR;0OPEN SUBSET;7PERSET;0LEFT S-SHAPED BAG DELIMITER;
0RIGHT S-SHAPED BAG DELIMITER;0OR WITH DOT INSIDE;0REVERSE SOLIDUS PRECEDING SUBSET;0SUPERSET PRECEDING SOLIDUS;
0VERTICAL BAR WITH HORIZONTAL STROKE;0MATHEMATICAL RISING DIAGONAL;0LONG DIVISION;0MATHEMATICAL FALLING DIAGONAL;
0SQUARED LOGICAL AND;GOR;0WHITE DIAMOND WITH CENTRED DOT;0AND WITH DOT;0ELEMENT OF OPENING UPWARDS;
0LOWER RIGHT CORNER WITH DOT;0UPPER LEFT CORNER WITH DOT;0LEFT OUTER JOIN;0RIGHT OUTER JOIN;0FULL OUTER JOIN;
0LARGE UP TACK;6DOWN TACK;1EFT AND RIGHT DOUBLE TURNSTILE;FTACK;5MULTIMAP;1ONG RIGHT TACK;5LEFT TACK;
0UP TACK WITH CIRCLE ABOVE;0LOZENGE DIVIDED BY HORIZONTAL RULE;0WHITE CONCAVE-SIDED DIAMOND;R WITH LEFTWARDS TICK;
XRIGHTWARDS TICK;6SQUARE WITH LEFTWARDS TICK;IRIGHTWARDS TICK;0MATHEMATICAL LEFT WHITE SQUARE BRACKET;
DRIGHT WHITE SQUARE BRACKET;DLEFT ANGLE BRACKET;DRIGHT ANGLE BRACKET;DLEFT DOUBLE ANGLE BRACKET;
DRIGHT DOUBLE ANGLE BRACKET;DLEFT WHITE TORTOISE SHELL BRACKET;DRIGHT WHITE TORTOISE SHELL BRACKET;
DLEFT FLATTENED PARENTHESIS;DRIGHT FLATTENED PARENTHESIS;0UPWARDS QUADRUPLE ARROW;0DOWNWARDS QUADRUPLE ARROW;
0ANTICLOCKWISE GAPPED CIRCLE ARROW;0CLOCKWISE GAPPED CIRCLE ARROW;0RIGHT ARROW WITH CIRCLED PLUS;0LONG LEFTWARDS ARROW;
5RIGHTWARDS ARROW;5LEFT RIGHT ARROW;9WARDS DOUBLE ARROW;5RIGHTWARDS DOUBLE ARROW;5LEFT RIGHT DOUBLE ARROW;
9WARDS ARROW FROM BAR;5RIGHTWARDS ARROW FROM BAR;5LEFTWARDS DOUBLE ARROW FROM BAR;5RIGHTWARDS DOUBLE ARROW FROM BAR;
GSQUIGGLE ARROW;0BRAILLE PATTERN BLANK;GDOTS-1;L2;L12;L3;L13;L23;L123;L4;L14;L24;L124;L34;L134;L234;L1234;L5;L15;L25;
L125;L35;L135;L235;L1235;L45;L145;L245;L1245;L345;L1345;L2345;L12345;L6;L16;L26;L126;L36;L136;L236;L1236;L46;L146;L246;
L1246;L346;L1346;L2346;L12346;L56;L156;L256;L1256;L356;L1356;L2356;L12356;L456;L1456;L2456;L12456;L3456;L13456;L23456;
L123456;L7;L17;L27;L127;L37;L137;L237;L1237;L47;L147;L247;L1247;L347;L1347;L2347;L12347;L57;L157;L257;L1257;L357;L1357;
L2357;L12357;L457;L1457;L2457;L12457;L3457;L13457;L23457;L123457;L67;L167;L267;L1267;L367;L1367;L2367;L12367;L467;
L1467;L2467;L12467;L3467;L13467;L23467;L123467;L567;L1567;L2567;L12567;L3567;L13567;L23567;L123567;L4567;L14567;L24567;
L124567;L34567;L134567;L234567;L1234567;L8;L18;L28;L128;L38;L138;L238;L1238;L48;L148;L248;L1248;L348;L1348;L2348;
L12348;L58;L158;L258;L1258;L358;L1358;L2358;L12358;L458;L1458;L2458;L12458;L3458;L13458;L23458;L123458;L68;L168;L268;
L1268;L368;L1368;L2368;L12368;L468;L1468;L2468;L12468;L3468;L13468;L23468;L123468;L568;L1568;L2568;L12568;L3568;L13568;
L23568;L123568;L4568;L14568;L24568;L124568;L34568;L134568;L234568;L1234568;L78;L178;L278;L1278;L378;L1378;L2378;L12378;
L478;L1478;L2478;L12478;L3478;L13478;L23478;L123478;L578;L1578;L2578;L12578;L3578;L13578;L23578;L123578;L4578;L14578;
L24578;L124578;L34578;L134578;L234578;L1234578;L678;L1678;L2678;L12678;L3678;L13678;L23678;L123678;L4678;L14678;L24678;
L124678;L34678;L134678;L234678;L1234678;L5678;L15678;L25678;L125678;L35678;L135678;L235678;L1235678;L45678;L145678;
L245678;L1245678;L345678;L1345678;L2345678;L12345678;0RIGHTWARDS TWO-HEADED ARROW WITH VERTICAL STROKE;
XDOUBLE VERTICAL STROKE;0LEFTWARDS DOUBLE ARROW WITH VERTICAL STROKE;0RIGHTWARDS DOUBLE ARROW WITH VERTICAL STROKE;
0LEFT RIGHT DOUBLE ARROW WITH VERTICAL STROKE;0RIGHTWARDS TWO-HEADED ARROW FROM BAR;0LEFTWARDS DOUBLE ARROW FROM BAR;
0RIGHTWARDS DOUBLE ARROW FROM BAR;0DOWNWARDS ARROW WITH HORIZONTAL STROKE;0UPWARDS ARROW WITH HORIZONTAL STROKE;
8TRIPLE ARROW;0DOWNWARDS TRIPLE ARROW;0LEFTWARDS DOUBLE DASH ARROW;0RIGHTWARDS DOUBLE DASH ARROW;
0LEFTWARDS TRIPLE DASH ARROW;0RIGHTWARDS TRIPLE DASH ARROW;CWO-HEADED TRIPLE DASH ARROW;BARROW WITH DOTTED STEM;
0UPWARDS ARROW TO BAR;0DOWNWARDS ARROW TO BAR;0RIGHTWARDS ARROW WITH TAIL WITH VERTICAL STROKE;WDOUBLE VERTICAL STROKE;
BTWO-HEADED ARROW WITH TAIL;b WITH VERTICAL STROKE;hDOUBLE VERTICAL STROKE;0LEFTWARDS ARROW-TAIL;
0RIGHTWARDS ARROW-TAIL;0LEFTWARDS DOUBLE ARROW-TAIL;0RIGHTWARDS DOUBLE ARROW-TAIL;0LEFTWARDS ARROW TO BLACK DIAMOND;
0RIGHTWARDS ARROW TO BLACK DIAMOND;0LEFTWARDS ARROW FROM BAR TO BLACK DIAMOND;
0RIGHTWARDS ARROW FROM BAR TO BLACK DIAMOND;0NORTH WEST AND SOUTH EAST ARROW;6EAST AND SOUTH WEST ARROW;
6WEST ARROW WITH HOOK;6EAST ARROW WITH HOOK;0SOUTH EAST ARROW WITH HOOK;6WEST ARROW WITH HOOK;
0NORTH WEST ARROW AND NORTH EAST ARROW;6EAST ARROW AND SOUTH EAST ARROW;0SOUTH EAST ARROW AND SOUTH WEST ARROW;
6WEST ARROW AND NORTH WEST ARROW;0RISING DIAGONAL CROSSING FALLING DIAGONAL;0FALLING DIAGONAL CROSSING RISING DIAGONAL;
0SOUTH EAST ARROW CROSSING NORTH EAST ARROW;0NORTH EAST ARROW CROSSING SOUTH EAST ARROW;
0FALLING DIAGONAL CROSSING NORTH EAST ARROW;0RISING DIAGONAL CROSSING SOUTH EAST ARROW;
0NORTH EAST ARROW CROSSING NORTH WEST ARROW;6WEST ARROW CROSSING NORTH EAST ARROW;0WAVE ARROW POINTING DIRECTLY RIGHT;
0ARROW POINTING RIGHTWARDS THEN CURVING UPWARDS;dDOWNWARDS;FDOWNWARDS THEN CURVING LEFTWARDS;cRIGHTWARDS;
0RIGHT-SIDE ARC CLOCKWISE ARROW;0LEFT-SIDE ARC ANTICLOCKWISE ARROW;0TOP ARC ANTICLOCKWISE ARROW;
0BOTTOM ARC ANTICLOCKWISE ARROW;0TOP ARC CLOCKWISE ARROW WITH MINUS;8ANTICLOCKWISE ARROW WITH PLUS;
0LOWER RIGHT SEMICIRCULAR CLOCKWISE ARROW;6LEFT SEMICIRCULAR ANTICLOCKWISE ARROW;0ANTICLOCKWISE CLOSED CIRCLE ARROW;
0CLOCKWISE CLOSED CIRCLE ARROW;0RIGHTWARDS ARROW ABOVE SHORT LEFTWARDS ARROW;
0LEFTWARDS ARROW ABOVE SHORT RIGHTWARDS ARROW;0SHORT RIGHTWARDS ARROW ABOVE LEFTWARDS ARROW;
0RIGHTWARDS ARROW WITH PLUS BELOW;0LEFTWARDS ARROW WITH PLUS BELOW;0RIGHTWARDS ARROW THROUGH X;
0LEFT RIGHT ARROW THROUGH SMALL CIRCLE;0UPWARDS TWO-HEADED ARROW FROM SMALL CIRCLE;
0LEFT BARB UP RIGHT BARB DOWN HARPOON;ADOWN RIGHT BARB UP HARPOON;0UP BARB RIGHT DOWN BARB LEFT HARPOON;
8LEFT DOWN BARB RIGHT HARPOON;0LEFT BARB UP RIGHT BARB UP HARPOON;0UP BARB RIGHT DOWN BARB RIGHT HARPOON;
0LEFT BARB DOWN RIGHT BARB DOWN HARPOON;0UP BARB LEFT DOWN BARB LEFT HARPOON;0LEFTWARDS HARPOON WITH BARB UP TO BAR;
0RIGHTWARDS HARPOON WITH BARB UP TO BAR;0UPWARDS HARPOON WITH BARB RIGHT TO BAR;
0DOWNWARDS HARPOON WITH BARB RIGHT TO BAR;0LEFTWARDS HARPOON WITH BARB DOWN TO BAR;
0RIGHTWARDS HARPOON WITH BARB DOWN TO BAR;0UPWARDS HARPOON WITH BARB LEFT TO BAR;
0DOWNWARDS HARPOON WITH BARB LEFT TO BAR;0LEFTWARDS HARPOON WITH BARB UP FROM BAR;
0RIGHTWARDS HARPOON WITH BARB UP FROM BAR;0UPWARDS HARPOON WITH BARB RIGHT FROM BAR;
0DOWNWARDS HARPOON WITH BARB RIGHT FROM BAR;0LEFTWARDS HARPOON WITH BARB DOWN FROM BAR;
0RIGHTWARDS HARPOON WITH BARB DOWN FROM BAR;0UPWARDS HARPOON WITH BARB LEFT FROM BAR;
0DOWNWARDS HARPOON WITH BARB LEFT FROM BAR;0LEFTWARDS HARPOON WITH BARB UP ABOVE LEFTWARDS HARPOON WITH BARB DOWN;
0UPWARDS HARPOON WITH BARB LEFT BESIDE UPWARDS HARPOON WITH BARB RIGHT;
0RIGHTWARDS HARPOON WITH BARB UP ABOVE RIGHTWARDS HARPOON WITH BARB DOWN;
0DOWNWARDS HARPOON WITH BARB LEFT BESIDE DOWNWARDS HARPOON WITH BARB RIGHT;
0LEFTWARDS HARPOON WITH BARB UP ABOVE RIGHTWARDS HARPOON WITH BARB UP;SDOWN ABOVE RIGHTWARDS HARPOON WITH BARB DOWN;
0RIGHTWARDS HARPOON WITH BARB UP ABOVE LEFTWARDS HARPOON WITH BARB UP;TDOWN ABOVE LEFTWARDS HARPOON WITH BARB DOWN;
0LEFTWARDS HARPOON WITH BARB UP ABOVE LONG DASH;SDOWN BELOW LONG DASH;0RIGHTWARDS HARPOON WITH BARB UP ABOVE LONG DASH;
TDOWN BELOW LONG DASH;0UPWARDS HARPOON WITH BARB LEFT BESIDE DOWNWARDS HARPOON WITH BARB RIGHT;
0DOWNWARDS HARPOON WITH BARB LEFT BESIDE UPWARDS HARPOON WITH BARB RIGHT;0RIGHT DOUBLE ARROW WITH ROUNDED HEAD;
0EQUALS SIGN ABOVE RIGHTWARDS ARROW;0TILDE OPERATOR ABOVE RIGHTWARDS ARROW;0LEFTWARDS ARROW ABOVE TILDE OPERATOR;
0RIGHTWARDS ARROW ABOVE TILDE OPERATOR;NALMOST EQUAL TO;0LESS-THAN ABOVE LEFTWARDS ARROW;
2FTWARDS ARROW THROUGH LESS-THAN;0GREATER-THAN ABOVE RIGHTWARDS ARROW;0SUBSET ABOVE RIGHTWARDS ARROW;
0LEFTWARDS ARROW THROUGH SUBSET;0SUPERSET ABOVE LEFTWARDS ARROW;0LEFT FISH TAIL;0RIGHT FISH TAIL;0UP FISH TAIL;
0DOWN FISH TAIL;0TRIPLE VERTICAL BAR DELIMITER;0Z NOTATION SPOT;BTYPE COLON;0LEFT WHITE CURLY BRACKET;
0RIGHT WHITE CURLY BRACKET;0LEFT WHITE PARENTHESIS;0RIGHT WHITE PARENTHESIS;0Z NOTATION LEFT IMAGE BRACKET;
BRIGHT IMAGE BRACKET;BLEFT BINDING BRACKET;BRIGHT BINDING BRACKET;0LEFT SQUARE BRACKET WITH UNDERBAR;
0RIGHT SQUARE BRACKET WITH UNDERBAR;0LEFT SQUARE BRACKET WITH TICK IN TOP CORNER;
0RIGHT SQUARE BRACKET WITH TICK IN BOTTOM CORNER;0LEFT SQUARE BRACKET WITH TICK IN BOTTOM CORNER;
0RIGHT SQUARE BRACKET WITH TICK IN TOP CORNER;0LEFT ANGLE BRACKET WITH DOT;0RIGHT ANGLE BRACKET WITH DOT;
0LEFT ARC LESS-THAN BRACKET;0RIGHT ARC GREATER-THAN BRACKET;0DOUBLE LEFT ARC GREATER-THAN BRACKET;
7RIGHT ARC LESS-THAN BRACKET;0LEFT BLACK TORTOISE SHELL BRACKET;0RIGHT BLACK TORTOISE SHELL BRACKET;0DOTTED FENCE;
0VERTICAL ZIGZAG LINE;0MEASURED ANGLE OPENING LEFT;0RIGHT ANGLE VARIANT WITH SQUARE;0MEASURED RIGHT ANGLE WITH DOT;
0ANGLE WITH S INSIDE;1CUTE ANGLE;0SPHERICAL ANGLE OPENING LEFT;OUP;0TURNED ANGLE;0REVERSED ANGLE;0ANGLE WITH UNDERBAR;
0REVERSED ANGLE WITH UNDERBAR;0OBLIQUE ANGLE OPENING UP;MDOWN;
0MEASURED ANGLE WITH OPEN ARM ENDING IN ARROW POINTING UP AND RIGHT;zLEFT;sDOWN AND RIGHT;zD LEFT;sRIGHT AND UP;
sLEFT AND UP;sRIGHT AND DOWN;sLEFT AND DOWN;0REVERSED EMPTY SET;0EMPTY SET WITH OVERBAR;FSMALL CIRCLE ABOVE;
FRIGHT ARROW ABOVE;FLEFT ARROW ABOVE;0CIRCLE WITH HORIZONTAL BAR;6D VERTICAL BAR;8PARALLEL;8REVERSE SOLIDUS;
8PERPENDICULAR;6 DIVIDED BY HORIZONTAL BAR AND TOP HALF DIVIDED BY VERTICAL BAR;7WITH SUPERIMPOSED X;
6D ANTICLOCKWISE-ROTATED DIVISION SIGN;0UP ARROW THROUGH CIRCLE;0CIRCLED WHITE BULLET;8BULLET;8LESS-THAN;8GREATER-THAN;
6 WITH SMALL CIRCLE TO THE RIGHT;CTWO HORIZONTAL STROKES TO THE RIGHT;0SQUARED RISING DIAGONAL SLASH;
8FALLING DIAGONAL SLASH;8ASTERISK;8SMALL CIRCLE;9QUARE;0TWO JOINED SQUARES;1RIANGLE WITH DOT ABOVE;EUNDERBAR;
0S IN TRIANGLE;0TRIANGLE WITH SERIFS AT BOTTOM;0RIGHT TRIANGLE ABOVE LEFT TRIANGLE;0LEFT TRIANGLE BESIDE VERTICAL BAR;
0VERTICAL BAR BESIDE RIGHT TRIANGLE;0BOWTIE WITH LEFT HALF BLACK;CRIGHT HALF BLACK;1LACK BOWTIE;
0TIMES WITH LEFT HALF BLACK;BRIGHT HALF BLACK;0WHITE HOURGLASS;0BLACK HOURGLASS;0LEFT WIGGLY FENCE;0RIGHT WIGGLY FENCE;
0LEFT DOUBLE WIGGLY FENCE;0RIGHT DOUBLE WIGGLY FENCE;0INCOMPLETE INFINITY;0TIE OVER INFINITY;
0INFINITY NEGATED WITH VERTICAL BAR;0DOUBLE-ENDED MULTIMAP;0SQUARE WITH CONTOURED OUTLINE;0INCREASES AS;
0SHUFFLE PRODUCT;0EQUALS SIGN AND SLANTED PARALLEL;W WITH TILDE ABOVE;0IDENTICAL TO AND SLANTED PARALLEL;0GLEICH STARK;
0THERMODYNAMIC;0DOWN-POINTING TRIANGLE WITH LEFT HALF BLACK;SRIGHT HALF BLACK;0BLACK DIAMOND WITH DOWN ARROW;6LOZENGE;
0WHITE CIRCLE WITH DOWN ARROW;0BLACK CIRCLE WITH DOWN ARROW;0ERROR-BARRED WHITE SQUARE;DBLACK SQUARE;DWHITE DIAMOND;
DBLACK DIAMOND;DWHITE CIRCLE;DBLACK CIRCLE;0RULE-DELAYED;1EVERSE SOLIDUS OPERATOR;0SOLIDUS WITH OVERBAR;
0REVERSE SOLIDUS WITH HORIZONTAL STROKE;0BIG SOLIDUS;4REVERSE SOLIDUS;0DOUBLE PLUS;0TRIPLE PLUS;
0LEFT-POINTING CURVED ANGLE BRACKET;0RIGHT-POINTING CURVED ANGLE BRACKET;0TINY;0MINY;0N-ARY CIRCLED DOT OPERATOR;
EPLUS OPERATOR;ETIMES OPERATOR;6UNION OPERATOR WITH DOT;QPLUS;6SQUARE INTERSECTION OPERATOR;DUNION OPERATOR;
0TWO LOGICAL AND OPERATOR;COR OPERATOR;0N-ARY TIMES OPERATOR;0MODULO TWO SUM;0SUMMATION WITH INTEGRAL;
0QUADRUPLE INTEGRAL OPERATOR;0FINITE PART INTEGRAL;0INTEGRAL WITH DOUBLE STROKE;9AVERAGE WITH SLASH;
0CIRCULATION FUNCTION;0ANTICLOCKWISE INTEGRATION;0LINE INTEGRATION WITH RECTANGULAR PATH AROUND POLE;
MSEMICIRCULAR PATH AROUND POLE;HNOT INCLUDING THE POLE;0INTEGRAL AROUND A POINT OPERATOR;0QUATERNION INTEGRAL OPERATOR;
0INTEGRAL WITH LEFTWARDS ARROW WITH HOOK;ETIMES SIGN;EINTERSECTION;EUNION;EOVERBAR;EUNDERBAR;0JOIN;
0LARGE LEFT TRIANGLE OPERATOR;0Z NOTATION SCHEMA COMPOSITION;IPIPING;JROJECTION;0PLUS SIGN WITH SMALL CIRCLE ABOVE;
FCIRCUMFLEX ACCENT ABOVE;FTILDE ABOVE;FDOT BELOW;FTILDE BELOW;FSUBSCRIPT TWO;FBLACK TRIANGLE;
0MINUS SIGN WITH COMMA ABOVE;GDOT BELOW;GFALLING DOTS;GRISING DOTS;0PLUS SIGN IN LEFT HALF CIRCLE;DRIGHT HALF CIRCLE;
0VECTOR OR CROSS PRODUCT;0MULTIPLICATION SIGN WITH DOT ABOVE;PUNDERBAR;0SEMIDIRECT PRODUCT WITH BOTTOM CLOSED;
1MASH PRODUCT;0MULTIPLICATION SIGN IN LEFT HALF CIRCLE;NRIGHT HALF CIRCLE;
0CIRCLED MULTIPLICATION SIGN WITH CIRCUMFLEX ACCENT;0MULTIPLICATION SIGN IN DOUBLE CIRCLE;0CIRCLED DIVISION SIGN;
0PLUS SIGN IN TRIANGLE;0MINUS SIGN IN TRIANGLE;1ULTIPLICATION SIGN IN TRIANGLE;0INTERIOR PRODUCT;
0RIGHTHAND INTERIOR PRODUCT;0Z NOTATION RELATIONAL COMPOSITION;0AMALGAMATION OR COPRODUCT;0INTERSECTION WITH DOT;
0UNION WITH MINUS SIGN;BOVERBAR;0INTERSECTION WITH OVERBAR;ILOGICAL AND;0UNION WITH LOGICAL OR;6ABOVE INTERSECTION;
0INTERSECTION ABOVE UNION;0UNION ABOVE BAR ABOVE INTERSECTION;0INTERSECTION ABOVE BAR ABOVE UNION;
0UNION BESIDE AND JOINED WITH UNION;0INTERSECTION BESIDE AND JOINED WITH INTERSECTION;0CLOSED UNION WITH SERIFS;
7INTERSECTION WITH SERIFS;0DOUBLE SQUARE INTERSECTION;EUNION;0CLOSED UNION WITH SERIFS AND SMASH PRODUCT;
0LOGICAL AND WITH DOT ABOVE;8OR WITH DOT ABOVE;0DOUBLE LOGICAL AND;FOR;0TWO INTERSECTING LOGICAL AND;POR;
0SLOPING LARGE OR;EAND;0LOGICAL OR OVERLAPPING LOGICAL AND;8AND WITH MIDDLE STEM;8OR WITH MIDDLE STEM;
8AND WITH HORIZONTAL DASH;8OR WITH HORIZONTAL DASH;8AND WITH DOUBLE OVERBAR;HUNDERBAR;HDOUBLE UNDERBAR;
0SMALL VEE WITH UNDERBAR;0LOGICAL OR WITH DOUBLE OVERBAR;NUNDERBAR;0Z NOTATION DOMAIN ANTIRESTRICTION;
BRANGE ANTIRESTRICTION;0EQUALS SIGN WITH DOT BELOW;0IDENTICAL WITH DOT ABOVE;
0TRIPLE HORIZONTAL BAR WITH DOUBLE VERTICAL STROKE;RTRIPLE VERTICAL STROKE;1ILDE OPERATOR WITH DOT ABOVE;KRISING DOTS;
0SIMILAR MINUS SIMILAR;0CONGRUENT WITH DOT ABOVE;0EQUALS WITH ASTERISK;0ALMOST EQUAL TO WITH CIRCUMFLEX ACCENT;
1PPROXIMATELY EQUAL OR EQUAL TO;0EQUALS SIGN ABOVE PLUS SIGN;0PLUS SIGN ABOVE EQUALS SIGN;
0EQUALS SIGN ABOVE TILDE OPERATOR;0DOUBLE COLON EQUAL;0TWO CONSECUTIVE EQUALS SIGNS;1HREE CONSECUTIVE EQUALS SIGNS;
0EQUALS SIGN WITH TWO DOTS ABOVE AND TWO DOTS BELOW;3IVALENT WITH FOUR DOTS ABOVE;0LESS-THAN WITH CIRCLE INSIDE;
0GREATER-THAN WITH CIRCLE INSIDE;0LESS-THAN WITH QUESTION MARK ABOVE;0GREATER-THAN WITH QUESTION MARK ABOVE;
0LESS-THAN OR SLANTED EQUAL TO;0GREATER-THAN OR SLANTED EQUAL TO;0LESS-THAN OR SLANTED EQUAL TO WITH DOT INSIDE;
0GREATER-THAN OR SLANTED EQUAL TO WITH DOT INSIDE;0LESS-THAN OR SLANTED EQUAL TO WITH DOT ABOVE;
0GREATER-THAN OR SLANTED EQUAL TO WITH DOT ABOVE;0LESS-THAN OR SLANTED EQUAL TO WITH DOT ABOVE RIGHT;
0GREATER-THAN OR SLANTED EQUAL TO WITH DOT ABOVE LEFT;0LESS-THAN OR APPROXIMATE;0GREATER-THAN OR APPROXIMATE;
0LESS-THAN AND SINGLE-LINE NOT EQUAL TO;0GREATER-THAN AND SINGLE-LINE NOT EQUAL TO;0LESS-THAN AND NOT APPROXIMATE;
0GREATER-THAN AND NOT APPROXIMATE;0LESS-THAN ABOVE DOUBLE-LINE EQUAL ABOVE GREATER-THAN;
0GREATER-THAN ABOVE DOUBLE-LINE EQUAL ABOVE LESS-THAN;0LESS-THAN ABOVE SIMILAR OR EQUAL;
0GREATER-THAN ABOVE SIMILAR OR EQUAL;0LESS-THAN ABOVE SIMILAR ABOVE GREATER-THAN;
0GREATER-THAN ABOVE SIMILAR ABOVE LESS-THAN;0LESS-THAN ABOVE GREATER-THAN ABOVE DOUBLE-LINE EQUAL;
0GREATER-THAN ABOVE LESS-THAN ABOVE DOUBLE-LINE EQUAL;
0LESS-THAN ABOVE SLANTED EQUAL ABOVE GREATER-THAN ABOVE SLANTED EQUAL;
0GREATER-THAN ABOVE SLANTED EQUAL ABOVE LESS-THAN ABOVE SLANTED EQUAL;0SLANTED EQUAL TO OR LESS-THAN;KGREATER-THAN;
KLESS-THAN WITH DOT INSIDE;KGREATER-THAN WITH DOT INSIDE;0DOUBLE-LINE EQUAL TO OR LESS-THAN;OGREATER-THAN;
CSLANTED EQUAL TO OR LESS-THAN;WGREATER-THAN;0SIMILAR OR LESS-THAN;BGREATER-THAN;8ABOVE LESS-THAN ABOVE EQUALS SIGN;
EGREATER-THAN ABOVE EQUALS SIGN;0DOUBLE NESTED LESS-THAN;EGREATER-THAN;ELESS-THAN WITH UNDERBAR;
0GREATER-THAN OVERLAPPING LESS-THAN;DBESIDE LESS-THAN;0LESS-THAN CLOSED BY CURVE;0GREATER-THAN CLOSED BY CURVE;
0LESS-THAN CLOSED BY CURVE ABOVE SLANTED EQUAL;0GREATER-THAN CLOSED BY CURVE ABOVE SLANTED EQUAL;0SMALLER THAN;
0LARGER THAN;0SMALLER THAN OR EQUAL TO;0LARGER THAN OR EQUAL TO;0EQUALS SIGN WITH BUMPY ABOVE;
0PRECEDES ABOVE SINGLE-LINE EQUALS SIGN;0SUCCEEDS ABOVE SINGLE-LINE EQUALS SIGN;
0PRECEDES ABOVE SINGLE-LINE NOT EQUAL TO;0SUCCEEDS ABOVE SINGLE-LINE NOT EQUAL TO;0PRECEDES ABOVE EQUALS SIGN;
0SUCCEEDS ABOVE EQUALS SIGN;0PRECEDES ABOVE NOT EQUAL TO;0SUCCEEDS ABOVE NOT EQUAL TO;0PRECEDES ABOVE ALMOST EQUAL TO;
0SUCCEEDS ABOVE ALMOST EQUAL TO;0PRECEDES ABOVE NOT ALMOST EQUAL TO;0SUCCEEDS ABOVE NOT ALMOST EQUAL TO;
0DOUBLE PRECEDES;7SUCCEEDS;0SUBSET WITH DOT;2PERSET WITH DOT;2BSET WITH PLUS SIGN BELOW;2PERSET WITH PLUS SIGN BELOW;
2BSET WITH MULTIPLICATION SIGN BELOW;2PERSET WITH MULTIPLICATION SIGN BELOW;2BSET OF OR EQUAL TO WITH DOT ABOVE;
2PERSET OF OR EQUAL TO WITH DOT ABOVE;2BSET OF ABOVE EQUALS SIGN;2PERSET OF ABOVE EQUALS SIGN;
2BSET OF ABOVE TILDE OPERATOR;2PERSET OF ABOVE TILDE OPERATOR;2BSET OF ABOVE ALMOST EQUAL TO;
2PERSET OF ABOVE ALMOST EQUAL TO;2BSET OF ABOVE NOT EQUAL TO;2PERSET OF ABOVE NOT EQUAL TO;
1QUARE LEFT OPEN BOX OPERATOR;7RIGHT OPEN BOX OPERATOR;0CLOSED SUBSET;9PERSET;9BSET OR EQUAL TO;9PERSET OR EQUAL TO;
0SUBSET ABOVE SUPERSET;2PERSET ABOVE SUBSET;2BSET ABOVE SUBSET;2PERSET ABOVE SUPERSET;9BESIDE SUBSET;
GAND JOINED BY DASH WITH SUBSET;0ELEMENT OF OPENING DOWNWARDS;0PITCHFORK WITH TEE TOP;0TRANSVERSAL INTERSECTION;
0FORKING;0NONFORKING;0SHORT LEFT TACK;6DOWN TACK;6UP TACK;0PERPENDICULAR WITH S;0VERTICAL BAR TRIPLE RIGHT TURNSTILE;
0DOUBLE VERTICAL BAR LEFT TURNSTILE;0VERTICAL BAR DOUBLE LEFT TURNSTILE;0DOUBLE VERTICAL BAR DOUBLE LEFT TURNSTILE;
0LONG DASH FROM LEFT MEMBER OF DOUBLE VERTICAL;0SHORT DOWN TACK WITH OVERBAR;6UP TACK WITH UNDERBAR;
EABOVE SHORT DOWN TACK;0DOUBLE DOWN TACK;7UP TACK;7STROKE NOT SIGN;0REVERSED DOUBLE STROKE NOT SIGN;
0DOES NOT DIVIDE WITH REVERSED NEGATION SLASH;0VERTICAL LINE WITH CIRCLE ABOVE;QBELOW;0DOWN TACK WITH CIRCLE BELOW;
0PARALLEL WITH HORIZONTAL STROKE;ETILDE OPERATOR;0TRIPLE VERTICAL BAR BINARY RELATION;KWITH HORIZONTAL STROKE;
7COLON OPERATOR;7NESTED LESS-THAN;EGREATER-THAN;0DOUBLE-LINE SLANTED LESS-THAN OR EQUAL TO;KGREATER-THAN OR EQUAL TO;
0TRIPLE SOLIDUS BINARY RELATION;0LARGE TRIPLE VERTICAL BAR OPERATOR;0DOUBLE SOLIDUS OPERATOR;0WHITE VERTICAL BAR;
0N-ARY WHITE VERTICAL BAR;1ORTH EAST WHITE ARROW;6WEST WHITE ARROW;0SOUTH EAST WHITE ARROW;6WEST WHITE ARROW;
0LEFT RIGHT WHITE ARROW;4WARDS BLACK ARROW;0UPWARDS BLACK ARROW;0DOWNWARDS BLACK ARROW;0NORTH EAST BLACK ARROW;
6WEST BLACK ARROW;0SOUTH EAST BLACK ARROW;6WEST BLACK ARROW;0LEFT RIGHT BLACK ARROW;0UP DOWN BLACK ARROW;
0RIGHTWARDS ARROW WITH TIP DOWNWARDS;QUPWARDS;0LEFTWARDS ARROW WITH TIP DOWNWARDS;PUPWARDS;0SQUARE WITH TOP HALF BLACK;
CBOTTOM HALF BLACK;CUPPER RIGHT DIAGONAL HALF BLACK;CLOWER LEFT DIAGONAL HALF BLACK;0DIAMOND WITH LEFT HALF BLACK;
DRIGHT HALF BLACK;DTOP HALF BLACK;DBOTTOM HALF BLACK;1OTTED SQUARE;0BLACK LARGE SQUARE;0WHITE LARGE SQUARE;
0BLACK VERY SMALL SQUARE;0WHITE VERY SMALL SQUARE;0BLACK PENTAGON;0WHITE PENTAGON;6HEXAGON;0BLACK HEXAGON;
0HORIZONTAL BLACK HEXAGON;0BLACK LARGE CIRCLE;6MEDIUM DIAMOND;0WHITE MEDIUM DIAMOND;0BLACK MEDIUM LOZENGE;
0WHITE MEDIUM LOZENGE;0BLACK SMALL DIAMOND;CLOZENGE;0WHITE SMALL LOZENGE;0BLACK HORIZONTAL ELLIPSE;
0WHITE HORIZONTAL ELLIPSE;0BLACK VERTICAL ELLIPSE;0WHITE VERTICAL ELLIPSE;0LEFT ARROW WITH SMALL CIRCLE;
0THREE LEFTWARDS ARROWS;0LEFT ARROW WITH CIRCLED PLUS;1ONG LEFTWARDS SQUIGGLE ARROW;
1EFTWARDS TWO-HEADED ARROW WITH VERTICAL STROKE;WDOUBLE VERTICAL STROKE;RFROM BAR;LTRIPLE DASH ARROW;
AARROW WITH DOTTED STEM;LTAIL WITH VERTICAL STROKE;VDOUBLE VERTICAL STROKE;ATWO-HEADED ARROW WITH TAIL;
a WITH VERTICAL STROKE;gDOUBLE VERTICAL STROKE;AARROW THROUGH X;0WAVE ARROW POINTING DIRECTLY LEFT;
0EQUALS SIGN ABOVE LEFTWARDS ARROW;0REVERSE TILDE OPERATOR ABOVE LEFTWARDS ARROW;
0LEFTWARDS ARROW ABOVE REVERSE ALMOST EQUAL TO;0RIGHTWARDS ARROW THROUGH GREATER-THAN;PSUPERSET;
0LEFTWARDS QUADRUPLE ARROW;0RIGHTWARDS QUADRUPLE ARROW;1EVERSE TILDE OPERATOR ABOVE RIGHTWARDS ARROW;
1IGHTWARDS ARROW ABOVE REVERSE ALMOST EQUAL TO;0TILDE OPERATOR ABOVE LEFTWARDS ARROW;
0LEFTWARDS ARROW ABOVE ALMOST EQUAL TO;MREVERSE TILDE OPERATOR;0RIGHTWARDS ARROW ABOVE REVERSE TILDE OPERATOR;
0DOWNWARDS TRIANGLE-HEADED ZIGZAG ARROW;0SHORT SLANTED NORTH ARROW;6BACKSLANTED SOUTH ARROW;0WHITE MEDIUM STAR;
0BLACK SMALL STAR;0WHITE SMALL STAR;0BLACK RIGHT-POINTING PENTAGON;0WHITE RIGHT-POINTING PENTAGON;0HEAVY LARGE CIRCLE;
6OVAL WITH OVAL INSIDE;6CIRCLE WITH CIRCLE INSIDE;C;CD SALTIRE;0SLANTED NORTH ARROW WITH HOOKED HEAD;
0BACKSLANTED SOUTH ARROW WITH HOOKED TAIL;0SLANTED NORTH ARROW WITH HORIZONTAL TAIL;
0BACKSLANTED SOUTH ARROW WITH HORIZONTAL TAIL;1ENT ARROW POINTING DOWNWARDS THEN NORTH EAST;
0SHORT BENT ARROW POINTING DOWNWARDS THEN NORTH EAST;0LEFTWARDS TRIANGLE-HEADED ARROW;0UPWARDS TRIANGLE-HEADED ARROW;
0RIGHTWARDS TRIANGLE-HEADED ARROW;0DOWNWARDS TRIANGLE-HEADED ARROW;0LEFT RIGHT TRIANGLE-HEADED ARROW;
0UP DOWN TRIANGLE-HEADED ARROW;0NORTH WEST TRIANGLE-HEADED ARROW;6EAST TRIANGLE-HEADED ARROW;
0SOUTH EAST TRIANGLE-HEADED ARROW;6WEST TRIANGLE-HEADED ARROW;0LEFTWARDS TRIANGLE-HEADED DASHED ARROW;
0UPWARDS TRIANGLE-HEADED DASHED ARROW;0RIGHTWARDS TRIANGLE-HEADED DASHED ARROW;0DOWNWARDS TRIANGLE-HEADED DASHED ARROW;
0CLOCKWISE TRIANGLE-HEADED OPEN CIRCLE ARROW;0ANTICLOCKWISE TRIANGLE-HEADED OPEN CIRCLE ARROW;
0LEFTWARDS TRIANGLE-HEADED ARROW TO BAR;0UPWARDS TRIANGLE-HEADED ARROW TO BAR;0RIGHTWARDS TRIANGLE-HEADED ARROW TO BAR;
0DOWNWARDS TRIANGLE-HEADED ARROW TO BAR;@2B76;0NORTH WEST TRIANGLE-HEADED ARROW TO BAR;
6EAST TRIANGLE-HEADED ARROW TO BAR;0SOUTH EAST TRIANGLE-HEADED ARROW TO BAR;6WEST TRIANGLE-HEADED ARROW TO BAR;
0LEFTWARDS TRIANGLE-HEADED ARROW WITH DOUBLE HORIZONTAL STROKE;
0UPWARDS TRIANGLE-HEADED ARROW WITH DOUBLE HORIZONTAL STROKE;
0RIGHTWARDS TRIANGLE-HEADED ARROW WITH DOUBLE HORIZONTAL STROKE;
0DOWNWARDS TRIANGLE-HEADED ARROW WITH DOUBLE HORIZONTAL STROKE;0HORIZONTAL TAB KEY;0VERTICAL TAB KEY;
0LEFTWARDS TRIANGLE-HEADED ARROW OVER RIGHTWARDS TRIANGLE-HEADED ARROW;
0UPWARDS TRIANGLE-HEADED ARROW LEFTWARDS OF DOWNWARDS TRIANGLE-HEADED ARROW;
0RIGHTWARDS TRIANGLE-HEADED ARROW OVER LEFTWARDS TRIANGLE-HEADED ARROW;
0DOWNWARDS TRIANGLE-HEADED ARROW LEFTWARDS OF UPWARDS TRIANGLE-HEADED ARROW;0LEFTWARDS TRIANGLE-HEADED PAIRED ARROWS;
0UPWARDS TRIANGLE-HEADED PAIRED ARROWS;0RIGHTWARDS TRIANGLE-HEADED PAIRED ARROWS;
0DOWNWARDS TRIANGLE-HEADED PAIRED ARROWS;0LEFTWARDS BLACK CIRCLED WHITE ARROW;0UPWARDS BLACK CIRCLED WHITE ARROW;
0RIGHTWARDS BLACK CIRCLED WHITE ARROW;0DOWNWARDS BLACK CIRCLED WHITE ARROW;
0ANTICLOCKWISE TRIANGLE-HEADED RIGHT U-SHAPED ARROW;UBOTTOM U-SHAPED ARROW;ULEFT U-SHAPED ARROW;UTOP U-SHAPED ARROW;
0RETURN LEFT;7RIGHT;0NEWLINE LEFT;8RIGHT;0FOUR CORNER ARROWS CIRCLING ANTICLOCKWISE;0RIGHTWARDS BLACK ARROW;@2B97;
0SYMBOL FOR TYPE A ELECTRONICS;0THREE-D TOP-LIGHTED LEFTWARDS EQUILATERAL ARROWHEAD;
8RIGHT-LIGHTED UPWARDS EQUILATERAL ARROWHEAD;8TOP-LIGHTED RIGHTWARDS EQUILATERAL ARROWHEAD;
8LEFT-LIGHTED DOWNWARDS EQUILATERAL ARROWHEAD;0BLACK LEFTWARDS EQUILATERAL ARROWHEAD;6UPWARDS EQUILATERAL ARROWHEAD;
6RIGHTWARDS EQUILATERAL ARROWHEAD;6DOWNWARDS EQUILATERAL ARROWHEAD;
0DOWNWARDS TRIANGLE-HEADED ARROW WITH LONG TIP LEFTWARDS;kRIGHTWARDS;
0UPWARDS TRIANGLE-HEADED ARROW WITH LONG TIP LEFTWARDS;iRIGHTWARDS;
0LEFTWARDS TRIANGLE-HEADED ARROW WITH LONG TIP UPWARDS;0RIGHTWARDS TRIANGLE-HEADED ARROW WITH LONG TIP UPWARDS;
0LEFTWARDS TRIANGLE-HEADED ARROW WITH LONG TIP DOWNWARDS;0RIGHTWARDS TRIANGLE-HEADED ARROW WITH LONG TIP DOWNWARDS;
0BLACK CURVED DOWNWARDS AND LEFTWARDS ARROW;RRIGHTWARDS ARROW;DUPWARDS AND LEFTWARDS ARROW;PRIGHTWARDS ARROW;
DLEFTWARDS AND UPWARDS ARROW;DRIGHTWARDS AND UPWARDS ARROW;DLEFTWARDS AND DOWNWARDS ARROW;
DRIGHTWARDS AND DOWNWARDS ARROW;0RIBBON ARROW DOWN LEFT;IRIGHT;DUP LEFT;GRIGHT;DLEFT UP;DRIGHT UP;DLEFT DOWN;
DRIGHT DOWN;0UPWARDS WHITE ARROW FROM BAR WITH HORIZONTAL BAR;2 ARROWHEAD IN A RECTANGLE BOX;
0OVERLAPPING WHITE SQUARES;IAND BLACK SQUARES;CBLACK SQUARES;0BALLOT BOX WITH LIGHT X;0CIRCLED X;8BOLD X;
0BLACK SQUARE CENTRED;6DIAMOND CENTRED;0TURNED BLACK PENTAGON;0HORIZONTAL BLACK OCTAGON;0BLACK OCTAGON;
6MEDIUM UP-POINTING TRIANGLE CENTRED;DDOWN-POINTING TRIANGLE CENTRED;DLEFT-POINTING TRIANGLE CENTRED;
DRIGHT-POINTING TRIANGLE CENTRED;0NEPTUNE FORM TWO;0TOP HALF BLACK CIRCLE;0BOTTOM HALF BLACK CIRCLE;
0LIGHT FOUR POINTED BLACK CUSP;0ROTATED LIGHT FOUR POINTED BLACK CUSP;0WHITE FOUR POINTED CUSP;
0ROTATED WHITE FOUR POINTED CUSP;0SQUARE POSITION INDICATOR;0UNCERTAINTY SIGN;0GROUP MARK;0PLUTO FORM TWO;CHREE;BFOUR;
CIVE;0TRANSPLUTO;0PROSERPINA;0ASTRAEA;0HYGIEA;0PHOLUS;0NESSUS;0WHITE MOON SELENA;0BLACK DIAMOND ON CROSS;
0TRUE LIGHT MOON ARTA;0CUPIDO;0HADES;0ZEUS;0KRONOS;0APOLLON;1DMETOS;0VULCANUS;0POSEIDON;0LEFT HALF BLACK STAR;
0RIGHT HALF BLACK STAR;0STAR WITH LEFT HALF BLACK;ARIGHT HALF BLACK;
0LEFTWARDS TWO-HEADED ARROW WITH TRIANGLE ARROWHEADS;0UPWARDS TWO-HEADED ARROW WITH TRIANGLE ARROWHEADS;
0RIGHTWARDS TWO-HEADED ARROW WITH TRIANGLE ARROWHEADS;0DOWNWARDS TWO-HEADED ARROW WITH TRIANGLE ARROWHEADS;
0ERIS FORM ONE;ATWO;0SEDNA;0RUSSIAN ASTROLOGICAL SYMBOL VIGINTILE;SNOVILE;SQUINTILE;SBINOVILE;SSENTAGON;STREDECILE;
0EQUALS SIGN WITH INFINITY BELOW;0UNITED SYMBOL;0SEPARATED SYMBOL;0DOUBLED SYMBOL;0PASSED SYMBOL;0REVERSED RIGHT ANGLE;
0HELLSCHREIBER PAUSE SYMBOL;0GLAGOLITIC CAPITAL LETTER AZU;QBUKY;QVEDE;QGLAGOLI;QDOBRO;QYESTU;QZHIVETE;QDZELO;QZEMLJA;
QIZHE;RNITIAL IZHE;R;QDJERVI;QKAKO;QLJUDIJE;QMYSLITE;QNASHI;QONU;QPOKOJI;QRITSI;QSLOVO;QTVRIDO;QUKU;QFRITU;QHERU;QOTU;
QPE;QSHTA;QTSI;QCHRIVI;QSHA;QYERU;TI;RATI;QSPIDERY HA;QYU;QSMALL YUS;Z WITH TAIL;QYO;QIOTATED SMALL YUS;QBIG YUS;
QIOTATED BIG YUS;QFITA;QIZHITSA;QSHTAPIC;QTROKUTASTI A;QLATINATE MYSLITE;QCAUDATE CHRIVI;BSMALL LETTER AZU;OBUKY;OVEDE;
OGLAGOLI;ODOBRO;OYESTU;OZHIVETE;ODZELO;OZEMLJA;OIZHE;PNITIAL IZHE;P;ODJERVI;OKAKO;OLJUDIJE;OMYSLITE;ONASHI;OONU;
OPOKOJI;ORITSI;OSLOVO;OTVRIDO;OUKU;OFRITU;OHERU;OOTU;OPE;OSHTA;OTSI;OCHRIVI;OSHA;OYERU;RI;PATI;OSPIDERY HA;OYU;
OSMALL YUS;X WITH TAIL;OYO;OIOTATED SMALL YUS;OBIG YUS;OIOTATED BIG YUS;OFITA;OIZHITSA;OSHTAPIC;OTROKUTASTI A;
OLATINATE MYSLITE;OCAUDATE CHRIVI;0LATIN CAPITAL LETTER L WITH DOUBLE BAR;6SMALL LETTER L WITH DOUBLE BAR;
6CAPITAL LETTER L WITH MIDDLE TILDE;LP WITH STROKE;LR WITH TAIL;6SMALL LETTER A WITH STROKE;JT WITH DIAGONAL STROKE;
6CAPITAL LETTER H WITH DESCENDER;6SMALL LETTER H WITH DESCENDER;6CAPITAL LETTER K WITH DESCENDER;
6SMALL LETTER K WITH DESCENDER;6CAPITAL LETTER Z WITH DESCENDER;6SMALL LETTER Z WITH DESCENDER;6CAPITAL LETTER ALPHA;
LM WITH HOOK;LTURNED A;TLPHA;6SMALL LETTER V WITH RIGHT HOOK;6CAPITAL LETTER W WITH HOOK;6SMALL LETTER W WITH HOOK;
JV WITH CURL;6CAPITAL LETTER HALF H;6SMALL LETTER HALF H;JTAILLESS PHI;JE WITH NOTCH;JTURNED R WITH TAIL;
JO WITH LOW RING INSIDE;6LETTER SMALL CAPITAL TURNED E;6SUBSCRIPT SMALL LETTER J;0MODIFIER LETTER CAPITAL V;
0LATIN CAPITAL LETTER S WITH SWASH TAIL;LZ WITH SWASH TAIL;0COPTIC CAPITAL LETTER ALFA;7SMALL LETTER ALFA;
7CAPITAL LETTER VIDA;7SMALL LETTER VIDA;7CAPITAL LETTER GAMMA;7SMALL LETTER GAMMA;7CAPITAL LETTER DALDA;
7SMALL LETTER DALDA;7CAPITAL LETTER EIE;7SMALL LETTER EIE;7CAPITAL LETTER SOU;7SMALL LETTER SOU;7CAPITAL LETTER ZATA;
7SMALL LETTER ZATA;7CAPITAL LETTER HATE;7SMALL LETTER HATE;7CAPITAL LETTER THETHE;7SMALL LETTER THETHE;
7CAPITAL LETTER IAUDA;7SMALL LETTER IAUDA;7CAPITAL LETTER KAPA;7SMALL LETTER KAPA;7CAPITAL LETTER LAULA;
7SMALL LETTER LAULA;7CAPITAL LETTER MI;7SMALL LETTER MI;7CAPITAL LETTER NI;7SMALL LETTER NI;7CAPITAL LETTER KSI;
7SMALL LETTER KSI;7CAPITAL LETTER O;7SMALL LETTER O;7CAPITAL LETTER PI;7SMALL LETTER PI;7CAPITAL LETTER RO;
7SMALL LETTER RO;7CAPITAL LETTER SIMA;7SMALL LETTER SIMA;7CAPITAL LETTER TAU;7SMALL LETTER TAU;7CAPITAL LETTER UA;
7SMALL LETTER UA;7CAPITAL LETTER FI;7SMALL LETTER FI;7CAPITAL LETTER KHI;7SMALL LETTER KHI;7CAPITAL LETTER PSI;
7SMALL LETTER PSI;7CAPITAL LETTER OOU;7SMALL LETTER OOU;7CAPITAL LETTER DIALECT-P ALEF;7SMALL LETTER DIALECT-P ALEF;
7CAPITAL LETTER OLD COPTIC AIN;7SMALL LETTER OLD COPTIC AIN;7CAPITAL LETTER CRYPTOGRAMMIC EIE;
7SMALL LETTER CRYPTOGRAMMIC EIE;7CAPITAL LETTER DIALECT-P KAPA;7SMALL LETTER DIALECT-P KAPA;
7CAPITAL LETTER DIALECT-P NI;7SMALL LETTER DIALECT-P NI;7CAPITAL LETTER CRYPTOGRAMMIC NI;
7SMALL LETTER CRYPTOGRAMMIC NI;7CAPITAL LETTER OLD COPTIC OOU;7SMALL LETTER OLD COPTIC OOU;7CAPITAL LETTER SAMPI;
7SMALL LETTER SAMPI;7CAPITAL LETTER CROSSED SHEI;7SMALL LETTER CROSSED SHEI;7CAPITAL LETTER OLD COPTIC SHEI;
7SMALL LETTER OLD COPTIC SHEI;7CAPITAL LETTER OLD COPTIC ESH;7SMALL LETTER OLD COPTIC ESH;
7CAPITAL LETTER AKHMIMIC KHEI;7SMALL LETTER AKHMIMIC KHEI;7CAPITAL LETTER DIALECT-P HORI;7SMALL LETTER DIALECT-P HORI;
7CAPITAL LETTER OLD COPTIC HORI;7SMALL LETTER OLD COPTIC HORI;7CAPITAL LETTER OLD COPTIC HA;
7SMALL LETTER OLD COPTIC HA;7CAPITAL LETTER L-SHAPED HA;7SMALL LETTER L-SHAPED HA;7CAPITAL LETTER OLD COPTIC HEI;
7SMALL LETTER OLD COPTIC HEI;7CAPITAL LETTER OLD COPTIC HAT;7SMALL LETTER OLD COPTIC HAT;
7CAPITAL LETTER OLD COPTIC GANGIA;7SMALL LETTER OLD COPTIC GANGIA;7CAPITAL LETTER OLD COPTIC DJA;
7SMALL LETTER OLD COPTIC DJA;7CAPITAL LETTER OLD COPTIC SHIMA;7SMALL LETTER OLD COPTIC SHIMA;
7CAPITAL LETTER OLD NUBIAN SHIMA;7SMALL LETTER OLD NUBIAN SHIMA;7CAPITAL LETTER OLD NUBIAN NGI;
7SMALL LETTER OLD NUBIAN NGI;7CAPITAL LETTER OLD NUBIAN NYI;7SMALL LETTER OLD NUBIAN NYI;
7CAPITAL LETTER OLD NUBIAN WAU;7SMALL LETTER OLD NUBIAN WAU;8YMBOL KAI;EMI RO;EPI RO;ESTAUROS;ETAU RO;EKHI RO;
ESHIMA SIMA;7CAPITAL LETTER CRYPTOGRAMMIC SHEI;7SMALL LETTER CRYPTOGRAMMIC SHEI;7CAPITAL LETTER CRYPTOGRAMMIC GANGIA;
7SMALL LETTER CRYPTOGRAMMIC GANGIA;7COMBINING NI ABOVE;HSPIRITUS ASPER;QLENIS;8APITAL LETTER BOHAIRIC KHEI;
7SMALL LETTER BOHAIRIC KHEI;@2CF9;7OLD NUBIAN FULL STOP;IDIRECT QUESTION MARK;IINDIRECT QUESTION MARK;IVERSE DIVIDER;
7FRACTION ONE HALF;8ULL STOP;7MORPHOLOGICAL DIVIDER;0GEORGIAN SMALL LETTER AN;MBAN;MGAN;MDON;MEN;MVIN;MZEN;MTAN;MIN;
MKAN;MLAS;MMAN;MNAR;MON;MPAR;MZHAR;MRAE;MSAN;MTAR;MUN;MPHAR;MKHAR;MGHAN;MQAR;MSHIN;MCHIN;NAN;MJIL;MCIL;NHAR;MXAN;MJHAN;
MHAE;NE;NIE;MWE;MHAR;NOE;@2D27;MYN;@2D2D;MAEN;@2D30;0TIFINAGH LETTER YA;IB;JH;IG;JHH;GBERBER ACADEMY YAJ;GYAJ;ID;JH;JD;
KH;HEY;HAF;IK;GTUAREG YAK;GYAKHH;IH;GBERBER ACADEMY YAH;GTUAREG YAH;GYAHH;IA;IKH;GTUAREG YAKH;GYAQ;GTUAREG YAQ;GYI;
HAZH;GAHAGGAR YAZH;GTUAREG YAZH;GYAL;IM;IN;GTUAREG YAGN;PNG;GYAP;HU;HAR;JR;IGH;GTUAREG YAGH;GAYER YAGH;GYAS;JS;JH;IT;
JH;ICH;ITT;IV;IW;IY;IZ;GTAWELLEMET YAZ;GYAZZ;HE;HO;@2D6F;9MODIFIER LETTER LABIALIZATION MARK;9SEPARATOR MARK;@2D7F;
9CONSONANT JOINER;0ETHIOPIC SYLLABLE LOA;IMOA;IROA;ISOA;JHOA;IBOA;ITOA;ICOA;INOA;JYOA;IGLOTTAL OA;IZOA;IDOA;JDOA;IJOA;
ITHOA;ICHOA;IPHOA;JOA;IGGWA;LI;LEE;M;@2DA0;ISSA;KU;KI;KAA;KEE;L;KO;@2DA8;ICCA;KU;KI;KAA;KEE;L;KO;@2DB0;IZZA;KU;KI;KAA;
KEE;L;KO;@2DB8;ICCHA;LU;LI;LAA;LEE;M;LO;@2DC0;IQYA;KU;KI;KAA;KEE;L;KO;@2DC8;IKYA;KU;KI;KAA;KEE;L;KO;@2DD0;IXYA;KU;KI;
KAA;KEE;L;KO;@2DD8;IGYA;KU;KI;KAA;KEE;L;KO;@2DE0;0COMBINING CYRILLIC LETTER BE;QVE;QGHE;QDE;QZHE;RE;QKA;QEL;RM;RN;QO;
QPE;QER;RS;QTE;QHA;QTSE;QCHE;QSHA;SCHA;QFITA;QES-TE;QA;QIE;QDJERV;QMONOGRAPH UK;QYAT;RU;QIOTIFIED A;QLITTLE YUS;
QBIG YUS;QIOTIFIED BIG YUS;0RIGHT ANGLE SUBSTITUTION MARKER;CDOTTED SUBSTITUTION MARKER;0LEFT SUBSTITUTION BRACKET;
0RIGHT SUBSTITUTION BRACKET;0LEFT DOTTED SUBSTITUTION BRACKET;0RIGHT DOTTED SUBSTITUTION BRACKET;
1AISED INTERPOLATION MARKER;7DOTTED INTERPOLATION MARKER;0DOTTED TRANSPOSITION MARKER;0LEFT TRANSPOSITION BRACKET;
0RIGHT TRANSPOSITION BRACKET;1AISED SQUARE;0LEFT RAISED OMISSION BRACKET;0RIGHT RAISED OMISSION BRACKET;
0EDITORIAL CORONIS;0PARAGRAPHOS;0FORKED PARAGRAPHOS;0REVERSED FORKED PARAGRAPHOS;0HYPODIASTOLE;0DOTTED OBELOS;
2WNWARDS ANCORA;0UPWARDS ANCORA;0DOTTED RIGHT-POINTING ANGLE;2UBLE OBLIQUE HYPHEN;0INVERTED INTERROBANG;0PALM BRANCH;
0HYPHEN WITH DIAERESIS;0TILDE WITH RING ABOVE;0LEFT LOW PARAPHRASE BRACKET;0RIGHT LOW PARAPHRASE BRACKET;
0TILDE WITH DOT ABOVE;FBELOW;0LEFT VERTICAL BAR WITH QUILL;0RIGHT VERTICAL BAR WITH QUILL;0TOP LEFT HALF BRACKET;
4RIGHT HALF BRACKET;0BOTTOM LEFT HALF BRACKET;7RIGHT HALF BRACKET;0LEFT SIDEWAYS U BRACKET;0RIGHT SIDEWAYS U BRACKET;
0LEFT DOUBLE PARENTHESIS;0RIGHT DOUBLE PARENTHESIS;0TWO DOTS OVER ONE DOT PUNCTUATION;
0ONE DOT OVER TWO DOTS PUNCTUATION;0SQUARED FOUR DOT PUNCTUATION;0FIVE DOT MARK;0REVERSED QUESTION MARK;
0VERTICAL TILDE;0RING POINT;0WORD SEPARATOR MIDDLE DOT;0TURNED COMMA;0RAISED DOT;7COMMA;0TURNED SEMICOLON;
0DAGGER WITH LEFT GUARD;CRIGHT GUARD;0TURNED DAGGER;1OP HALF SECTION SIGN;1WO-EM DASH;1HREE-EM DASH;
0STENOGRAPHIC FULL STOP;0VERTICAL SIX DOTS;0WIGGLY VERTICAL LINE;0CAPITULUM;0DOUBLE HYPHEN;0REVERSED COMMA;
0DOUBLE LOW-REVERSED-9 QUOTATION MARK;1ASH WITH LEFT UPTURN;1OUBLE SUSPENSION MARK;0INVERTED LOW KAVYKA;
J WITH KAVYKA ABOVE;0LOW KAVYKA;A WITH DOT;0DOUBLE STACKED COMMA;2TTED SOLIDUS;0TRIPLE DAGGER;0MEDIEVAL COMMA;
0PARAGRAPHUS MARK;1UNCTUS ELEVATUS MARK;0CORNISH VERSE DIVIDER;1ROSS PATTY WITH RIGHT CROSSBAR;HLEFT CROSSBAR;
0TIRONIAN SIGN CAPITAL ET;0MEDIEVAL EXCLAMATION MARK;9QUESTION MARK;0LEFT SQUARE BRACKET WITH STROKE;
0RIGHT SQUARE BRACKET WITH STROKE;0LEFT SQUARE BRACKET WITH DOUBLE STROKE;0RIGHT SQUARE BRACKET WITH DOUBLE STROKE;
0TOP HALF LEFT PARENTHESIS;9RIGHT PARENTHESIS;0BOTTOM HALF LEFT PARENTHESIS;CRIGHT PARENTHESIS;0OBLIQUE HYPHEN;@2E80;
0CJK RADICAL REPEAT;CCLIFF;CSECOND ONE;JTWO;KHREE;CPERSON;CBOX;CTABLE;CKNIFE ONE;ITWO;CDIVINATION;CSEAL;DMALL ONE;ITWO;
CLAME ONE;HTWO;IHREE;HFOUR;CSNAKE;CTHREAD;CSNOUT ONE;ITWO;CHEART ONE;ITWO;DAND;CRAP;@2E9B;CCHOKE;CSUN;CMOON;CDEATH;
CMOTHER;CCIVILIAN;CWATER ONE;ITWO;CFIRE;CPAW ONE;GTWO;CSIMPLIFIED HALF TREE TRUNK;CCOW;CDOG;CJADE;CBOLT OF CLOTH;CEYE;
CSPIRIT ONE;JTWO;CBAMBOO;CSILK;CC-SIMPLIFIED SILK;CNET ONE;GTWO;HHREE;GFOUR;CMESH;CSHEEP;CRAM;CEWE;COLD;CBRUSH ONE;
ITWO;CMEAT;DORTAR;CGRASS ONE;ITWO;JHREE;CTIGER;CCLOTHES;CWEST ONE;HTWO;CC-SIMPLIFIED SEE;CSIMPLIFIED HORN;CHORN;
CC-SIMPLIFIED SPEECH;QHELL;CFOOT;CC-SIMPLIFIED CART;CSIMPLIFIED WALK;CWALK ONE;HTWO;CCITY;D-SIMPLIFIED GOLD;CLONG ONE;
HTWO;CC-SIMPLIFIED LONG;PGATE;CMOUND ONE;ITWO;CRAIN;CBLUE;CC-SIMPLIFIED TANNED LEATHER;PLEAF;PWIND;PFLY;CEAT ONE;GTWO;
HHREE;CC-SIMPLIFIED EAT;CHEAD;CC-SIMPLIFIED HORSE;CBONE;CGHOST;CC-SIMPLIFIED FISH;PBIRD;PSALT;CSIMPLIFIED WHEAT;
NYELLOW;CC-SIMPLIFIED FROG;CJ-SIMPLIFIED EVEN;CC-SIMPLIFIED EVEN;CJ-SIMPLIFIED TOOTH;CC-SIMPLIFIED TOOTH;
CJ-SIMPLIFIED DRAGON;CC-SIMPLIFIED DRAGON;CTURTLE;CJ-SIMPLIFIED TURTLE;CC-SIMPLIFIED TURTLE;@2F00;0KANGXI RADICAL ONE;
FLINE;FDOT;FSLASH;GECOND;FHOOK;FTWO;FLID;FMAN;FLEGS;FENTER;GIGHT;FDOWN BOX;FCOVER;FICE;FTABLE;FOPEN BOX;FKNIFE;FPOWER;
FWRAP;FSPOON;FRIGHT OPEN BOX;FHIDING ENCLOSURE;FTEN;FDIVINATION;FSEAL;FCLIFF;FPRIVATE;FAGAIN;FMOUTH;FENCLOSURE;GARTH;
FSCHOLAR;FGO;H SLOWLY;FEVENING;FBIG;FWOMAN;FCHILD;FROOF;FINCH;FSMALL;FLAME;FCORPSE;FSPROUT;FMOUNTAIN;FRIVER;FWORK;
FONESELF;FTURBAN;FDRY;FSHORT THREAD;FDOTTED CLIFF;FLONG STRIDE;FTWO HANDS;FSHOOT;FBOW;FSNOUT;FBRISTLE;FSTEP;FHEART;
GALBERD;FDOOR;FHAND;FBRANCH;FRAP;FSCRIPT;FDIPPER;FAXE;FSQUARE;FNOT;FSUN;GAY;FMOON;FTREE;FLACK;FSTOP;FDEATH;FWEAPON;
FDO NOT;FCOMPARE;FFUR;FCLAN;FSTEAM;FWATER;FFIRE;FCLAW;FFATHER;FDOUBLE X;FHALF TREE TRUNK;FSLICE;FFANG;FCOW;FDOG;
FPROFOUND;FJADE;FMELON;FTILE;FSWEET;FLIFE;FUSE;FFIELD;FBOLT OF CLOTH;FSICKNESS;FDOTTED TENT;FWHITE;FSKIN;FDISH;FEYE;
FSPEAR;FARROW;FSTONE;GPIRIT;FTRACK;FGRAIN;FCAVE;FSTAND;FBAMBOO;FRICE;FSILK;FJAR;FNET;FSHEEP;FFEATHER;FOLD;FAND;FPLOW;
FEAR;FBRUSH;FMEAT;GINISTER;FSELF;FARRIVE;FMORTAR;FTONGUE;FOPPOSE;FBOAT;FSTOPPING;FCOLOR;FGRASS;FTIGER;FINSECT;FBLOOD;
FWALK ENCLOSURE;FCLOTHES;FWEST;FSEE;FHORN;FSPEECH;FVALLEY;FBEAN;FPIG;FBADGER;FSHELL;FRED;GUN;FFOOT;FBODY;FCART;FBITTER;
FMORNING;FWALK;FCITY;FWINE;FDISTINGUISH;FVILLAGE;FGOLD;FLONG;FGATE;FMOUND;FSLAVE;GHORT TAILED BIRD;FRAIN;FBLUE;FWRONG;
FFACE;FLEATHER;FTANNED LEATHER;FLEEK;FSOUND;FLEAF;FWIND;FFLY;FEAT;FHEAD;FFRAGRANT;FHORSE;FBONE;FTALL;FHAIR;FFIGHT;
FSACRIFICIAL WINE;FCAULDRON;FGHOST;FFISH;FBIRD;FSALT;FDEER;FWHEAT;FHEMP;FYELLOW;FMILLET;FBLACK;FEMBROIDERY;FFROG;
FTRIPOD;FDRUM;FRAT;FNOSE;FEVEN;FTOOTH;FDRAGON;FTURTLE;FFLUTE;@2FF0;0IDEOGRAPHIC DESCRIPTION CHARACTER LEFT TO RIGHT;
YABOVE TO BELOW;YLEFT TO MIDDLE AND RIGHT;YABOVE TO MIDDLE AND BELOW;YFULL SURROUND;YSURROUND FROM ABOVE;mBELOW;mLEFT;
mUPPER LEFT;sRIGHT;mLOWER LEFT;YOVERLAID;@3000;CSPACE;CCOMMA;CFULL STOP;0DITTO MARK;
0JAPANESE INDUSTRIAL STANDARD SYMBOL;0IDEOGRAPHIC ITERATION MARK;CCLOSING MARK;CNUMBER ZERO;0LEFT ANGLE BRACKET;
0RIGHT ANGLE BRACKET;0LEFT DOUBLE ANGLE BRACKET;0RIGHT DOUBLE ANGLE BRACKET;0LEFT CORNER BRACKET;0RIGHT CORNER BRACKET;
0LEFT WHITE CORNER BRACKET;0RIGHT WHITE CORNER BRACKET;0LEFT BLACK LENTICULAR BRACKET;0RIGHT BLACK LENTICULAR BRACKET;
0POSTAL MARK;0GETA MARK;0LEFT TORTOISE SHELL BRACKET;0RIGHT TORTOISE SHELL BRACKET;0LEFT WHITE LENTICULAR BRACKET;
0RIGHT WHITE LENTICULAR BRACKET;0LEFT WHITE TORTOISE SHELL BRACKET;0RIGHT WHITE TORTOISE SHELL BRACKET;
0LEFT WHITE SQUARE BRACKET;0RIGHT WHITE SQUARE BRACKET;0WAVE DASH;0REVERSED DOUBLE PRIME QUOTATION MARK;
0DOUBLE PRIME QUOTATION MARK;0LOW DOUBLE PRIME QUOTATION MARK;0POSTAL MARK FACE;0HANGZHOU NUMERAL ONE;HTWO;IHREE;HFOUR;
IIVE;HSIX;IEVEN;HEIGHT;HNINE;0IDEOGRAPHIC LEVEL TONE MARK;CRISING TONE MARK;CDEPARTING TONE MARK;CENTERING TONE MARK;
0HANGUL SINGLE DOT TONE MARK;7DOUBLE DOT TONE MARK;0WAVY DASH;0VERTICAL KANA REPEAT MARK;LWITH VOICED SOUND MARK;
LMARK UPPER HALF;LWITH VOICED SOUND MARK UPPER HALF;LMARK LOWER HALF;0CIRCLED POSTAL MARK;
0IDEOGRAPHIC TELEGRAPH LINE FEED SEPARATOR SYMBOL;0HANGZHOU NUMERAL TEN;IWENTY;IHIRTY;
0VERTICAL IDEOGRAPHIC ITERATION MARK;0MASU MARK;0PART ALTERNATION MARK;0IDEOGRAPHIC VARIATION INDICATOR;
CHALF FILL SPACE;@3041;0HIRAGANA LETTER SMALL A;GA;GSMALL I;GI;GSMALL U;GU;GSMALL E;GE;GSMALL O;GO;GKA;GGA;GKI;GGI;GKU;
GGU;GKE;GGE;GKO;GGO;GSA;GZA;GSI;GZI;GSU;GZU;GSE;GZE;GSO;GZO;GTA;GDA;GTI;GDI;GSMALL TU;GTU;GDU;GTE;GDE;GTO;GDO;GNA;HI;
HU;HE;HO;GHA;GBA;GPA;GHI;GBI;GPI;GHU;GBU;GPU;GHE;GBE;GPE;GHO;GBO;GPO;GMA;HI;HU;HE;HO;GSMALL YA;GYA;GSMALL YU;GYU;
GSMALL YO;GYO;GRA;HI;HU;HE;HO;GSMALL WA;GWA;HI;HE;HO;GN;GVU;GSMALL KA;NE;@3099;
0COMBINING KATAKANA-HIRAGANA VOICED SOUND MARK;SSEMI-VOICED SOUND MARK;0KATAKANA-HIRAGANA VOICED SOUND MARK;
ISEMI-VOICED SOUND MARK;0HIRAGANA ITERATION MARK;9VOICED ITERATION MARK;9DIGRAPH YORI;0KATAKANA-HIRAGANA DOUBLE HYPHEN;
8 LETTER SMALL A;GA;GSMALL I;GI;GSMALL U;GU;GSMALL E;GE;GSMALL O;GO;GKA;GGA;GKI;GGI;GKU;GGU;GKE;GGE;GKO;GGO;GSA;GZA;
GSI;GZI;GSU;GZU;GSE;GZE;GSO;GZO;GTA;GDA;GTI;GDI;GSMALL TU;GTU;GDU;GTE;GDE;GTO;GDO;GNA;HI;HU;HE;HO;GHA;GBA;GPA;GHI;GBI;
GPI;GHU;GBU;GPU;GHE;GBE;GPE;GHO;GBO;GPO;GMA;HI;HU;HE;HO;GSMALL YA;GYA;GSMALL YU;GYU;GSMALL YO;GYO;GRA;HI;HU;HE;HO;
GSMALL WA;GWA;HI;HE;HO;GN;GVU;GSMALL KA;NE;GVA;HI;HE;HO;9MIDDLE DOT;8-HIRAGANA PROLONGED SOUND MARK;8 ITERATION MARK;
9VOICED ITERATION MARK;9DIGRAPH KOTO;@3105;0BOPOMOFO LETTER B;GP;GM;GF;GD;GT;GN;GL;GG;GK;GH;GJ;GQ;GX;GZH;GCH;GSH;GR;GZ;
GC;GS;GA;GO;GE;HH;GAI;GEI;GAU;GOU;GAN;GEN;GANG;GENG;HR;GI;GU;GIU;GV;GNG;GGN;GIH;GO WITH DOT ABOVE;GNN;@3131;
0HANGUL LETTER KIYEOK;ESSANGKIYEOK;EKIYEOK-SIOS;ENIEUN;J-CIEUC;KHIEUH;ETIKEUT;ESSANGTIKEUT;ERIEUL;J-KIYEOK;KMIEUM;
KPIEUP;KSIOS;KTHIEUTH;KPHIEUPH;KHIEUH;EMIEUM;EPIEUP;ESSANGPIEUP;EPIEUP-SIOS;ESIOS;FSANGSIOS;EIEUNG;ECIEUC;ESSANGCIEUC;
ECHIEUCH;EKHIEUKH;ETHIEUTH;EPHIEUPH;EHIEUH;EA;FE;EYA;GE;EEO;F;EYEO;G;EO;EWA;GE;EOE;EYO;EU;EWEO;G;FI;EYU;EEU;EYI;EI;
7FILLER;7LETTER SSANGNIEUN;ENIEUN-TIKEUT;KSIOS;KPANSIOS;ERIEUL-KIYEOK-SIOS;KTIKEUT;KPIEUP-SIOS;LANSIOS;KYEORINHIEUH;
EMIEUM-PIEUP;KSIOS;KPANSIOS;EKAPYEOUNMIEUM;EPIEUP-KIYEOK;KTIKEUT;KSIOS-KIYEOK;PTIKEUT;KCIEUC;KTHIEUTH;EKAPYEOUNPIEUP;
MSSANGPIEUP;ESIOS-KIYEOK;JNIEUN;JTIKEUT;JPIEUP;JCIEUC;EPANSIOS;ESSANGIEUNG;EYESIEUNG;M-SIOS;NPANSIOS;EKAPYEOUNPHIEUPH;
ESSANGHIEUH;EYEORINHIEUH;FO-YA;JE;HI;FU-YEO;J;HI;EARAEA;JE;@3190;0IDEOGRAPHIC ANNOTATION LINKING MARK;NREVERSE MARK;
NONE MARK;NTWO MARK;OHREE MARK;NFOUR MARK;NTOP MARK;NMIDDLE MARK;NBOTTOM MARK;NFIRST MARK;NSECOND MARK;NTHIRD MARK;
NFOURTH MARK;NHEAVEN MARK;NEARTH MARK;NMAN MARK;0BOPOMOFO LETTER BU;GZI;GJI;GGU;GEE;HNN;GOO;HNN;GIR;GANN;GINN;GUNN;GIM;
GNGG;GAINN;HUNN;HM;GOM;HNG;GINNN;9FINAL LETTER P;MT;MK;MH;9LETTER GH;GLH;GZY;9FINAL LETTER G;9LETTER GW;GKW;GOE;GAH;
0CJK STROKE T;BWG;BXG;BBXG;BSW;BHZZ;DG;CP;CZWG;BSZWG;BHZT;DZP;CPWG;CZW;DZZ;BN;BH;BS;BP;BSP;BD;BHZ;CG;BSZ;CWZ;CT;CG;BPD;
CZ;BTN;BSZZ;CWG;BHXWG;CZZZG;BPG;BQ;@31F0;0KATAKANA LETTER SMALL KU;MSI;NU;MTO;MNU;MHA;NI;NU;NE;NO;MMU;MRA;NI;NU;NE;NO;
0PARENTHESIZED HANGUL KIYEOK;LNIEUN;LTIKEUT;LRIEUL;LMIEUM;LPIEUP;LSIOS;LIEUNG;LCIEUC;MHIEUCH;LKHIEUKH;LTHIEUTH;
LPHIEUPH;LHIEUH;LKIYEOK A;LNIEUN A;LTIKEUT A;LRIEUL A;LMIEUM A;LPIEUP A;LSIOS A;LIEUNG A;LCIEUC A;MHIEUCH A;LKHIEUKH A;
LTHIEUTH A;LPHIEUPH A;LHIEUH A;LCIEUC U;EKOREAN CHARACTER OJEON;W HU;@3220;EIDEOGRAPH ONE;OTWO;PHREE;OFOUR;PIVE;OSIX;
PEVEN;OEIGHT;ONINE;OTEN;OMOON;OFIRE;OWATER;POOD;OMETAL;OEARTH;OSUN;PTOCK;OHAVE;OSOCIETY;ONAME;OSPECIAL;OFINANCIAL;
OCONGRATULATION;OLABOR;OREPRESENT;OCALL;OSTUDY;PUPERVISE;OENTERPRISE;ORESOURCE;OALLIANCE;OFESTIVAL;OREST;OSELF;OREACH;
0CIRCLED IDEOGRAPH QUESTION;IKINDERGARTEN;ISCHOOL;IKOTO;8NUMBER TEN ON BLACK SQUARE;GWENTY ON BLACK SQUARE;
GHIRTY ON BLACK SQUARE;FFORTY ON BLACK SQUARE;GIFTY ON BLACK SQUARE;FSIXTY ON BLACK SQUARE;GEVENTY ON BLACK SQUARE;
FEIGHTY ON BLACK SQUARE;0PARTNERSHIP SIGN;0CIRCLED NUMBER TWENTY ONE;MTWO;NHREE;MFOUR;NIVE;MSIX;NEVEN;MEIGHT;MNINE;
GHIRTY;L ONE;MTWO;NHREE;MFOUR;NIVE;8HANGUL KIYEOK;FNIEUN;FTIKEUT;FRIEUL;FMIEUM;FPIEUP;FSIOS;FIEUNG;FCIEUC;GHIEUCH;
FKHIEUKH;FTHIEUTH;FPHIEUPH;FHIEUH;FKIYEOK A;FNIEUN A;FTIKEUT A;FRIEUL A;FMIEUM A;FPIEUP A;FSIOS A;FIEUNG A;FCIEUC A;
GHIEUCH A;FKHIEUKH A;FTHIEUTH A;FPHIEUPH A;FHIEUH A;8KOREAN CHARACTER CHAMKO;PJUEUI;8HANGUL IEUNG U;
0KOREAN STANDARD SYMBOL;0CIRCLED IDEOGRAPH ONE;ITWO;JHREE;IFOUR;JIVE;ISIX;JEVEN;IEIGHT;ININE;ITEN;IMOON;IFIRE;IWATER;
JOOD;IMETAL;IEARTH;ISUN;JTOCK;IHAVE;ISOCIETY;INAME;ISPECIAL;IFINANCIAL;ICONGRATULATION;ILABOR;ISECRET;IMALE;IFEMALE;
ISUITABLE;IEXCELLENT;IPRINT;IATTENTION;IITEM;IREST;ICOPY;KRRECT;IHIGH;ICENTRE;ILOW;JEFT;IRIGHT;IMEDICINE;IRELIGION;
ISTUDY;JUPERVISE;IENTERPRISE;IRESOURCE;IALLIANCE;INIGHT;8NUMBER THIRTY SIX;NEVEN;MEIGHT;MNINE;FFORTY;K ONE;LTWO;MHREE;
LFOUR;MIVE;LSIX;MEVEN;LEIGHT;LNINE;GIFTY;0IDEOGRAPHIC TELEGRAPH SYMBOL FOR JANUARY;XFEBRUARY;XMARCH;XAPRIL;XMAY;XJUNE;
ZLY;XAUGUST;XSEPTEMBER;XOCTOBER;XNOVEMBER;XDECEMBER;0SQUARE HG;7ERG;8V;0LIMITED LIABILITY SIGN;0CIRCLED KATAKANA A;HI;
HU;HE;HO;HKA;II;IU;IE;IO;HSA;II;IU;IE;IO;HTA;II;IU;IE;IO;HNA;II;IU;IE;IO;HHA;II;IU;IE;IO;HMA;II;IU;IE;IO;HYA;IU;IO;HRA;
II;IU;IE;IO;HWA;II;IE;IO;0SQUARE ERA NAME REIWA;7APAATO;8RUHUA;8NPEA;8ARU;7ININGU;9TI;7UON;7ESUKUUDO;8EKAA;7ONSU;8OMU;
7KAIRI;9RATTO;AORII;7GARON;9NMA;8IGA;9NII;7KYURII;7GIRUDAA;7KIRO;BGURAMU;BMEETORU;BWATTO;7GURAMU;DTON;7KURUZEIRO;AOONE;
8EESU;8ORUNA;9OPO;7SAIKURU;9NTIIMU;8IRINGU;8ENTI;BO;7DAASU;8ESI;8ORU;7TON;7NANO;8OTTO;7HAITU;7PAASENTO;ATU;7BAARERU;
7PIASUTORU;9KURU;AO;7BIRU;7HUARADDO;9IITO;7BUSSYERU;7HURAN;8EKUTAARU;7PESO;9NIHI;7HERUTU;7PENSU;9EZI;7BEETA;7POINTO;
7BORUTO;7HON;7PONDO;7HOORU;AN;7MAIKURO;ARU;9HHA;9RUKU;9NSYON;8IKURON;9RI;BBAARU;8EGA;BTON;9ETORU;7YAADO;ARU;8UAN;
7RITTORU;9RA;8UPII;9UBURU;8EMU;9NTOGEN;7WATTO;0IDEOGRAPHIC TELEGRAPH SYMBOL FOR HOUR ZERO;cONE;cTWO;dHREE;cFOUR;dIVE;
cSIX;dEVEN;cEIGHT;cNINE;cTEN;cELEVEN;cTWELVE;dHIRTEEN;cFOURTEEN;dIFTEEN;cSIXTEEN;dEVENTEEN;cEIGHTEEN;cNINETEEN;cTWENTY;
i-ONE;jTWO;kHREE;jFOUR;0SQUARE HPA;7DA;7AU;7BAR;7OV;7PC;7DM;9 SQUARED;ACUBED;7IU;7ERA NAME HEISEI;GSYOUWA;GTAISYOU;
GMEIZI;7CORPORATION;7PA AMPS;7NA;7MU A;8A;7KA;8B;7MB;7GB;7CAL;7KCAL;7PF;7NF;7MU F;AG;8G;7KG;7HZ;7KHZ;7MHZ;7GHZ;7THZ;
7MU L;8L;7DL;7KL;7FM;7NM;7MU M;8M;7CM;7KM;7MM SQUARED;7CM SQUARED;7M SQUARED;7KM SQUARED;7MM CUBED;7CM CUBED;7M CUBED;
7KM CUBED;7M OVER S;F SQUARED;7PA;7KPA;7MPA;7GPA;7RAD;A OVER S;H SQUARED;7PS;7NS;7MU S;8S;7PV;7NV;7MU V;8V;7KV;
7MV MEGA;7PW;7NW;7MU W;8W;7KW;7MW MEGA;7K OHM;7M OHM;7AM;7BQ;7CC;8D;8 OVER KG;8O;7DB;7GY;7HA;8P;7IN;7KK;8M CAPITAL;8T;
7LM;8N;8OG;8X;7MB SMALL;8IL;8OL;7PH;8M;8PM;8R;7SR;8V;7WB;7V OVER M;7A OVER M;0IDEOGRAPHIC TELEGRAPH SYMBOL FOR DAY ONE;
bTWO;cHREE;bFOUR;cIVE;bSIX;cEVEN;bEIGHT;bNINE;bTEN;bELEVEN;bTWELVE;cHIRTEEN;bFOURTEEN;cIFTEEN;bSIXTEEN;cEVENTEEN;
bEIGHTEEN;bNINETEEN;bTWENTY;h-ONE;iTWO;jHREE;iFOUR;jIVE;iSIX;jEVEN;iEIGHT;iNINE;cHIRTY;h-ONE;0SQUARE GAL;@4DC0;
0HEXAGRAM FOR THE CREATIVE HEAVEN;HRECEPTIVE EARTH;DDIFFICULTY AT THE BEGINNING;DYOUTHFUL FOLLY;DWAITING;DCONFLICT;
DTHE ARMY;DHOLDING TOGETHER;DSMALL TAMING;DTREADING;DPEACE;DSTANDSTILL;DFELLOWSHIP;DGREAT POSSESSION;DMODESTY;
DENTHUSIASM;DFOLLOWING;DWORK ON THE DECAYED;DAPPROACH;DCONTEMPLATION;DBITING THROUGH;DGRACE;DSPLITTING APART;DRETURN;
DINNOCENCE;DGREAT TAMING;DMOUTH CORNERS;DGREAT PREPONDERANCE;DTHE ABYSMAL WATER;HCLINGING FIRE;DINFLUENCE;DDURATION;
DRETREAT;DGREAT POWER;DPROGRESS;DDARKENING OF THE LIGHT;DTHE FAMILY;DOPPOSITION;EBSTRUCTION;DDELIVERANCE;FCREASE;
DINCREASE;DBREAKTHROUGH;DCOMING TO MEET;DGATHERING TOGETHER;DPUSHING UPWARD;DOPPRESSION;DTHE WELL;DREVOLUTION;
DTHE CAULDRON;HAROUSING THUNDER;HKEEPING STILL MOUNTAIN;DDEVELOPMENT;DTHE MARRYING MAIDEN;DABUNDANCE;DTHE WANDERER;
HGENTLE WIND;HJOYOUS LAKE;DDISPERSION;DLIMITATION;DINNER TRUTH;DSMALL PREPONDERANCE;DAFTER COMPLETION;
DBEFORE COMPLETION;@A000;0YI SYLLABLE IT;DX;D;DP;DET;EX;E;EP;CAT;DX;D;DP;CUOX;E;EP;COT;DX;D;DP;CEX;D;CWU;CBIT;EX;E;EP;
EET;FX;F;FP;DAT;EX;E;EP;DUOX;F;FP;DOT;EX;E;EP;DEX;E;EP;DUT;EX;E;EP;ERX;F;DYT;EX;E;EP;ERX;F;CPIT;EX;E;EP;EEX;F;FP;DAT;
EX;E;EP;DUOX;F;FP;DOT;EX;E;EP;DUT;EX;E;EP;ERX;F;DYT;EX;E;EP;ERX;F;CBBIT;FX;F;FP;FET;GX;G;GP;EAT;FX;F;FP;EUOX;G;GP;EOT;
FX;F;FP;EEX;F;FP;EUT;FX;F;FP;FRX;G;EYT;FX;F;FP;CNBIT;FX;F;FP;FEX;G;GP;EAT;FX;F;FP;EOT;FX;F;FP;EUT;FX;F;FP;FRX;G;EYT;FX;
F;FP;FRX;G;CHMIT;FX;F;FP;FEX;G;GP;EAT;FX;F;FP;EUOX;G;GP;EOT;FX;F;FP;EUT;FX;F;FP;FRX;G;EYX;F;FP;FRX;G;CMIT;EX;E;EP;EEX;
F;FP;DAT;EX;E;EP;DUOT;FX;F;FP;DOT;EX;E;EP;DEX;E;DUT;EX;E;EP;ERX;F;DYT;EX;E;EP;CFIT;EX;E;EP;DAT;EX;E;EP;DOX;E;EP;DUT;EX;
E;EP;ERX;F;DYT;EX;E;EP;CVIT;EX;E;EP;EET;FX;F;FP;DAT;EX;E;EP;DOT;EX;E;EP;DEX;EP;DUT;EX;E;EP;ERX;F;DYT;EX;E;EP;ERX;F;
CDIT;EX;E;EP;EEX;F;FP;DAT;EX;E;EP;DUOX;F;DOT;EX;E;EP;DEX;E;EP;DUT;EX;E;EP;ERX;F;CTIT;EX;E;EP;EEX;F;FP;DAT;EX;E;EP;DUOT;
FX;F;FP;DOT;EX;E;EP;DEX;E;EP;DUT;EX;E;EP;ERX;F;CDDIT;FX;F;FP;FEX;G;GP;EAT;FX;F;FP;EUOX;G;GP;EOT;FX;F;FP;EEX;F;FP;EUT;
FX;F;FP;FRX;G;CNDIT;FX;F;FP;FEX;G;EAT;FX;F;FP;EOT;FX;F;FP;EEX;F;FP;EUT;FX;F;FP;FRX;G;CHNIT;FX;F;FP;FET;GX;G;GP;EAT;FX;
F;FP;EUOX;G;EOT;FX;FP;EEX;F;FP;EUT;CNIT;EX;E;EP;EEX;F;FP;DAX;E;EP;DUOX;F;FP;DOT;EX;E;EP;DEX;E;EP;DUT;EX;E;EP;ERX;F;
CHLIT;FX;F;FP;FEX;G;GP;EAT;FX;F;FP;EUOX;G;GP;EOX;F;FP;EEX;F;FP;EUT;FX;F;FP;FRX;G;EYT;FX;F;FP;FRX;G;CLIT;EX;E;EP;EET;FX;
F;FP;DAT;EX;E;EP;DUOT;FX;F;FP;DOT;EX;E;EP;DEX;E;EP;DUT;EX;E;EP;ERX;F;DYT;EX;E;EP;ERX;F;CGIT;EX;E;EP;EET;FX;F;FP;DAT;EX;
E;EP;DUOT;FX;F;FP;DOT;EX;E;EP;DET;EX;E;EP;DUT;EX;E;EP;ERX;F;CKIT;EX;E;EP;EEX;F;FP;DAT;EX;E;EP;DUOX;F;FP;DOT;EX;E;EP;
DET;EX;E;EP;DUT;EX;E;EP;ERX;F;CGGIT;FX;F;FEX;G;GP;EAT;FX;F;FP;EUOT;GX;G;GP;EOT;FX;F;FP;EET;FX;F;FP;EUT;FX;F;FP;FRX;G;
CMGIEX;G;EAT;FX;F;FP;EUOX;G;GP;EOT;FX;F;FP;EEX;F;FP;EUT;FX;F;FP;FRX;G;CHXIT;FX;F;FP;FET;GX;G;GP;EAT;FX;F;FP;EUOT;GX;G;
GP;EOT;FX;F;FP;EEX;F;FP;CNGIEX;G;GP;EAT;FX;F;FP;EUOT;GX;G;EOT;FX;F;FP;EEX;F;FP;CHIT;EEX;F;DAT;EX;E;EP;DUOT;FX;F;FP;DOT;
EX;E;EP;DEX;E;EP;CWAT;EX;E;EP;DUOX;F;FP;DOX;E;EP;DEX;E;EP;CZIT;EX;E;EP;EEX;F;FP;DAT;EX;E;EP;DUOX;F;FP;DOT;EX;E;EP;DEX;
E;EP;DUT;EX;E;EP;ERX;F;DYT;EX;E;EP;ERX;F;CCIT;EX;E;EP;EET;FX;F;FP;DAT;EX;E;EP;DUOX;F;FP;DOT;EX;E;EP;DEX;E;EP;DUT;EX;E;
EP;ERX;F;DYT;EX;E;EP;ERX;F;CZZIT;FX;F;FP;FET;GX;G;GP;EAT;FX;F;FP;EOX;F;FP;EEX;F;FP;EUX;F;FP;FRX;G;EYT;FX;F;FP;FRX;G;
CNZIT;FX;F;FP;FEX;G;GP;EAT;FX;F;FP;EUOX;G;EOX;FP;EEX;F;EUX;F;FP;FRX;G;EYT;FX;F;FP;FRX;G;CSIT;EX;E;EP;EEX;F;FP;DAT;EX;E;
EP;DUOX;F;FP;DOT;EX;E;EP;DEX;E;EP;DUT;EX;E;EP;ERX;F;DYT;EX;E;EP;ERX;F;DSIT;FX;F;FP;FEX;G;GP;EAT;FX;F;FP;EOT;FX;F;FP;
EEX;F;FP;EUT;FX;F;FP;EYT;FX;F;FP;FRX;G;CZHAT;FX;F;FP;EUOX;G;GP;EOT;FX;F;FP;EET;FX;F;FP;EUT;FX;F;FP;FRX;G;EYT;FX;F;FP;
FRX;G;CCHAT;FX;F;FP;EUOT;GX;G;GP;EOT;FX;F;FP;EET;FX;F;FP;EUX;F;FP;FRX;G;EYT;FX;F;FP;FRX;G;CRRAX;F;EUOX;G;EOT;FX;F;FP;
EET;FX;F;FP;EUT;FX;F;FP;FRX;G;EYT;FX;F;FP;FRX;G;CNRAT;FX;F;FP;EOX;F;FP;EET;FX;F;FP;EUT;FX;F;FP;FRX;G;EYT;FX;F;FP;FRX;G;
CSHAT;FX;F;FP;EUOX;G;GP;EOT;FX;F;FP;EET;FX;F;FP;EUT;FX;F;FP;FRX;G;EYT;FX;F;FP;FRX;G;CRAT;EX;E;EP;DUOX;F;FP;DOT;EX;E;EP;
DEX;E;EP;DUT;EX;E;EP;ERX;F;DYT;EX;E;EP;ERX;F;CJIT;EX;E;EP;EET;FX;F;FP;DUOT;FX;F;FP;DOT;EX;E;EP;DUT;EX;E;EP;ERX;F;DYT;
EX;E;EP;ERX;F;CQIT;EX;E;EP;EET;FX;F;FP;DUOT;FX;F;FP;DOT;EX;E;EP;DUT;EX;E;EP;ERX;F;DYT;EX;E;EP;ERX;F;CJJIT;FX;F;FP;FET;
GX;G;GP;EUOX;G;GP;EOT;FX;F;FP;EUT;FX;F;FP;FRX;G;EYT;FX;F;FP;CNJIT;FX;F;FP;FET;GX;G;GP;EUOX;G;EOT;FX;F;FP;EUX;F;FP;FRX;
G;EYT;FX;F;FP;FRX;G;DYIT;FX;F;FP;FET;GX;G;GP;EUOX;G;GP;EOT;FX;F;FP;EUT;FX;F;FP;CXIT;EX;E;EP;EET;FX;F;FP;DUOX;F;DOT;EX;
E;EP;DYT;EX;E;EP;ERX;F;CYIT;EX;E;EP;EET;FX;F;FP;DUOT;FX;F;FP;DOT;EX;E;EP;DUT;EX;E;EP;ERX;F;DYT;EX;E;EP;ERX;F;@A490;
3RADICAL QOT;BLI;BKIT;BNYIP;BCYP;BSSI;BGGOP;CEP;BMI;BHXIT;BLYR;BBBUT;BMOP;BYO;BPUT;BHXUO;BTAT;BGA;BZUP;BCYT;BDDUR;BBUR;
BGGUO;BNYOP;BTU;BOP;BJJUT;BZOT;BPYT;BHMO;BYIT;BVUR;BSHY;BVEP;BZA;BJO;BNZUP;BJJY;BGOT;BJJIE;BWO;BDU;BSHUR;BLIE;BCY;CUOP;
CIP;BHXOP;BSHAT;BZUR;BSHOP;BCHE;BZZIET;BNBIE;BKE;@A4D0;0LISU LETTER BA;CPA;DHA;CDA;CTA;DHA;CGA;CKA;DHA;CJA;CCA;DHA;
CDZA;CTSA;EHA;CMA;CNA;CLA;CSA;CZHA;DA;CNGA;CHA;CXA;CHHA;CFA;CWA;CSHA;CYA;CGHA;CA;DE;CE;DU;CI;CO;CU;DE;DH;COE;
CTONE MYA TI;HNA PO;HMYA CYA;LBO;LNA;LJEU;5PUNCTUATION COMMA;HFULL STOP;0VAI SYLLABLE EE;FN;DHEE;DWEE;GN;DPEE;DBHEE;
EEE;DMBEE;DKPEE;DMGBEE;DGBEE;DFEE;DVEE;DTEE;EHEE;DDHEE;FHEE;DLEE;DREE;DDEE;DNDEE;DSEE;EHEE;DZEE;EHEE;DCEE;DJEE;DNJEE;
DYEE;DKEE;DNGGEE;DGEE;DMEE;DNEE;EYEE;DI;EN;DHI;FN;DWI;FN;DPI;DBHI;EI;DMBI;DKPI;DMGBI;DGBI;DFI;DVI;DTI;EHI;DDHI;FHI;DLI;
DRI;DDI;DNDI;DSI;EHI;DZI;EHI;DCI;DJI;DNJI;DYI;DKI;DNGGI;DGI;DMI;DNI;EYI;DA;EN;DNGAN;DHA;FN;DWA;FN;DPA;DBHA;EA;DMBA;
DKPA;GN;DMGBA;DGBA;DFA;DVA;DTA;EHA;DDHA;FHA;DLA;DRA;DDA;DNDA;DSA;EHA;DZA;EHA;DCA;DJA;DNJA;DYA;DKA;FN;DNGGA;DGA;DMA;DNA;
EYA;DOO;FN;DHOO;DWOO;GN;DPOO;DBHOO;EOO;DMBOO;DKPOO;DMGBOO;DGBOO;DFOO;DVOO;DTOO;EHOO;DDHOO;FHOO;DLOO;DROO;DDOO;DNDOO;
DSOO;EHOO;DZOO;EHOO;DCOO;DJOO;DNJOO;DYOO;DKOO;DNGGOO;DGOO;DMOO;DNOO;EYOO;DU;EN;DHU;FN;DWU;FN;DPU;DBHU;EU;DMBU;DKPU;
DMGBU;DGBU;DFU;DVU;DTU;EHU;DDHU;FHU;DLU;DRU;DDU;DNDU;DSU;EHU;DZU;EHU;DCU;DJU;DNJU;DYU;DKU;DNGGU;DGU;DMU;DNU;EYU;DO;EN;
DNGON;DHO;FN;DWO;FN;DPO;DBHO;EO;DMBO;DKPO;DMGBO;DGBO;GN;DFO;DVO;DTO;EHO;DDHO;FHO;DLO;DRO;DDO;DNDO;DSO;EHO;DZO;EHO;DCO;
DJO;DNJO;DYO;DKO;DNGGO;DGO;DMO;DNO;EYO;DE;EN;DNGEN;DHE;FN;DWE;FN;DPE;DBHE;EE;DMBE;DKPE;GN;DMGBE;DGBE;GN;DFE;DVE;DTE;
EHE;DDHE;FHE;DLE;DRE;DDE;DNDE;DSE;EHE;DZE;EHE;DCE;DJE;DNJE;DYE;DKE;DNGGE;HN;DGE;FN;DME;DNE;EYE;EG;DLENGTHENER;4COMMA;
4FULL STOP;4QUESTION MARK;4SYLLABLE NDOLE FA;JKA;JSOO;6MBOL FEENG;BKEENG;BTING;BNII;BBANG;BFAA;BTAA;BDANG;COONG;BKUNG;
BTONG;BDO-O;BJONG;4DIGIT ZERO;AONE;ATWO;BHREE;AFOUR;BIVE;ASIX;BEVEN;AEIGHT;ANINE;4SYLLABLE NDOLE MA;JDO;@A640;
0CYRILLIC CAPITAL LETTER ZEMLYA;9SMALL LETTER ZEMLYA;9CAPITAL LETTER DZELO;9SMALL LETTER DZELO;
9CAPITAL LETTER REVERSED DZE;9SMALL LETTER REVERSED DZE;9CAPITAL LETTER IOTA;9SMALL LETTER IOTA;9CAPITAL LETTER DJERV;
9SMALL LETTER DJERV;9CAPITAL LETTER MONOGRAPH UK;9SMALL LETTER MONOGRAPH UK;9CAPITAL LETTER BROAD OMEGA;
9SMALL LETTER BROAD OMEGA;9CAPITAL LETTER NEUTRAL YER;9SMALL LETTER NEUTRAL YER;9CAPITAL LETTER YERU WITH BACK YER;
9SMALL LETTER YERU WITH BACK YER;9CAPITAL LETTER IOTIFIED YAT;9SMALL LETTER IOTIFIED YAT;9CAPITAL LETTER REVERSED YU;
9SMALL LETTER REVERSED YU;9CAPITAL LETTER IOTIFIED A;9SMALL LETTER IOTIFIED A;9CAPITAL LETTER CLOSED LITTLE YUS;
9SMALL LETTER CLOSED LITTLE YUS;9CAPITAL LETTER BLENDED YUS;9SMALL LETTER BLENDED YUS;
9CAPITAL LETTER IOTIFIED CLOSED LITTLE YUS;9SMALL LETTER IOTIFIED CLOSED LITTLE YUS;9CAPITAL LETTER YN;
9SMALL LETTER YN;9CAPITAL LETTER REVERSED TSE;9SMALL LETTER REVERSED TSE;9CAPITAL LETTER SOFT DE;9SMALL LETTER SOFT DE;
9CAPITAL LETTER SOFT EL;9SMALL LETTER SOFT EL;9CAPITAL LETTER SOFT EM;9SMALL LETTER SOFT EM;
9CAPITAL LETTER MONOCULAR O;9SMALL LETTER MONOCULAR O;9CAPITAL LETTER BINOCULAR O;9SMALL LETTER BINOCULAR O;
9CAPITAL LETTER DOUBLE MONOCULAR O;9SMALL LETTER DOUBLE MONOCULAR O;9LETTER MULTIOCULAR O;1OMBINING CYRILLIC VZMET;
JTEN MILLIONS SIGN;JHUNDRED MILLIONS SIGN;JTHOUSAND MILLIONS SIGN;0SLAVONIC ASTERISK;
0COMBINING CYRILLIC LETTER UKRAINIAN IE;QI;QYI;QU;QHARD SIGN;QYERU;QSOFT SIGN;QOMEGA;JKAVYKA;JPAYEROK;1YRILLIC KAVYKA;
9PAYEROK;9CAPITAL LETTER DWE;9SMALL LETTER DWE;9CAPITAL LETTER DZWE;9SMALL LETTER DZWE;9CAPITAL LETTER ZHWE;
9SMALL LETTER ZHWE;9CAPITAL LETTER CCHE;9SMALL LETTER CCHE;9CAPITAL LETTER DZZE;9SMALL LETTER DZZE;
9CAPITAL LETTER TE WITH MIDDLE HOOK;9SMALL LETTER TE WITH MIDDLE HOOK;9CAPITAL LETTER TWE;9SMALL LETTER TWE;
9CAPITAL LETTER TSWE;9SMALL LETTER TSWE;9CAPITAL LETTER TSSE;9SMALL LETTER TSSE;9CAPITAL LETTER TCHE;
9SMALL LETTER TCHE;9CAPITAL LETTER HWE;9SMALL LETTER HWE;9CAPITAL LETTER SHWE;9SMALL LETTER SHWE;
9CAPITAL LETTER DOUBLE O;9SMALL LETTER DOUBLE O;9CAPITAL LETTER CROSSED O;9SMALL LETTER CROSSED O;
0MODIFIER LETTER CYRILLIC HARD SIGN;PSOFT SIGN;0COMBINING CYRILLIC LETTER EF;QIOTIFIED E;0BAMUM LETTER A;DKA;DU;DKU;
DEE;DREE;DTAE;DO;DNYI;DI;DLA;DPA;DRII;FEE;DLEEEE;DMEEEE;DTAA;DNDAA;EJAEM;DM;DSUU;DMU;DSHII;EI;EHEUX;EEUX;DKYEE;EET;
DNUAE;F;EJUAE;DYOQ;DSHU;DYUQ;EA;DNSHA;DKEUX;DPEUX;DNJEE;ETEE;DPUE;DWUE;DPEE;DFEE;DRU;DLU;DMI;DNI;DREUX;EAE;DKEN;
DNGKWAEN;FGA;FA;DSHO;DPUAE;DFU;EOM;DWA;DNA;DLI;DPI;DLOQ;DKO;DMBEN;DREN;DMEN;EA;DTI;DKI;DMO;EBAA;DTET;DKPA;DTEN;DNTUU;
DSAMBA;DFAAMAE;DKOVUU;FGHOM;6COMBINING MARK KOQNDON;LTUKWENTIS;6NJAEMLI;6FULL STOP;6COLON;8MMA;6SEMICOLON;
6QUESTION MARK;@A700;0MODIFIER LETTER CHINESE TONE YIN PING;UANG PING;UIN SHANG;UANG SHANG;UIN QU;UANG QU;UIN RU;
UANG RU;GEXTRA-HIGH DOTTED TONE BAR;GHIGH DOTTED TONE BAR;GMID DOTTED TONE BAR;GLOW DOTTED TONE BAR;
GEXTRA-LOW DOTTED TONE BAR;MHIGH DOTTED LEFT-STEM TONE BAR;GHIGH DOTTED LEFT-STEM TONE BAR;
GMID DOTTED LEFT-STEM TONE BAR;GLOW DOTTED LEFT-STEM TONE BAR;GEXTRA-LOW DOTTED LEFT-STEM TONE BAR;
MHIGH LEFT-STEM TONE BAR;GHIGH LEFT-STEM TONE BAR;GMID LEFT-STEM TONE BAR;GLOW LEFT-STEM TONE BAR;
GEXTRA-LOW LEFT-STEM TONE BAR;GDOT VERTICAL BAR;KSLASH;KHORIZONTAL BAR;GLOWER RIGHT CORNER ANGLE;GRAISED UP ARROW;
NDOWN ARROW;NEXCLAMATION MARK;NINVERTED EXCLAMATION MARK;GLOW INVERTED EXCLAMATION MARK;GSTRESS AND HIGH TONE;
RLOW TONE;0LATIN CAPITAL LETTER EGYPTOLOGICAL ALEF;6SMALL LETTER EGYPTOLOGICAL ALEF;6CAPITAL LETTER EGYPTOLOGICAL AIN;
6SMALL LETTER EGYPTOLOGICAL AIN;6CAPITAL LETTER HENG;6SMALL LETTER HENG;6CAPITAL LETTER TZ;6SMALL LETTER TZ;
6CAPITAL LETTER TRESILLO;6SMALL LETTER TRESILLO;6CAPITAL LETTER CUATRILLO;6SMALL LETTER CUATRILLO;
6CAPITAL LETTER CUATRILLO WITH COMMA;6SMALL LETTER CUATRILLO WITH COMMA;6LETTER SMALL CAPITAL F;RS;6CAPITAL LETTER AA;
6SMALL LETTER AA;6CAPITAL LETTER AO;6SMALL LETTER AO;6CAPITAL LETTER AU;6SMALL LETTER AU;6CAPITAL LETTER AV;
6SMALL LETTER AV;6CAPITAL LETTER AV WITH HORIZONTAL BAR;6SMALL LETTER AV WITH HORIZONTAL BAR;6CAPITAL LETTER AY;
6SMALL LETTER AY;6CAPITAL LETTER REVERSED C WITH DOT;6SMALL LETTER REVERSED C WITH DOT;6CAPITAL LETTER K WITH STROKE;
6SMALL LETTER K WITH STROKE;6CAPITAL LETTER K WITH DIAGONAL STROKE;6SMALL LETTER K WITH DIAGONAL STROKE;
6CAPITAL LETTER K WITH STROKE AND DIAGONAL STROKE;6SMALL LETTER K WITH STROKE AND DIAGONAL STROKE;
6CAPITAL LETTER BROKEN L;6SMALL LETTER BROKEN L;6CAPITAL LETTER L WITH HIGH STROKE;6SMALL LETTER L WITH HIGH STROKE;
6CAPITAL LETTER O WITH LONG STROKE OVERLAY;6SMALL LETTER O WITH LONG STROKE OVERLAY;6CAPITAL LETTER O WITH LOOP;
6SMALL LETTER O WITH LOOP;6CAPITAL LETTER OO;6SMALL LETTER OO;6CAPITAL LETTER P WITH STROKE THROUGH DESCENDER;
6SMALL LETTER P WITH STROKE THROUGH DESCENDER;6CAPITAL LETTER P WITH FLOURISH;6SMALL LETTER P WITH FLOURISH;
6CAPITAL LETTER P WITH SQUIRREL TAIL;6SMALL LETTER P WITH SQUIRREL TAIL;
6CAPITAL LETTER Q WITH STROKE THROUGH DESCENDER;6SMALL LETTER Q WITH STROKE THROUGH DESCENDER;
6CAPITAL LETTER Q WITH DIAGONAL STROKE;6SMALL LETTER Q WITH DIAGONAL STROKE;6CAPITAL LETTER R ROTUNDA;
6SMALL LETTER R ROTUNDA;6CAPITAL LETTER RUM ROTUNDA;6SMALL LETTER RUM ROTUNDA;6CAPITAL LETTER V WITH DIAGONAL STROKE;
6SMALL LETTER V WITH DIAGONAL STROKE;6CAPITAL LETTER VY;6SMALL LETTER VY;6CAPITAL LETTER VISIGOTHIC Z;
6SMALL LETTER VISIGOTHIC Z;6CAPITAL LETTER THORN WITH STROKE;6SMALL LETTER THORN WITH STROKE;
6CAPITAL LETTER THORN WITH STROKE THROUGH DESCENDER;6SMALL LETTER THORN WITH STROKE THROUGH DESCENDER;
6CAPITAL LETTER VEND;6SMALL LETTER VEND;6CAPITAL LETTER ET;6SMALL LETTER ET;6CAPITAL LETTER IS;6SMALL LETTER IS;
6CAPITAL LETTER CON;6SMALL LETTER CON;0MODIFIER LETTER US;0LATIN SMALL LETTER DUM;JLUM;JMUM;JNUM;JRUM;
6LETTER SMALL CAPITAL RUM;6SMALL LETTER TUM;JUM;6CAPITAL LETTER INSULAR D;6SMALL LETTER INSULAR D;
6CAPITAL LETTER INSULAR F;6SMALL LETTER INSULAR F;6CAPITAL LETTER INSULAR G;LTURNED INSULAR G;
6SMALL LETTER TURNED INSULAR G;6CAPITAL LETTER TURNED L;6SMALL LETTER TURNED L;6CAPITAL LETTER INSULAR R;
6SMALL LETTER INSULAR R;6CAPITAL LETTER INSULAR S;6SMALL LETTER INSULAR S;6CAPITAL LETTER INSULAR T;
6SMALL LETTER INSULAR T;0MODIFIER LETTER LOW CIRCUMFLEX ACCENT;GCOLON;GSHORT EQUALS SIGN;
0LATIN CAPITAL LETTER SALTILLO;6SMALL LETTER SALTILLO;6CAPITAL LETTER TURNED H;
6SMALL LETTER L WITH RETROFLEX HOOK AND BELT;6LETTER SINOLOGICAL DOT;6CAPITAL LETTER N WITH DESCENDER;
6SMALL LETTER N WITH DESCENDER;6CAPITAL LETTER C WITH BAR;6SMALL LETTER C WITH BAR;QPALATAL HOOK;JH WITH PALATAL HOOK;
6CAPITAL LETTER B WITH FLOURISH;6SMALL LETTER B WITH FLOURISH;6CAPITAL LETTER F WITH STROKE;
6SMALL LETTER F WITH STROKE;6CAPITAL LETTER VOLAPUK AE;6SMALL LETTER VOLAPUK AE;6CAPITAL LETTER VOLAPUK OE;
6SMALL LETTER VOLAPUK OE;6CAPITAL LETTER VOLAPUK UE;6SMALL LETTER VOLAPUK UE;6CAPITAL LETTER G WITH OBLIQUE STROKE;
6SMALL LETTER G WITH OBLIQUE STROKE;6CAPITAL LETTER K WITH OBLIQUE STROKE;6SMALL LETTER K WITH OBLIQUE STROKE;
6CAPITAL LETTER N WITH OBLIQUE STROKE;6SMALL LETTER N WITH OBLIQUE STROKE;6CAPITAL LETTER R WITH OBLIQUE STROKE;
6SMALL LETTER R WITH OBLIQUE STROKE;6CAPITAL LETTER S WITH OBLIQUE STROKE;6SMALL LETTER S WITH OBLIQUE STROKE;
6CAPITAL LETTER H WITH HOOK;LREVERSED OPEN E;LSCRIPT G;LL WITH BELT;LSMALL CAPITAL I;6LETTER SMALL CAPITAL Q;
6CAPITAL LETTER TURNED K;ST;LJ WITH CROSSED-TAIL;LCHI;LBETA;6SMALL LETTER BETA;6CAPITAL LETTER OMEGA;
6SMALL LETTER OMEGA;6CAPITAL LETTER U WITH STROKE;6SMALL LETTER U WITH STROKE;6CAPITAL LETTER GLOTTAL A;
6SMALL LETTER GLOTTAL A;6CAPITAL LETTER GLOTTAL I;6SMALL LETTER GLOTTAL I;6CAPITAL LETTER GLOTTAL U;
6SMALL LETTER GLOTTAL U;6CAPITAL LETTER OLD POLISH O;6SMALL LETTER OLD POLISH O;6CAPITAL LETTER ANGLICANA W;
6SMALL LETTER ANGLICANA W;6CAPITAL LETTER C WITH PALATAL HOOK;LS WITH HOOK;LZ WITH PALATAL HOOK;
LD WITH SHORT STROKE OVERLAY;6SMALL LETTER D WITH SHORT STROKE OVERLAY;6CAPITAL LETTER S WITH SHORT STROKE OVERLAY;
6SMALL LETTER S WITH SHORT STROKE OVERLAY;@A7D0;6CAPITAL LETTER CLOSED INSULAR G;6SMALL LETTER CLOSED INSULAR G;@A7D3;
JDOUBLE THORN;@A7D5;QWYNN;6CAPITAL LETTER MIDDLE SCOTS S;6SMALL LETTER MIDDLE SCOTS S;6CAPITAL LETTER SIGMOID S;
6SMALL LETTER SIGMOID S;@A7F2;0MODIFIER LETTER CAPITAL C;OF;OQ;0LATIN CAPITAL LETTER REVERSED HALF H;
6SMALL LETTER REVERSED HALF H;6EPIGRAPHIC LETTER SIDEWAYS I;0MODIFIER LETTER CAPITAL H WITH STROKE;GSMALL LIGATURE OE;
0LATIN LETTER SMALL CAPITAL TURNED M;6EPIGRAPHIC LETTER REVERSED F;XP;OINVERTED M;P LONGA;OARCHAIC M;
0SYLOTI NAGRI LETTER A;KI;DSIGN DVISVARA;DLETTER U;KE;KO;DSIGN HASANTA;DLETTER KO;LHO;KGO;LHO;DSIGN ANUSVARA;
DLETTER CO;LHO;KJO;LHO;KTTO;MHO;KDDO;MHO;KTO;LHO;KDO;LHO;KNO;KPO;LHO;KBO;LHO;KMO;KRO;KLO;KRRO;KSO;KHO;DVOWEL SIGN A;OI;
OU;OE;OOO;DPOETRY MARK-1;P2;P3;P4;DSIGN ALTERNATE HASANTA;@A830;0NORTH INDIC FRACTION ONE QUARTER;PHALF;
LTHREE QUARTERS;LONE SIXTEENTH;PEIGHTH;LTHREE SIXTEENTHS;CQUARTER MARK;CPLACEHOLDER MARK;CRUPEE MARK;CQUANTITY MARK;
@A840;0PHAGS-PA LETTER KA;HHA;GGA;GNGA;GCA;HHA;GJA;GNYA;GTA;HHA;GDA;GNA;GPA;HHA;GBA;GMA;GTSA;IHA;GDZA;GWA;GZHA;HA;
GSMALL A;GYA;GRA;GLA;GSHA;HA;GHA;GA;GI;GU;GE;GO;GQA;GXA;GFA;GGGA;GEE;9SUBJOINED LETTER WA;QYA;9LETTER TTA;IHA;GDDA;
GNNA;GALTERNATE YA;GVOICELESS SHA;LD HA;GASPIRATED FA;9SUBJOINED LETTER RA;BPERFIXED LETTER RA;9LETTER CANDRABINDU;
9SINGLE HEAD MARK;9DOUBLE HEAD MARK;9MARK SHAD;EDOUBLE SHAD;@A880;0SAURASHTRA SIGN ANUSVARA;GVISARGA;BLETTER A;JA;II;
JI;IU;JU;IVOCALIC R;RR;QL;RL;IE;JE;IAI;IO;JO;IAU;IKA;JHA;IGA;JHA;INGA;ICA;JHA;IJA;JHA;INYA;ITTA;KHA;IDDA;KHA;INNA;ITA;
JHA;IDA;JHA;INA;IPA;JHA;IBA;JHA;IMA;IYA;IRA;ILA;IVA;ISHA;JSA;JA;IHA;ILLA;BCONSONANT SIGN HAARU;BVOWEL SIGN AA;MI;NI;MU;
NU;MVOCALIC R;VR;UL;VL;ME;NE;MAI;MO;NO;MAU;BSIGN VIRAMA;GCANDRABINDU;@A8CE;BDANDA;COUBLE DANDA;CIGIT ZERO;HONE;HTWO;
IHREE;HFOUR;IIVE;HSIX;IEVEN;HEIGHT;HNINE;@A8E0;0COMBINING DEVANAGARI DIGIT ZERO;RONE;RTWO;SHREE;RFOUR;SIVE;RSIX;SEVEN;
REIGHT;RNINE;LLETTER A;SU;SKA;SNA;SPA;SRA;SVI;LSIGN AVAGRAHA;0DEVANAGARI SIGN SPACING CANDRABINDU;GCANDRABINDU VIRAMA;
GDOUBLE CANDRABINDU VIRAMA;GCANDRABINDU TWO;THREE;SAVAGRAHA;GPUSHPIKA;BGAP FILLER;BCARET;BHEADSTROKE;BSIGN SIDDHAM;
BJAIN OM;BLETTER AY;BVOWEL SIGN AY;0KAYAH LI DIGIT ZERO;FONE;FTWO;GHREE;FFOUR;GIVE;FSIX;GEVEN;FEIGHT;FNINE;9LETTER KA;
HHA;GGA;GNGA;GSA;HHA;GZA;GNYA;GTA;GHTA;GNA;GPA;HHA;GMA;GDA;GBA;GRA;GYA;GLA;GWA;GTHA;GHA;GVA;GCA;GA;GOE;GI;GOO;
9VOWEL UE;FE;FU;FEE;FO;9TONE PLOPHU;ECALYA;J PLOPHU;9SIGN CWI;ESHYA;0REJANG LETTER KA;EGA;ENGA;ETA;EDA;ENA;EPA;EBA;EMA;
ECA;EJA;ENYA;ESA;ERA;ELA;EYA;EWA;EHA;EMBA;ENGGA;FDA;FYJA;EA;7VOWEL SIGN I;IU;IE;IAI;IO;IAU;IEU;JA;7CONSONANT SIGN NG;N;
MR;MH;7VIRAMA;@A95F;7SECTION MARK;0HANGUL CHOSEONG TIKEUT-MIEUM;NPIEUP;NSIOS;NCIEUC;GRIEUL-KIYEOK;MSSANGKIYEOK;MTIKEUT;
MSSANGTIKEUT;MMIEUM;MPIEUP;MSSANGPIEUP;MKAPYEOUNPIEUP;MSIOS;MCIEUC;MKHIEUKH;GMIEUM-KIYEOK;MTIKEUT;MSIOS;
GPIEUP-SIOS-THIEUTH;MKHIEUKH;MHIEUH;GSSANGSIOS-PIEUP;GIEUNG-RIEUL;MHIEUH;GSSANGCIEUC-HIEUH;LTHIEUTH;GPHIEUPH-HIEUH;
GHIEUH-SIOS;GSSANGYEORINHIEUH;@A980;0JAVANESE SIGN PANYANGGA;ECECAK;ELAYAR;EWIGNYAN;9LETTER A;GI KAWI;H;HI;GU;
GPA CEREK;GNGA LELET;P RASWADI;GE;GAI;GO;GKA;I SASAK;JMURDA;GGA;I MURDA;GNGA;GCA;I MURDA;GJA;GNYA MURDA;GJA MAHAPRANA;
GNYA;GTTA;J MAHAPRANA;GDDA;J MAHAPRANA;GNA MURDA;GTA;I MURDA;GDA;I MAHAPRANA;GNA;GPA;I MURDA;GBA;I MURDA;GMA;GYA;GRA;
I AGUNG;GLA;GWA;GSA MURDA;KAHAPRANA;I;GHA;9SIGN CECAK TELU;9VOWEL SIGN TARUNG;LOLONG;KWULU;O MELIK;KSUKU;O MENDUT;
KTALING;KDIRGA MURE;KPEPET;9CONSONANT SIGN KERET;OPENGKAL;OCAKRA;9PANGKON;9LEFT RERENGGAN;9RIGHT RERENGGAN;9PADA ANDAP;
EMADYA;ELUHUR;EWINDU;EPANGKAT;ELINGSA;FUNGSI;EADEG;I ADEG;EPISELEH;9TURNED PADA PISELEH;@A9CF;9PANGRANGKEP;9DIGIT ZERO;
FONE;FTWO;GHREE;FFOUR;GIVE;FSIX;GEVEN;FEIGHT;FNINE;@A9DE;9PADA TIRTA TUMETES;EISEN-ISEN;0MYANMAR LETTER SHAN GHA;KCHA;
KJHA;KNNA;KBHA;8SIGN SHAN SAW;8MODIFIER LETTER SHAN REDUPLICATION;8LETTER TAI LAING NYA;PFA;PGA;QHA;PJA;QHA;PDDA;RHA;
PNNA;8TAI LAING DIGIT ZERO;OONE;OTWO;PHREE;OFOUR;PIVE;OSIX;PEVEN;OEIGHT;ONINE;8LETTER TAI LAING LLA;PDA;QHA;PBA;QHA;
@AA00;0CHAM LETTER A;CI;CU;CE;CAI;CO;CKA;DHA;CGA;DHA;CNGUE;EA;CCHA;EHA;CJA;DHA;CNHUE;EA;EJA;CTA;DHA;CDA;DHA;CNUE;DA;
CDDA;CPA;DPA;DHA;CBA;DHA;CMUE;DA;CBBA;CYA;CRA;CLA;CVA;CSSA;DA;CHA;5VOWEL SIGN AA;GI;HI;GEI;GU;GOE;H;GAI;HU;GUE;
5CONSONANT SIGN YA;KRA;KLA;KWA;@AA40;5LETTER FINAL K;IG;ING;5CONSONANT SIGN FINAL NG;5LETTER FINAL CH;IT;IN;IP;IY;IR;
IL;ISS;5CONSONANT SIGN FINAL M;QH;@AA50;5DIGIT ZERO;BONE;BTWO;CHREE;BFOUR;CIVE;BSIX;CEVEN;BEIGHT;BNINE;@AA5C;
5PUNCTUATION SPIRAL;HDANDA;IOUBLE DANDA;HTRIPLE DANDA;0MYANMAR LETTER KHAMTI GA;MCA;NHA;MJA;NHA;MNYA;MTTA;OHA;MDDA;OHA;
NHA;MNA;MSA;MHA;NHA;MFA;8MODIFIER LETTER KHAMTI REDUPLICATION;8LETTER KHAMTI XA;MZA;MRA;9OGOGRAM KHAMTI OAY;OQN;OHM;
8SYMBOL AITON EXCLAMATION;LONE;LTWO;8LETTER AITON RA;8SIGN PAO KAREN TONE;DTAI LAING TONE-2;S5;
8LETTER SHWE PALAUNG CHA;SSHA;0TAI VIET LETTER LOW KO;GHIGH KO;GLOW KHO;GHIGH KHO;GLOW KHHO;GHIGH KHHO;GLOW GO;
GHIGH GO;GLOW NGO;GHIGH NGO;GLOW CO;GHIGH CO;GLOW CHO;GHIGH CHO;GLOW SO;GHIGH SO;GLOW NYO;GHIGH NYO;GLOW DO;GHIGH DO;
GLOW TO;GHIGH TO;GLOW THO;GHIGH THO;GLOW NO;GHIGH NO;GLOW BO;GHIGH BO;GLOW PO;GHIGH PO;GLOW PHO;GHIGH PHO;GLOW FO;
GHIGH FO;GLOW MO;GHIGH MO;GLOW YO;GHIGH YO;GLOW RO;GHIGH RO;GLOW LO;GHIGH LO;GLOW VO;GHIGH VO;GLOW HO;GHIGH HO;GLOW O;
GHIGH O;9MAI KANG;9VOWEL AA;FI;FUE;G;FE;FO;9MAI KHIT;9VOWEL IA;FUEA;GA;FAUE;GY;GN;GM;9TONE MAI EK;INUENG;ITHO;ISONG;
@AADB;9SYMBOL KON;GNUENG;GSAM;GHO HOI;GKOI KOI;0MEETEI MAYEK LETTER E;KO;KCHA;KNYA;KTTA;MHA;KDDA;MHA;KNNA;KSHA;LSA;
DVOWEL SIGN II;OUU;OAAI;PU;PAU;DCHEIKHAN;DAHANG KHUDAM;ENJI;DSYLLABLE REPETITION MARK;DWORD REPETITION MARK;
DVOWEL SIGN VISARGA;EIRAMA;@AB01;0ETHIOPIC SYLLABLE TTHU;LI;LAA;LEE;M;LO;@AB09;IDDHU;LI;LAA;LEE;M;LO;@AB11;JZU;KI;KAA;
KEE;L;KO;@AB20;ICCHHA;MU;MI;MAA;MEE;N;MO;@AB28;IBBA;KU;KI;KAA;KEE;L;KO;@AB30;0LATIN SMALL LETTER BARRED ALPHA;
JA REVERSED-SCHWA;JBLACKLETTER E;KARRED E;JE WITH FLOURISH;JLENIS F;JSCRIPT G WITH CROSSED-TAIL;
JL WITH INVERTED LAZY S;QDOUBLE MIDDLE TILDE;QMIDDLE RING;JM WITH CROSSED-TAIL;JN WITH CROSSED-TAIL;
JENG WITH CROSSED-TAIL;JBLACKLETTER O;W WITH STROKE;JOPEN O WITH STROKE;JINVERTED OE;JTURNED OE WITH STROKE;
YHORIZONTAL STROKE;R OPEN-O;Y WITH STROKE;JSTIRRUP R;6LETTER SMALL CAPITAL R WITH RIGHT LEG;
6SMALL LETTER R WITHOUT HANDLE;JDOUBLE R;JR WITH CROSSED-TAIL;JDOUBLE R WITH CROSSED-TAIL;JSCRIPT R;R WITH RING;
JBASELINE ESH;JU WITH SHORT RIGHT LEG;LBAR WITH SHORT RIGHT LEG;KI;JTURNED UI;JU WITH LEFT HOOK;JCHI;
M WITH LOW RIGHT RING;WLEFT SERIF;JX WITH LOW RIGHT RING;SNG LEFT LEG;d AND LOW RIGHT RING;eWITH SERIF;
JY WITH SHORT RIGHT LEG;0MODIFIER BREVE WITH INVERTED BREVE;9LETTER SMALL HENG;ML WITH INVERTED LAZY S;TMIDDLE TILDE;
MU WITH LEFT HOOK;0LATIN SMALL LETTER SAKHA YAT;JIOTIFIED E;JOPEN OE;JUO;JINVERTED ALPHA;
0GREEK LETTER SMALL CAPITAL OMEGA;0LATIN SMALL LETTER DZ DIGRAPH WITH RETROFLEX HOOK;JTS DIGRAPH WITH RETROFLEX HOOK;
KURNED R WITH MIDDLE TILDE;0MODIFIER LETTER SMALL TURNED W;GLEFT TACK;GRIGHT TACK;@AB70;0CHEROKEE SMALL LETTER A;ME;MI;
MO;MU;MV;MGA;MKA;MGE;NI;NO;NU;NV;MHA;NE;NI;NO;NU;NV;MLA;NE;NI;NO;NU;NV;MMA;NE;NI;NO;NU;MNA;MHNA;MNAH;NE;NI;NO;NU;NV;
MQUA;OE;OI;OO;OU;OV;MSA;N;NE;NI;NO;NU;NV;MDA;MTA;MDE;MTE;MDI;MTI;MDO;NU;NV;NLA;MTLA;OE;OI;OO;OU;OV;NSA;OE;OI;OO;OU;OV;
MWA;NE;NI;NO;NU;NV;MYA;0MEETEI MAYEK LETTER KOK;KSAM;KLAI;KMIT;KPA;KNA;KCHIL;KTIL;KKHOU;KNGOU;KTHOU;KWAI;KYANG;KHUK;
KUN;KI;KPHAM;KATIYA;KGOK;KJHAM;KRAI;KBA;KJIL;KDIL;KGHOU;KDHOU;KBHAM;KKOK LONSUM;KLAI LONSUM;KMIT LONSUM;KPA LONSUM;
KNA LONSUM;KTIL LONSUM;KNGOU LONSUM;KI LONSUM;DVOWEL SIGN ONAP;OINAP;OANAP;OYENAP;OSOUNAP;OUNAP;OCHEINAP;ONUNG;
DCHEIKHEI;DLUM IYEK;DAPUN IYEK;@ABF0;DDIGIT ZERO;JONE;JTWO;KHREE;JFOUR;KIVE;JSIX;KEVEN;JEIGHT;JNINE;@D7B0;
0HANGUL JUNGSEONG O-YEO;JO-I;HYO-A;LE;KEO;HU-YEO;JI-I;HYU-AE;KO;HEU-A;KEO;L;KO;HI-YA-O;LE;KEO;L;JO-I;JYO;KU;JI;
HARAEA-A;NE;@D7CB;8ONGSEONG NIEUN-RIEUL;NCHIEUCH;HSSANGTIKEUT;S-PIEUP;HTIKEUT-PIEUP;OSIOS;S-KIYEOK;OCIEUC;PHIEUCH;
OTHIEUTH;HRIEUL-SSANGKIYEOK;NKIYEOK-HIEUH;HSSANGRIEUL-KHIEUKH;HRIEUL-MIEUM-HIEUH;NPIEUP-TIKEUT;TPHIEUPH;NYESIEUNG;
PORINHIEUH-HIEUH;HKAPYEOUNRIEUL;HMIEUM-NIEUN;NSSANGNIEUN;HSSANGMIEUM;HMIEUM-PIEUP-SIOS;NCIEUC;HPIEUP-TIKEUT;
NRIEUL-PHIEUPH;NMIEUM;HSSANGPIEUP;HPIEUP-SIOS-TIKEUT;NCIEUC;OHIEUCH;HSIOS-MIEUM;MKAPYEOUNPIEUP;ISANGSIOS-KIYEOK;
RTIKEUT;IIOS-PANSIOS;MCIEUC;NHIEUCH;MTHIEUTH;MHIEUH;HPANSIOS-PIEUP;PKAPYEOUNPIEUP;HYESIEUNG-MIEUM;QHIEUH;HCIEUC-PIEUP;
NSSANGPIEUP;HSSANGCIEUC;HPHIEUPH-SIOS;PTHIEUTH;@FB00;0LATIN SMALL LIGATURE FF;MI;ML;MFI;NL;LLONG S T;LST;@FB13;
0ARMENIAN SMALL LIGATURE MEN NOW;SECH;SINI;OVEW NOW;OMEN XEH;@FB1D;0HEBREW LETTER YOD WITH HIRIQ;
7POINT JUDEO-SPANISH VARIKA;7LIGATURE YIDDISH YOD YOD PATAH;8ETTER ALTERNATIVE AYIN;EWIDE ALEF;JDALET;JHE;JKAF;JLAMED;
JFINAL MEM;JRESH;JTAV;EALTERNATIVE PLUS SIGN;ESHIN WITH SHIN DOT;PIN DOT;ODAGESH AND SHIN DOT;aIN DOT;EALEF WITH PATAH;
OQAMATS;OMAPIQ;EBET WITH DAGESH;EGIMEL WITH DAGESH;EDALET WITH DAGESH;EHE WITH MAPIQ;EVAV WITH DAGESH;
EZAYIN WITH DAGESH;@FB38;ETET WITH DAGESH;EYOD WITH DAGESH;EFINAL KAF WITH DAGESH;EKAF WITH DAGESH;ELAMED WITH DAGESH;
@FB3E;EMEM WITH DAGESH;@FB40;ENUN WITH DAGESH;ESAMEKH WITH DAGESH;@FB43;EFINAL PE WITH DAGESH;EPE WITH DAGESH;@FB46;
ETSADI WITH DAGESH;EQOF WITH DAGESH;ERESH WITH DAGESH;ESHIN WITH DAGESH;ETAV WITH DAGESH;EVAV WITH HOLAM;
EBET WITH RAFE;EKAF WITH RAFE;EPE WITH RAFE;8IGATURE ALEF LAMED;0ARABIC LETTER ALEF WASLA ISOLATED FORM;PFINAL FORM;
EBEEH ISOLATED FORM;JFINAL FORM;JINITIAL FORM;JMEDIAL FORM;EPEH ISOLATED FORM;IFINAL FORM;IINITIAL FORM;IMEDIAL FORM;
EBEHEH ISOLATED FORM;KFINAL FORM;KINITIAL FORM;KMEDIAL FORM;ETTEHEH ISOLATED FORM;LFINAL FORM;LINITIAL FORM;
LMEDIAL FORM;FEHEH ISOLATED FORM;KFINAL FORM;KINITIAL FORM;KMEDIAL FORM;FTEH ISOLATED FORM;JFINAL FORM;JINITIAL FORM;
JMEDIAL FORM;EVEH ISOLATED FORM;IFINAL FORM;IINITIAL FORM;IMEDIAL FORM;EPEHEH ISOLATED FORM;KFINAL FORM;KINITIAL FORM;
KMEDIAL FORM;EDYEH ISOLATED FORM;JFINAL FORM;JINITIAL FORM;JMEDIAL FORM;ENYEH ISOLATED FORM;JFINAL FORM;JINITIAL FORM;
JMEDIAL FORM;ETCHEH ISOLATED FORM;KFINAL FORM;KINITIAL FORM;KMEDIAL FORM;JEH ISOLATED FORM;MFINAL FORM;MINITIAL FORM;
MMEDIAL FORM;EDDAHAL ISOLATED FORM;LFINAL FORM;FAHAL ISOLATED FORM;KFINAL FORM;FUL ISOLATED FORM;IFINAL FORM;
FDAL ISOLATED FORM;JFINAL FORM;EJEH ISOLATED FORM;IFINAL FORM;ERREH ISOLATED FORM;JFINAL FORM;EKEHEH ISOLATED FORM;
KFINAL FORM;KINITIAL FORM;KMEDIAL FORM;EGAF ISOLATED FORM;IFINAL FORM;IINITIAL FORM;IMEDIAL FORM;FUEH ISOLATED FORM;
JFINAL FORM;JINITIAL FORM;JMEDIAL FORM;ENGOEH ISOLATED FORM;KFINAL FORM;KINITIAL FORM;KMEDIAL FORM;
FOON GHUNNA ISOLATED FORM;QFINAL FORM;ERNOON ISOLATED FORM;KFINAL FORM;KINITIAL FORM;KMEDIAL FORM;
EHEH WITH YEH ABOVE ISOLATED FORM;XFINAL FORM;IGOAL ISOLATED FORM;NFINAL FORM;NINITIAL FORM;NMEDIAL FORM;
IDOACHASHMEE ISOLATED FORM;UFINAL FORM;UINITIAL FORM;UMEDIAL FORM;EYEH BARREE ISOLATED FORM;PFINAL FORM;
PWITH HAMZA ABOVE ISOLATED FORM;gFINAL FORM;7SYMBOL DOT ABOVE;IBELOW;ETWO DOTS ABOVE;NBELOW;FHREE DOTS ABOVE;PBELOW;
PPOINTING DOWNWARDS ABOVE;iBELOW;EFOUR DOTS ABOVE;OBELOW;EDOUBLE VERTICAL BAR BELOW;ETWO DOTS VERTICALLY ABOVE;YBELOW;
ERING;ESMALL TAH ABOVE;OBELOW;EWASLA ABOVE;@FBD3;7LETTER NG ISOLATED FORM;HFINAL FORM;HINITIAL FORM;HMEDIAL FORM;
EU ISOLATED FORM;GFINAL FORM;EOE ISOLATED FORM;HFINAL FORM;EYU ISOLATED FORM;HFINAL FORM;
EU WITH HAMZA ABOVE ISOLATED FORM;EVE ISOLATED FORM;HFINAL FORM;EKIRGHIZ OE ISOLATED FORM;PFINAL FORM;
MYU ISOLATED FORM;PFINAL FORM;EE ISOLATED FORM;GFINAL FORM;GINITIAL FORM;GMEDIAL FORM;
EUIGHUR KAZAKH KIRGHIZ ALEF MAKSURA INITIAL FORM;nMEDIAL FORM;8IGATURE YEH WITH HAMZA ABOVE WITH ALEF ISOLATED FORM;
lFINAL FORM;hE ISOLATED FORM;jFINAL FORM;gWAW ISOLATED FORM;kFINAL FORM;gU ISOLATED FORM;iFINAL FORM;gOE ISOLATED FORM;
jFINAL FORM;gYU ISOLATED FORM;jFINAL FORM;gE ISOLATED FORM;iFINAL FORM;iINITIAL FORM;
GUIGHUR KIRGHIZ YEH WITH HAMZA ABOVE WITH ALEF MAKSURA ISOLATED FORM;z MAKSURA FINAL FORM;z MAKSURA INITIAL FORM;
8ETTER FARSI YEH ISOLATED FORM;OFINAL FORM;OINITIAL FORM;OMEDIAL FORM;
8IGATURE YEH WITH HAMZA ABOVE WITH JEEM ISOLATED FORM;gHAH ISOLATED FORM;gMEEM ISOLATED FORM;
gALEF MAKSURA ISOLATED FORM;gYEH ISOLATED FORM;GBEH WITH JEEM ISOLATED FORM;PHAH ISOLATED FORM;PKHAH ISOLATED FORM;
PMEEM ISOLATED FORM;PALEF MAKSURA ISOLATED FORM;PYEH ISOLATED FORM;GTEH WITH JEEM ISOLATED FORM;PHAH ISOLATED FORM;
PKHAH ISOLATED FORM;PMEEM ISOLATED FORM;PALEF MAKSURA ISOLATED FORM;PYEH ISOLATED FORM;HHEH WITH JEEM ISOLATED FORM;
QMEEM ISOLATED FORM;QALEF MAKSURA ISOLATED FORM;QYEH ISOLATED FORM;GJEEM WITH HAH ISOLATED FORM;QMEEM ISOLATED FORM;
GHAH WITH JEEM ISOLATED FORM;PMEEM ISOLATED FORM;GKHAH WITH JEEM ISOLATED FORM;QHAH ISOLATED FORM;QMEEM ISOLATED FORM;
GSEEN WITH JEEM ISOLATED FORM;QHAH ISOLATED FORM;QKHAH ISOLATED FORM;QMEEM ISOLATED FORM;HAD WITH HAH ISOLATED FORM;
PMEEM ISOLATED FORM;GDAD WITH JEEM ISOLATED FORM;PHAH ISOLATED FORM;PKHAH ISOLATED FORM;PMEEM ISOLATED FORM;
GTAH WITH HAH ISOLATED FORM;PMEEM ISOLATED FORM;GZAH WITH MEEM ISOLATED FORM;GAIN WITH JEEM ISOLATED FORM;
PMEEM ISOLATED FORM;GGHAIN WITH JEEM ISOLATED FORM;RMEEM ISOLATED FORM;GFEH WITH JEEM ISOLATED FORM;PHAH ISOLATED FORM;
PKHAH ISOLATED FORM;PMEEM ISOLATED FORM;PALEF MAKSURA ISOLATED FORM;PYEH ISOLATED FORM;GQAF WITH HAH ISOLATED FORM;
PMEEM ISOLATED FORM;PALEF MAKSURA ISOLATED FORM;PYEH ISOLATED FORM;GKAF WITH ALEF ISOLATED FORM;PJEEM ISOLATED FORM;
PHAH ISOLATED FORM;PKHAH ISOLATED FORM;PLAM ISOLATED FORM;PMEEM ISOLATED FORM;PALEF MAKSURA ISOLATED FORM;
PYEH ISOLATED FORM;GLAM WITH JEEM ISOLATED FORM;PHAH ISOLATED FORM;PKHAH ISOLATED FORM;PMEEM ISOLATED FORM;
PALEF MAKSURA ISOLATED FORM;PYEH ISOLATED FORM;GMEEM WITH JEEM ISOLATED FORM;QHAH ISOLATED FORM;QKHAH ISOLATED FORM;
QMEEM ISOLATED FORM;QALEF MAKSURA ISOLATED FORM;QYEH ISOLATED FORM;GNOON WITH JEEM ISOLATED FORM;QHAH ISOLATED FORM;
QKHAH ISOLATED FORM;QMEEM ISOLATED FORM;QALEF MAKSURA ISOLATED FORM;QYEH ISOLATED FORM;GHEH WITH JEEM ISOLATED FORM;
PMEEM ISOLATED FORM;PALEF MAKSURA ISOLATED FORM;PYEH ISOLATED FORM;GYEH WITH JEEM ISOLATED FORM;PHAH ISOLATED FORM;
PKHAH ISOLATED FORM;PMEEM ISOLATED FORM;PALEF MAKSURA ISOLATED FORM;PYEH ISOLATED FORM;
GTHAL WITH SUPERSCRIPT ALEF ISOLATED FORM;GREH WITH SUPERSCRIPT ALEF ISOLATED FORM;
GALEF MAKSURA WITH SUPERSCRIPT ALEF ISOLATED FORM;GSHADDA WITH DAMMATAN ISOLATED FORM;SKASRATAN ISOLATED FORM;
SFATHA ISOLATED FORM;SDAMMA ISOLATED FORM;SKASRA ISOLATED FORM;SSUPERSCRIPT ALEF ISOLATED FORM;
GYEH WITH HAMZA ABOVE WITH REH FINAL FORM;gZAIN FINAL FORM;gMEEM FINAL FORM;gNOON FINAL FORM;gALEF MAKSURA FINAL FORM;
gYEH FINAL FORM;GBEH WITH REH FINAL FORM;PZAIN FINAL FORM;PMEEM FINAL FORM;PNOON FINAL FORM;PALEF MAKSURA FINAL FORM;
PYEH FINAL FORM;GTEH WITH REH FINAL FORM;PZAIN FINAL FORM;PMEEM FINAL FORM;PNOON FINAL FORM;PALEF MAKSURA FINAL FORM;
PYEH FINAL FORM;HHEH WITH REH FINAL FORM;QZAIN FINAL FORM;QMEEM FINAL FORM;QNOON FINAL FORM;QALEF MAKSURA FINAL FORM;
QYEH FINAL FORM;GFEH WITH ALEF MAKSURA FINAL FORM;PYEH FINAL FORM;GQAF WITH ALEF MAKSURA FINAL FORM;PYEH FINAL FORM;
GKAF WITH ALEF FINAL FORM;PLAM FINAL FORM;PMEEM FINAL FORM;PALEF MAKSURA FINAL FORM;PYEH FINAL FORM;
GLAM WITH MEEM FINAL FORM;PALEF MAKSURA FINAL FORM;PYEH FINAL FORM;GMEEM WITH ALEF FINAL FORM;QMEEM FINAL FORM;
GNOON WITH REH FINAL FORM;QZAIN FINAL FORM;QMEEM FINAL FORM;QNOON FINAL FORM;QALEF MAKSURA FINAL FORM;QYEH FINAL FORM;
GALEF MAKSURA WITH SUPERSCRIPT ALEF FINAL FORM;GYEH WITH REH FINAL FORM;PZAIN FINAL FORM;PMEEM FINAL FORM;
PNOON FINAL FORM;PALEF MAKSURA FINAL FORM;PYEH FINAL FORM;PHAMZA ABOVE WITH JEEM INITIAL FORM;gHAH INITIAL FORM;
gKHAH INITIAL FORM;gMEEM INITIAL FORM;gHEH INITIAL FORM;GBEH WITH JEEM INITIAL FORM;PHAH INITIAL FORM;
PKHAH INITIAL FORM;PMEEM INITIAL FORM;PHEH INITIAL FORM;GTEH WITH JEEM INITIAL FORM;PHAH INITIAL FORM;
PKHAH INITIAL FORM;PMEEM INITIAL FORM;PHEH INITIAL FORM;HHEH WITH MEEM INITIAL FORM;GJEEM WITH HAH INITIAL FORM;
QMEEM INITIAL FORM;GHAH WITH JEEM INITIAL FORM;PMEEM INITIAL FORM;GKHAH WITH JEEM INITIAL FORM;QMEEM INITIAL FORM;
GSEEN WITH JEEM INITIAL FORM;QHAH INITIAL FORM;QKHAH INITIAL FORM;QMEEM INITIAL FORM;HAD WITH HAH INITIAL FORM;
PKHAH INITIAL FORM;PMEEM INITIAL FORM;GDAD WITH JEEM INITIAL FORM;PHAH INITIAL FORM;PKHAH INITIAL FORM;
PMEEM INITIAL FORM;GTAH WITH HAH INITIAL FORM;GZAH WITH MEEM INITIAL FORM;GAIN WITH JEEM INITIAL FORM;
PMEEM INITIAL FORM;GGHAIN WITH JEEM INITIAL FORM;RMEEM INITIAL FORM;GFEH WITH JEEM INITIAL FORM;PHAH INITIAL FORM;
PKHAH INITIAL FORM;PMEEM INITIAL FORM;GQAF WITH HAH INITIAL FORM;PMEEM INITIAL FORM;GKAF WITH JEEM INITIAL FORM;
PHAH INITIAL FORM;PKHAH INITIAL FORM;PLAM INITIAL FORM;PMEEM INITIAL FORM;GLAM WITH JEEM INITIAL FORM;
PHAH INITIAL FORM;PKHAH INITIAL FORM;PMEEM INITIAL FORM;PHEH INITIAL FORM;GMEEM WITH JEEM INITIAL FORM;
QHAH INITIAL FORM;QKHAH INITIAL FORM;QMEEM INITIAL FORM;GNOON WITH JEEM INITIAL FORM;QHAH INITIAL FORM;
QKHAH INITIAL FORM;QMEEM INITIAL FORM;QHEH INITIAL FORM;GHEH WITH JEEM INITIAL FORM;PMEEM INITIAL FORM;
PSUPERSCRIPT ALEF INITIAL FORM;GYEH WITH JEEM INITIAL FORM;PHAH INITIAL FORM;PKHAH INITIAL FORM;PMEEM INITIAL FORM;
PHEH INITIAL FORM;QAMZA ABOVE WITH MEEM MEDIAL FORM;gHEH MEDIAL FORM;GBEH WITH MEEM MEDIAL FORM;PHEH MEDIAL FORM;
GTEH WITH MEEM MEDIAL FORM;PHEH MEDIAL FORM;HHEH WITH MEEM MEDIAL FORM;QHEH MEDIAL FORM;GSEEN WITH MEEM MEDIAL FORM;
QHEH MEDIAL FORM;HHEEN WITH MEEM MEDIAL FORM;RHEH MEDIAL FORM;GKAF WITH LAM MEDIAL FORM;PMEEM MEDIAL FORM;
GLAM WITH MEEM MEDIAL FORM;GNOON WITH MEEM MEDIAL FORM;QHEH MEDIAL FORM;GYEH WITH MEEM MEDIAL FORM;PHEH MEDIAL FORM;
GSHADDA WITH FATHA MEDIAL FORM;SDAMMA MEDIAL FORM;SKASRA MEDIAL FORM;GTAH WITH ALEF MAKSURA ISOLATED FORM;
PYEH ISOLATED FORM;GAIN WITH ALEF MAKSURA ISOLATED FORM;PYEH ISOLATED FORM;GGHAIN WITH ALEF MAKSURA ISOLATED FORM;
RYEH ISOLATED FORM;GSEEN WITH ALEF MAKSURA ISOLATED FORM;QYEH ISOLATED FORM;HHEEN WITH ALEF MAKSURA ISOLATED FORM;
RYEH ISOLATED FORM;GHAH WITH ALEF MAKSURA ISOLATED FORM;PYEH ISOLATED FORM;GJEEM WITH ALEF MAKSURA ISOLATED FORM;
QYEH ISOLATED FORM;GKHAH WITH ALEF MAKSURA ISOLATED FORM;QYEH ISOLATED FORM;GSAD WITH ALEF MAKSURA ISOLATED FORM;
PYEH ISOLATED FORM;GDAD WITH ALEF MAKSURA ISOLATED FORM;PYEH ISOLATED FORM;GSHEEN WITH JEEM ISOLATED FORM;
RHAH ISOLATED FORM;RKHAH ISOLATED FORM;RMEEM ISOLATED FORM;RREH ISOLATED FORM;HEEN WITH REH ISOLATED FORM;
HAD WITH REH ISOLATED FORM;GDAD WITH REH ISOLATED FORM;GTAH WITH ALEF MAKSURA FINAL FORM;PYEH FINAL FORM;
GAIN WITH ALEF MAKSURA FINAL FORM;PYEH FINAL FORM;GGHAIN WITH ALEF MAKSURA FINAL FORM;RYEH FINAL FORM;
GSEEN WITH ALEF MAKSURA FINAL FORM;QYEH FINAL FORM;HHEEN WITH ALEF MAKSURA FINAL FORM;RYEH FINAL FORM;
GHAH WITH ALEF MAKSURA FINAL FORM;PYEH FINAL FORM;GJEEM WITH ALEF MAKSURA FINAL FORM;QYEH FINAL FORM;
GKHAH WITH ALEF MAKSURA FINAL FORM;QYEH FINAL FORM;GSAD WITH ALEF MAKSURA FINAL FORM;PYEH FINAL FORM;
GDAD WITH ALEF MAKSURA FINAL FORM;PYEH FINAL FORM;GSHEEN WITH JEEM FINAL FORM;RHAH FINAL FORM;RKHAH FINAL FORM;
RMEEM FINAL FORM;RREH FINAL FORM;HEEN WITH REH FINAL FORM;HAD WITH REH FINAL FORM;GDAD WITH REH FINAL FORM;
GSHEEN WITH JEEM INITIAL FORM;RHAH INITIAL FORM;RKHAH INITIAL FORM;RMEEM INITIAL FORM;HEEN WITH HEH INITIAL FORM;
HHEEN WITH HEH INITIAL FORM;GTAH WITH MEEM INITIAL FORM;GSEEN WITH JEEM MEDIAL FORM;QHAH MEDIAL FORM;QKHAH MEDIAL FORM;
HHEEN WITH JEEM MEDIAL FORM;RHAH MEDIAL FORM;RKHAH MEDIAL FORM;GTAH WITH MEEM MEDIAL FORM;GZAH WITH MEEM MEDIAL FORM;
GALEF WITH FATHATAN FINAL FORM;ZISOLATED FORM;0ORNATE LEFT PARENTHESIS;7RIGHT PARENTHESIS;
0ARABIC LIGATURE RAHIMAHU ALLAAH;IDI ALLAAHU ANH;WAA;WUM;YAA;XNNA;GSALLALLAAHU ALAYHI WA-AALIH;GALAYHI AS-SALAAM;
MM AS-SALAAM;NAA AS-SALAAM;M AS-SALAATU WAS-SALAAM;GQUDDISA SIRRAH;GSALLALLAHU ALAYHI WAAALIHEE WA-SALLAM;
GALAYHAA AS-SALAAM;GTABAARAKA WA-TAAALAA;GRAHIMAHUM ALLAAH;GTEH WITH JEEM WITH MEEM INITIAL FORM;
PHAH WITH JEEM FINAL FORM;dINITIAL FORM;YMEEM INITIAL FORM;PKHAH WITH MEEM INITIAL FORM;PMEEM WITH JEEM INITIAL FORM;
ZHAH INITIAL FORM;ZKHAH INITIAL FORM;GJEEM WITH MEEM WITH HAH FINAL FORM;eINITIAL FORM;
GHAH WITH MEEM WITH YEH FINAL FORM;ZALEF MAKSURA FINAL FORM;GSEEN WITH HAH WITH JEEM INITIAL FORM;
QJEEM WITH HAH INITIAL FORM;aALEF MAKSURA FINAL FORM;QMEEM WITH HAH FINAL FORM;eINITIAL FORM;aJEEM INITIAL FORM;
aMEEM FINAL FORM;fINITIAL FORM;HAD WITH HAH WITH HAH FINAL FORM;cINITIAL FORM;PMEEM WITH MEEM FINAL FORM;
HHEEN WITH HAH WITH MEEM FINAL FORM;fINITIAL FORM;RJEEM WITH YEH FINAL FORM;RMEEM WITH KHAH FINAL FORM;gINITIAL FORM;
bMEEM FINAL FORM;gINITIAL FORM;GDAD WITH HAH WITH ALEF MAKSURA FINAL FORM;PKHAH WITH MEEM FINAL FORM;eINITIAL FORM;
GTAH WITH MEEM WITH HAH FINAL FORM;dINITIAL FORM;ZMEEM INITIAL FORM;ZYEH FINAL FORM;
GAIN WITH JEEM WITH MEEM FINAL FORM;PMEEM WITH MEEM FINAL FORM;eINITIAL FORM;ZALEF MAKSURA FINAL FORM;
GGHAIN WITH MEEM WITH MEEM FINAL FORM;bYEH FINAL FORM;bALEF MAKSURA FINAL FORM;GFEH WITH KHAH WITH MEEM FINAL FORM;
eINITIAL FORM;GQAF WITH MEEM WITH HAH FINAL FORM;ZMEEM FINAL FORM;GLAM WITH HAH WITH MEEM FINAL FORM;YYEH FINAL FORM;
YALEF MAKSURA FINAL FORM;PJEEM WITH JEEM INITIAL FORM;eFINAL FORM;PKHAH WITH MEEM FINAL FORM;eINITIAL FORM;
PMEEM WITH HAH FINAL FORM;dINITIAL FORM;GMEEM WITH HAH WITH JEEM INITIAL FORM;ZMEEM INITIAL FORM;ZYEH FINAL FORM;
QJEEM WITH HAH INITIAL FORM;aMEEM INITIAL FORM;QKHAH WITH JEEM INITIAL FORM;aMEEM INITIAL FORM;@FD92;
QJEEM WITH KHAH INITIAL FORM;GHEH WITH MEEM WITH JEEM INITIAL FORM;ZMEEM INITIAL FORM;
GNOON WITH HAH WITH MEEM INITIAL FORM;ZALEF MAKSURA FINAL FORM;QJEEM WITH MEEM FINAL FORM;fINITIAL FORM;
aALEF MAKSURA FINAL FORM;QMEEM WITH YEH FINAL FORM;aALEF MAKSURA FINAL FORM;GYEH WITH MEEM WITH MEEM FINAL FORM;
eINITIAL FORM;GBEH WITH KHAH WITH YEH FINAL FORM;GTEH WITH JEEM WITH YEH FINAL FORM;ZALEF MAKSURA FINAL FORM;
PKHAH WITH YEH FINAL FORM;ZALEF MAKSURA FINAL FORM;PMEEM WITH YEH FINAL FORM;ZALEF MAKSURA FINAL FORM;
GJEEM WITH MEEM WITH YEH FINAL FORM;QHAH WITH ALEF MAKSURA FINAL FORM;QMEEM WITH ALEF MAKSURA FINAL FORM;
GSEEN WITH KHAH WITH ALEF MAKSURA FINAL FORM;HAD WITH HAH WITH YEH FINAL FORM;HHEEN WITH HAH WITH YEH FINAL FORM;
GDAD WITH HAH WITH YEH FINAL FORM;GLAM WITH JEEM WITH YEH FINAL FORM;PMEEM WITH YEH FINAL FORM;
GYEH WITH HAH WITH YEH FINAL FORM;PJEEM WITH YEH FINAL FORM;PMEEM WITH YEH FINAL FORM;
GMEEM WITH MEEM WITH YEH FINAL FORM;GQAF WITH MEEM WITH YEH FINAL FORM;GNOON WITH HAH WITH YEH FINAL FORM;
GQAF WITH MEEM WITH HAH INITIAL FORM;GLAM WITH HAH WITH MEEM INITIAL FORM;GAIN WITH MEEM WITH YEH FINAL FORM;
GKAF WITH MEEM WITH YEH FINAL FORM;GNOON WITH JEEM WITH HAH INITIAL FORM;GMEEM WITH KHAH WITH YEH FINAL FORM;
GLAM WITH JEEM WITH MEEM INITIAL FORM;GKAF WITH MEEM WITH MEEM FINAL FORM;GLAM WITH JEEM WITH MEEM FINAL FORM;
GNOON WITH JEEM WITH HAH FINAL FORM;GJEEM WITH HAH WITH YEH FINAL FORM;GHAH WITH JEEM WITH YEH FINAL FORM;
GMEEM WITH JEEM WITH YEH FINAL FORM;GFEH WITH MEEM WITH YEH FINAL FORM;GBEH WITH HAH WITH YEH FINAL FORM;
GKAF WITH MEEM WITH MEEM INITIAL FORM;GAIN WITH JEEM WITH MEEM INITIAL FORM;GSAD WITH MEEM WITH MEEM INITIAL FORM;
HEEN WITH KHAH WITH YEH FINAL FORM;GNOON WITH JEEM WITH YEH FINAL FORM;@FDCF;GSALAAMUHU ALAYNAA;@FDF0;
JLA USED AS KORANIC STOP SIGN ISOLATED FORM;GQALA USED AS KORANIC STOP SIGN ISOLATED FORM;GALLAH ISOLATED FORM;
HKBAR ISOLATED FORM;GMOHAMMAD ISOLATED FORM;GSALAM ISOLATED FORM;GRASOUL ISOLATED FORM;GALAYHE ISOLATED FORM;
GWASALLAM ISOLATED FORM;GSALLA ISOLATED FORM;LLLAHOU ALAYHE WASALLAM;GJALLAJALALOUHOU;0RIAL SIGN;
0ARABIC LIGATURE BISMILLAH AR-RAHMAN AR-RAHEEM;GSUBHAANAHU WA TAAALAA;GAZZA WA JALL;0VARIATION SELECTOR-1;J2;J3;J4;J5;
J6;J7;J8;J9;J10;K1;K2;K3;K4;K5;K6;0PRESENTATION FORM FOR VERTICAL COMMA;VIDEOGRAPHIC COMMA;hFULL STOP;VCOLON;
VSEMICOLON;VEXCLAMATION MARK;VQUESTION MARK;VLEFT WHITE LENTICULAR BRACKET;VRIGHT WHITE LENTICULAR BRAKCET;
VHORIZONTAL ELLIPSIS;@FE20;0COMBINING LIGATURE LEFT HALF;JRIGHT HALF;ADOUBLE TILDE LEFT HALF;NRIGHT HALF;
AMACRON LEFT HALF;HRIGHT HALF;ACONJOINING MACRON;ALIGATURE LEFT HALF BELOW;JRIGHT HALF BELOW;ATILDE LEFT HALF BELOW;
GRIGHT HALF BELOW;AMACRON LEFT HALF BELOW;HRIGHT HALF BELOW;ACONJOINING MACRON BELOW;BYRILLIC TITLO LEFT HALF;
PRIGHT HALF;0PRESENTATION FORM FOR VERTICAL TWO DOT LEADER;VEM DASH;WN DASH;VLOW LINE;VWAVY LOW LINE;VLEFT PARENTHESIS;
VRIGHT PARENTHESIS;VLEFT CURLY BRACKET;VRIGHT CURLY BRACKET;VLEFT TORTOISE SHELL BRACKET;VRIGHT TORTOISE SHELL BRACKET;
VLEFT BLACK LENTICULAR BRACKET;VRIGHT BLACK LENTICULAR BRACKET;VLEFT DOUBLE ANGLE BRACKET;VRIGHT DOUBLE ANGLE BRACKET;
VLEFT ANGLE BRACKET;VRIGHT ANGLE BRACKET;VLEFT CORNER BRACKET;VRIGHT CORNER BRACKET;VLEFT WHITE CORNER BRACKET;
VRIGHT WHITE CORNER BRACKET;0SESAME DOT;0WHITE SESAME DOT;0PRESENTATION FORM FOR VERTICAL LEFT SQUARE BRACKET;
VRIGHT SQUARE BRACKET;0DASHED OVERLINE;0CENTRELINE OVERLINE;0WAVY OVERLINE;0DOUBLE WAVY OVERLINE;1ASHED LOW LINE;
0CENTRELINE LOW LINE;0WAVY LOW LINE;0SMALL COMMA;6IDEOGRAPHIC COMMA;6FULL STOP;@FE54;6SEMICOLON;6COLON;6QUESTION MARK;
6EXCLAMATION MARK;7M DASH;6LEFT PARENTHESIS;6RIGHT PARENTHESIS;6LEFT CURLY BRACKET;6RIGHT CURLY BRACKET;
6LEFT TORTOISE SHELL BRACKET;6RIGHT TORTOISE SHELL BRACKET;6NUMBER SIGN;6AMPERSAND;7STERISK;6PLUS SIGN;6HYPHEN-MINUS;
6LESS-THAN SIGN;6GREATER-THAN SIGN;6EQUALS SIGN;@FE68;6REVERSE SOLIDUS;6DOLLAR SIGN;6PERCENT SIGN;6COMMERCIAL AT;@FE70;
0ARABIC FATHATAN ISOLATED FORM;7TATWEEL WITH FATHATAN ABOVE;7DAMMATAN ISOLATED FORM;7TAIL FRAGMENT;
7KASRATAN ISOLATED FORM;@FE76;7FATHA ISOLATED FORM;DMEDIAL FORM;7DAMMA ISOLATED FORM;DMEDIAL FORM;7KASRA ISOLATED FORM;
DMEDIAL FORM;7SHADDA ISOLATED FORM;EMEDIAL FORM;8UKUN ISOLATED FORM;DMEDIAL FORM;7LETTER HAMZA ISOLATED FORM;
EALEF WITH MADDA ABOVE ISOLATED FORM;aFINAL FORM;OHAMZA ABOVE ISOLATED FORM;aFINAL FORM;
EWAW WITH HAMZA ABOVE ISOLATED FORM;ZFINAL FORM;EALEF WITH HAMZA BELOW ISOLATED FORM;aFINAL FORM;
EYEH WITH HAMZA ABOVE ISOLATED FORM;ZFINAL FORM;ZINITIAL FORM;ZMEDIAL FORM;EALEF ISOLATED FORM;JFINAL FORM;
EBEH ISOLATED FORM;IFINAL FORM;IINITIAL FORM;IMEDIAL FORM;ETEH MARBUTA ISOLATED FORM;QFINAL FORM;IISOLATED FORM;
IFINAL FORM;IINITIAL FORM;IMEDIAL FORM;FHEH ISOLATED FORM;JFINAL FORM;JINITIAL FORM;JMEDIAL FORM;EJEEM ISOLATED FORM;
JFINAL FORM;JINITIAL FORM;JMEDIAL FORM;EHAH ISOLATED FORM;IFINAL FORM;IINITIAL FORM;IMEDIAL FORM;EKHAH ISOLATED FORM;
JFINAL FORM;JINITIAL FORM;JMEDIAL FORM;EDAL ISOLATED FORM;IFINAL FORM;ETHAL ISOLATED FORM;JFINAL FORM;
EREH ISOLATED FORM;IFINAL FORM;EZAIN ISOLATED FORM;JFINAL FORM;ESEEN ISOLATED FORM;JFINAL FORM;JINITIAL FORM;
JMEDIAL FORM;FHEEN ISOLATED FORM;KFINAL FORM;KINITIAL FORM;KMEDIAL FORM;FAD ISOLATED FORM;IFINAL FORM;IINITIAL FORM;
IMEDIAL FORM;EDAD ISOLATED FORM;IFINAL FORM;IINITIAL FORM;IMEDIAL FORM;ETAH ISOLATED FORM;IFINAL FORM;IINITIAL FORM;
IMEDIAL FORM;EZAH ISOLATED FORM;IFINAL FORM;IINITIAL FORM;IMEDIAL FORM;EAIN ISOLATED FORM;IFINAL FORM;IINITIAL FORM;
IMEDIAL FORM;EGHAIN ISOLATED FORM;KFINAL FORM;KINITIAL FORM;KMEDIAL FORM;EFEH ISOLATED FORM;IFINAL FORM;IINITIAL FORM;
IMEDIAL FORM;EQAF ISOLATED FORM;IFINAL FORM;IINITIAL FORM;IMEDIAL FORM;EKAF ISOLATED FORM;IFINAL FORM;IINITIAL FORM;
IMEDIAL FORM;ELAM ISOLATED FORM;IFINAL FORM;IINITIAL FORM;IMEDIAL FORM;EMEEM ISOLATED FORM;JFINAL FORM;JINITIAL FORM;
JMEDIAL FORM;ENOON ISOLATED FORM;JFINAL FORM;JINITIAL FORM;JMEDIAL FORM;EHEH ISOLATED FORM;IFINAL FORM;IINITIAL FORM;
IMEDIAL FORM;EWAW ISOLATED FORM;IFINAL FORM;EALEF MAKSURA ISOLATED FORM;RFINAL FORM;EYEH ISOLATED FORM;IFINAL FORM;
IINITIAL FORM;IMEDIAL FORM;8IGATURE LAM WITH ALEF WITH MADDA ABOVE ISOLATED FORM;lFINAL FORM;
ZHAMZA ABOVE ISOLATED FORM;lFINAL FORM;fBELOW ISOLATED FORM;lFINAL FORM;UISOLATED FORM;UFINAL FORM;@FEFF;
0ZERO WIDTH NO-BREAK SPACE;@FF01;0FULLWIDTH EXCLAMATION MARK;AQUOTATION MARK;ANUMBER SIGN;ADOLLAR SIGN;APERCENT SIGN;
AAMPERSAND;BPOSTROPHE;ALEFT PARENTHESIS;ARIGHT PARENTHESIS;AASTERISK;APLUS SIGN;ACOMMA;AHYPHEN-MINUS;AFULL STOP;
ASOLIDUS;ADIGIT ZERO;GONE;GTWO;HHREE;GFOUR;HIVE;GSIX;HEVEN;GEIGHT;GNINE;ACOLON;ASEMICOLON;ALESS-THAN SIGN;AEQUALS SIGN;
AGREATER-THAN SIGN;AQUESTION MARK;ACOMMERCIAL AT;ALATIN CAPITAL LETTER A;VB;VC;VD;VE;VF;VG;VH;VI;VJ;VK;VL;VM;VN;VO;VP;
VQ;VR;VS;VT;VU;VV;VW;VX;VY;VZ;BEFT SQUARE BRACKET;AREVERSE SOLIDUS;BIGHT SQUARE BRACKET;ACIRCUMFLEX ACCENT;ALOW LINE;
AGRAVE ACCENT;ALATIN SMALL LETTER A;TB;TC;TD;TE;TF;TG;TH;TI;TJ;TK;TL;TM;TN;TO;TP;TQ;TR;TS;TT;TU;TV;TW;TX;TY;TZ;
BEFT CURLY BRACKET;AVERTICAL LINE;ARIGHT CURLY BRACKET;ATILDE;ALEFT WHITE PARENTHESIS;ARIGHT WHITE PARENTHESIS;
0HALFWIDTH IDEOGRAPHIC FULL STOP;ALEFT CORNER BRACKET;ARIGHT CORNER BRACKET;AIDEOGRAPHIC COMMA;AKATAKANA MIDDLE DOT;
JLETTER WO;QSMALL A;WI;WU;WE;WO;WYA;XU;XO;WTU;I-HIRAGANA PROLONGED SOUND MARK;I LETTER A;QI;QU;QE;QO;QKA;RI;RU;RE;RO;
QSA;RI;RU;RE;RO;QTA;RI;RU;RE;RO;QNA;RI;RU;RE;RO;QHA;RI;RU;RE;RO;QMA;RI;RU;RE;RO;QYA;RU;RO;QRA;RI;RU;RE;RO;QWA;QN;
JVOICED SOUND MARK;JSEMI-VOICED SOUND MARK;AHANGUL FILLER;HLETTER KIYEOK;OSSANGKIYEOK;OKIYEOK-SIOS;ONIEUN;T-CIEUC;
UHIEUH;OTIKEUT;OSSANGTIKEUT;ORIEUL;T-KIYEOK;UMIEUM;UPIEUP;USIOS;UTHIEUTH;UPHIEUPH;UHIEUH;OMIEUM;OPIEUP;OSSANGPIEUP;
OPIEUP-SIOS;OSIOS;PSANGSIOS;OIEUNG;OCIEUC;OSSANGCIEUC;OCHIEUCH;OKHIEUKH;OTHIEUTH;OPHIEUPH;OHIEUH;@FFC2;OA;PE;OYA;QE;
OEO;P;@FFCA;OYEO;Q;OO;OWA;QE;OOE;@FFD2;OYO;OU;OWEO;Q;PI;OYU;@FFDA;OEU;OYI;OI;@FFE0;0FULLWIDTH CENT SIGN;APOUND SIGN;
ANOT SIGN;AMACRON;ABROKEN BAR;AYEN SIGN;AWON SIGN;@FFE8;0HALFWIDTH FORMS LIGHT VERTICAL;ALEFTWARDS ARROW;
AUPWARDS ARROW;ARIGHTWARDS ARROW;ADOWNWARDS ARROW;ABLACK SQUARE;AWHITE CIRCLE;@FFF9;0INTERLINEAR ANNOTATION ANCHOR;
NSEPARATOR;NTERMINATOR;0OBJECT REPLACEMENT CHARACTER;0REPLACEMENT CHARACTER;@10000;0LINEAR B SYLLABLE B008 A;K38 E;
K28 I;K61 O;K10 U;K01 DA;K45 DE;K07 DI;K14 DO;K51 DU;L7 JA;K46 JE;@1000D;K36 JO;K65 JU;K77 KA;K44 KE;K67 KI;K70 KO;
K81 KU;L0 MA;K13 ME;K73 MI;K15 MO;K23 MU;K06 NA;K24 NE;K30 NI;K52 NO;L5 NU;K03 PA;K72 PE;K39 PI;K11 PO;K50 PU;K16 QA;
K78 QE;K21 QI;K32 QO;@10028;K60 RA;K27 RE;K53 RI;K02 RO;K26 RU;K31 SA;K09 SE;K41 SI;K12 SO;K58 SU;L9 TA;K04 TE;K37 TI;
K05 TO;K69 TU;K54 WA;K75 WE;K40 WI;L2 WO;@1003C;K17 ZA;K74 ZE;@1003F;K20 ZO;L5 A2;K43 A3;K85 AU;K71 DWE;K90 DWO;
K48 NWA;K29 PU2;K62 PTE;K76 RA2;K33 RA3;K68 RO2;L6 TA2;K87 TWE;K91 TWO;@10050;BMBOL B018;J9;I22;I34;I47;J9;I56;I63;J4;
I79;I82;J3;J6;J9;@10080;9IDEOGRAM B100 MAN;L2 WOMAN;L4 DEER;L5 EQUID;MF MARE;MM STALLION;L6F EWE;MM RAM;L7F SHE-GOAT;
MM HE-GOAT;L8F SOW;MM BOAR;L9F COW;MM BULL;K20 WHEAT;L1 BARLEY;L2 OLIVE;L3 SPICE;L5 CYPERUS;9MONOGRAM B127 KAPO;
L8 KANAKO;9IDEOGRAM B130 OIL;L1 WINE;L2;9MONOGRAM B133 AREPA;L5 MERI;9IDEOGRAM B140 BRONZE;L1 GOLD;L2;L5 WOOL;L6;K50;
L1 HORN;L2;L3;L4;9MONOGRAM B156 TURO2;9IDEOGRAM B157;L8;L9 CLOTH;K60;L1;L2 GARMENT;L3 ARMOUR;L4;L5;L6;L7;L8;L9;K70;L1;
L2;L3 MONTH;L4;L6 TREE;L7;L8;L9;K80;L1;L2;L3;L4;L5;L9;K90;L1 HELMET;J220 FOOTSTOOL;L5 BATHTUB;K30 SPEAR;L1 ARROW;L2;
L3 SWORD;L4;L6;K40 WHEELED CHARIOT;L1 CHARIOT;L2 CHARIOT FRAME;L3 WHEEL;L5;L6;9MONOGRAM B247 DIPTE;9IDEOGRAM B248;L9;
K51;L2;L3;L4 DART;L5;L6;L7;L8;L9;IVESSEL B155;Q200;S1;S2;S3;S4;S5;S6;S7;S8;S9;R10;S1;S2;S3;S4;S5;S6;S7;S8;S9;R21;S2;S6;
S7;S8;S9;R50;Q305;@10100;0AEGEAN WORD SEPARATOR LINE;MDOT;7CHECK MARK;@10107;7NUMBER ONE;ETWO;FHREE;EFOUR;FIVE;ESIX;
FEVEN;EEIGHT;ENINE;ETEN;FWENTY;FHIRTY;EFORTY;FIFTY;ESIXTY;FEVENTY;EEIGHTY;ENINETY;EONE HUNDRED;ETWO HUNDRED;
FHREE HUNDRED;EFOUR HUNDRED;FIVE HUNDRED;ESIX HUNDRED;FEVEN HUNDRED;EEIGHT HUNDRED;ENINE HUNDRED;EONE THOUSAND;
ETWO THOUSAND;FHREE THOUSAND;EFOUR THOUSAND;FIVE THOUSAND;ESIX THOUSAND;FEVEN THOUSAND;EEIGHT THOUSAND;ENINE THOUSAND;
ETEN THOUSAND;FWENTY THOUSAND;FHIRTY THOUSAND;EFORTY THOUSAND;FIFTY THOUSAND;ESIXTY THOUSAND;FEVENTY THOUSAND;
EEIGHTY THOUSAND;ENINETY THOUSAND;@10137;7WEIGHT BASE UNIT;EFIRST SUBUNIT;ESECOND SUBUNIT;ETHIRD SUBUNIT;
EFOURTH SUBUNIT;7DRY MEASURE FIRST SUBUNIT;7LIQUID MEASURE FIRST SUBUNIT;7MEASURE SECOND SUBUNIT;FTHIRD SUBUNIT;
0GREEK ACROPHONIC ATTIC ONE QUARTER;RHALF;RDRACHMA;NFIVE;PFTY;PVE HUNDRED;STHOUSAND;PFTY THOUSAND;PVE TALENTS;
NTEN TALENTS;NFIFTY TALENTS;NONE HUNDRED TALENTS;NFIVE HUNDRED TALENTS;NONE THOUSAND TALENTS;NFIVE THOUSAND TALENTS;
SSTATERS;NTEN STATERS;NFIFTY STATERS;NONE HUNDRED STATERS;NFIVE HUNDRED STATERS;NONE THOUSAND STATERS;
NTEN THOUSAND STATERS;NFIFTY THOUSAND STATERS;NTEN MNAS;HHERAEUM ONE PLETHRON;HTHESPIAN ONE;HHERMIONIAN ONE;
HEPIDAUREAN TWO;HTHESPIAN TWO;HCYRENAIC TWO DRACHMAS;HEPIDAUREAN TWO DRACHMAS;HTROEZENIAN FIVE;STEN;V ALTERNATE FORM;
HHERMIONIAN TEN;HMESSENIAN TEN;HTHESPIAN TEN;RHIRTY;IROEZENIAN FIFTY;X ALTERNATE FORM;HHERMIONIAN FIFTY;
HTHESPIAN FIFTY;QONE HUNDRED;QTHREE HUNDRED;HEPIDAUREAN FIVE HUNDRED;HTROEZENIAN FIVE HUNDRED;IHESPIAN FIVE HUNDRED;
HCARYSTIAN FIVE HUNDRED;HNAXIAN FIVE HUNDRED;HTHESPIAN ONE THOUSAND;QFIVE THOUSAND;HDELPHIC FIVE MNAS;
HSTRATIAN FIFTY MNAS;6ONE HALF SIGN;J ALTERNATE FORM;6TWO THIRDS SIGN;7HREE QUARTERS SIGN;6YEAR SIGN;6TALENT SIGN;
6DRACHMA SIGN;6OBOL SIGN;6TWO OBOLS SIGN;7HREE OBOLS SIGN;6FOUR OBOLS SIGN;7IVE OBOLS SIGN;6METRETES SIGN;
6KYATHOS BASE SIGN;6LITRA SIGN;6OUNKIA SIGN;6XESTES SIGN;6ARTABE SIGN;8OURA SIGN;6GRAMMA SIGN;6TRYBLION BASE SIGN;
6ZERO SIGN;6ONE QUARTER SIGN;6SINUSOID SIGN;6INDICTION SIGN;0NOMISMA SIGN;@10190;0ROMAN SEXTANS SIGN;6UNCIA SIGN;
6SEMUNCIA SIGN;8XTULA SIGN;6DIMIDIA SEXTULA SIGN;6SILIQUA SIGN;6DENARIUS SIGN;6QUINARIUS SIGN;6SESTERTIUS SIGN;
6DUPONDIUS SIGN;6AS SIGN;6CENTURIAL SIGN;0ASCIA SYMBOL;@101A0;0GREEK SYMBOL TAU RHO;@101D0;
0PHAISTOS DISC SIGN PEDESTRIAN;KLUMED HEAD;JTATTOOED HEAD;JCAPTIVE;KHILD;JWOMAN;JHELMET;JGAUNTLET;JTIARA;JARROW;JBOW;
JSHIELD;JCLUB;JMANACLES;LTTOCK;JSAW;JLID;JBOOMERANG;JCARPENTRY PLANE;JDOLIUM;JCOMB;JSLING;JCOLUMN;JBEEHIVE;JSHIP;JHORN;
KIDE;JBULLS LEG;JCAT;JRAM;JEAGLE;JDOVE;JTUNNY;JBEE;JPLANE TREE;JVINE;JPAPYRUS;JROSETTE;JLILY;JOX BACK;JFLUTE;JGRATER;
JSTRAINER;KMALL AXE;JWAVY BAND;JCOMBINING OBLIQUE STROKE;@10280;0LYCIAN LETTER A;EE;EB;FH;EG;ED;EI;EW;EZ;ETH;EJ;EK;EQ;
EL;EM;EN;EMM;ENN;EU;EP;EKK;ER;ES;ET;FT;EAN;EEN;EH;EX;@102A0;0CARIAN LETTER A;EP2;ED;EL;EUUU;ER;ELD;EA2;EQ;EB;EM;EO;ED2;
ET;ESH;G2;F;EC-18;EU;ENN;EX;EN;ETT2;EP;ESS;EI;EE;EUUUU;EK;F2;END;EUU;EG;F2;EST;G2;ENG;EII;EC-39;ETT;EUUU2;ERR;EMB;G2;
G3;G4;ELD2;EE2;EUUU3;@102E0;1OPTIC EPACT THOUSANDS MARK;DDIGIT ONE;JTWO;KHREE;JFOUR;KIVE;JSIX;KEVEN;JEIGHT;JNINE;
DNUMBER TEN;LWENTY;LHIRTY;KFORTY;LIFTY;KSIXTY;LEVENTY;KEIGHTY;KNINETY;KONE HUNDRED;KTWO HUNDRED;LHREE HUNDRED;
KFOUR HUNDRED;LIVE HUNDRED;KSIX HUNDRED;LEVEN HUNDRED;KEIGHT HUNDRED;KNINE HUNDRED;@10300;0OLD ITALIC LETTER A;IBE;IKE;
IDE;IE;IVE;IZE;IHE;ITHE;II;IKA;IEL;JM;JN;JSH;IO;IPE;ISHE;IKU;IER;JS;ITE;IU;IEKS;IPHE;IKHE;IEF;JRS;ICHE;III;IUU;IESS;
BNUMERAL ONE;JFIVE;JTEN;JFIFTY;@1032D;BLETTER YE;INORTHERN TSE;ISOUTHERN TSE;0GOTHIC LETTER AHSA;EBAIRKAN;EGIBA;EDAGS;
EAIHVUS;EQAIRTHRA;EIUJA;EHAGL;ETHIUTH;EEIS;EKUSMA;ELAGUS;EMANNA;ENAUTHS;EJER;EURUS;EPAIRTHRA;ENINETY;ERAIDA;ESAUIL;
ETEIWS;EWINJA;EFAIHU;EIGGWS;EHWAIR;EOTHAL;ENINE HUNDRED;@10350;0OLD PERMIC LETTER AN;IBUR;IGAI;IDOI;IE;IZHOI;IDZHOI;
IZATA;IDZITA;II;IKOKE;ILEI;IMENOE;INENOE;IVOOI;IPEEI;IREI;ISII;ITAI;IU;ICHERY;ISHOOI;KCHOOI;IYRY;JERU;IO;JO;IEF;IHA;
ITSIU;IVER;IYER;LI;JAT;IIE;IYU;JA;IIA;0COMBINING OLD PERMIC LETTER AN;SDOI;SZATA;SNENOE;SSII;@10380;
0UGARITIC LETTER ALPA;GBETA;GGAMLA;GKHA;GDELTA;GHO;GWO;GZETA;GHOTA;GTET;GYOD;GKAF;GSHIN;GLAMDA;GMEM;GDHAL;GNUN;GZU;
GSAMKA;GAIN;GPU;GSADE;GQOPA;GRASHA;GTHANNA;GGHAIN;GTO;GI;GU;GSSU;@1039F;9WORD DIVIDER;0OLD PERSIAN SIGN A;HI;HU;HKA;IU;
HGA;IU;HXA;HCA;HJA;II;HTA;IU;HDA;II;IU;HTHA;HPA;HBA;HFA;HNA;IU;HMA;II;IU;HYA;HVA;II;HRA;IU;HLA;HSA;HZA;HSHA;ISA;HHA;
@103C8;HAURAMAZDAA;R-2;RHA;HXSHAAYATHIYA;HDAHYAAUSH;Q-2;HBAGA;IUUMISH;CWORD DIVIDER;CNUMBER ONE;JTWO;KEN;KWENTY;
JHUNDRED;@10400;0DESERET CAPITAL LETTER LONG I;SE;SA;TH;SO;TO;NSHORT I;TE;TA;UH;TO;UO;NAY;NOW;NWU;NYEE;NH;NPEE;NBEE;
NTEE;NDEE;NCHEE;NJEE;NKAY;NGAY;NEF;NVEE;NETH;NTHEE;NES;NZEE;NESH;NZHEE;NER;OL;OM;ON;PG;NOI;NEW;8SMALL LETTER LONG I;QE;
QA;RH;QO;RO;LSHORT I;RE;RA;SH;RO;SO;LAY;LOW;LWU;LYEE;LH;LPEE;LBEE;LTEE;LDEE;LCHEE;LJEE;LKAY;LGAY;LEF;LVEE;LETH;LTHEE;
LES;LZEE;LESH;LZHEE;LER;ML;MM;MN;NG;LOI;LEW;0SHAVIAN LETTER PEEP;FTOT;FKICK;FFEE;FTHIGH;FSO;GURE;FCHURCH;FYEA;FHUNG;
FBIB;FDEAD;FGAG;FVOW;FTHEY;FZOO;FMEASURE;FJUDGE;FWOE;FHA-HA;FLOLL;FMIME;FIF;FEGG;FASH;GDO;FON;FWOOL;FOUT;FAH;FROAR;
FNUN;FEAT;FAGE;FICE;FUP;FOAK;GOZE;GIL;FAWE;GRE;FOR;FAIR;FERR;FARRAY;FEAR;FIAN;FYEW;0OSMANYA LETTER ALEF;FBA;FTA;FJA;
FXA;FKHA;FDEEL;FRA;FSA;GHIIN;FDHA;FCAYN;FGA;FFA;FQAAF;FKAAF;FLAAN;FMIIN;FNUUN;FWAW;FHA;FYA;FA;FE;FI;FO;FU;FAA;FEE;FOO;
@104A0;8DIGIT ZERO;EONE;ETWO;FHREE;EFOUR;FIVE;ESIX;FEVEN;EEIGHT;ENINE;@104B0;2AGE CAPITAL LETTER A;MI;NN;MH;LBRA;LCHA;
LEHCHA;M;MIN;LHA;MYA;LI;LKA;LEHKA;LKYA;LLA;LMA;LNA;LO;MIN;LPA;LEHPA;LSA;MHA;LTA;LEHTA;LTSA;LEHTSA;LTSHA;LDHA;LU;LWA;
LKHA;LGHA;LZA;MHA;@104D8;6SMALL LETTER A;KI;LN;KH;JBRA;JCHA;JEHCHA;K;KIN;JHA;KYA;JI;JKA;JEHKA;JKYA;JLA;JMA;JNA;JO;KIN;
JPA;JEHPA;JSA;KHA;JTA;JEHTA;JTSA;JEHTSA;JTSHA;JDHA;JU;JWA;JKHA;JGHA;JZA;KHA;@10500;0ELBASAN LETTER A;FBE;FCE;GHE;FDE;
FNDE;FDHE;FEI;G;FFE;FGE;GJE;FHE;FI;FJE;FKE;FLE;GLE;FME;FNE;GA;GJE;FO;FPE;FQE;FRE;GRE;FSE;GHE;FTE;GHE;FU;FVE;FXE;FY;FZE;
GHE;FGHE;HAMMA;FKHE;@10530;0CAUCASIAN ALBANIAN LETTER ALT;QBET;QGIM;QDAT;QEB;QZARL;QEYN;QZHIL;QTAS;QCHA;QYOWD;QZHA;
QIRB;QSHA;QLAN;QINYA;QXEYN;QDYAN;QCAR;QJHOX;QKAR;QLYIT;QHEYT;QQAY;QAOR;QCHOY;SI;RYAY;QMAQ;QQAR;QNOWC;QDZYAY;QSHAK;
QJAYN;QON;QTYAY;QFAM;QDZAY;QCHAT;QPEN;QGHEYS;QRAT;QSEYK;QVEYZ;QTIWR;QSHOY;QIWN;QCYAW;RAYN;QYAYD;QPIWR;QKIW;@1056F;
JCITATION MARK;0VITHKUQI CAPITAL LETTER A;OBBE;PE;OCE;PHE;ODE;PHE;OEI;P;OFE;OGA;@1057C;OHA;PHA;OI;PJE;OJE;OKA;OLA;PLA;
OME;ONE;PJE;OO;OPE;OQA;ORE;@1058C;OSE;PHE;OTE;PHE;OU;OVE;OXE;@10594;OY;OZE;@10597;9SMALL LETTER A;MBBE;NE;MCE;NHE;MDE;
NHE;MEI;N;MFE;MGA;@105A3;MHA;NHA;MI;NJE;MJE;MKA;MLA;NLA;MME;MNE;NJE;MO;MPE;MQA;MRE;@105B3;MSE;NHE;MTE;NHE;MU;MVE;MXE;
@105BB;MY;MZE;@10600;0LINEAR A SIGN AB001;I2;I3;I4;I5;I6;I7;I8;I9;H10;I1;I3;I6;I7;H20;I1;JF;JM;I2;JF;JM;I3;JM;I4;I6;I7;
I8;F028B;FB029;H30;I1;I4;I7;I8;I9;H40;I1;I4;I5;I6;I7;I8;I9;H50;I1;I3;I4;I5;I6;I7;I8;I9;H60;I1;I5;I6;I7;I9;H70;I3;I4;I6;
I7;I8;I9;H80;I1;I2;I5;I6;I7;F100-102;FB118;H20;F120B;FB122;I3;H31A;JB;F131C;FB164;H71;H80;I8;H91;F301;H2;H3;H4;H5;H6;
H7;H8;H9A;IB;IC;G10;H1;H2;H3A;IB;IC;H4;H5;H6;H7;H8;H9;G20;H1;H2;H3;H4;H5;H6;H7;H8;H9;G30;H1;H2;H3;H4;H5;H6;H7;H8;H9;
G40;H1;H2;H3;H4;H5;H6;H7;H8;H9;G50;H1;H2;H3;H4;H5;H6;H7;H8;H9;G60;H1;H2;H3;H4;H5;H6;H7;H8;H9;G70;H1;F400-VAS;H1-VAS;
H2-VAS;H3-VAS;H4-VAS;H5-VAS;H6-VAS;H7-VAS;H8-VAS;H9-VAS;G10-VAS;H1-VAS;H2-VAS;H3-VAS;H4-VAS;H5-VAS;H6-VAS;H7-VAS;
H8-VAS;F501;H2;H3;H4;H5;H6;H8;H9;G10;H1;H2;H3;H5;H6;G20;H1;H3;H4;H5;H6;H7;H8;H9;G30;H1;H2;H4;H5;H6;H7;H8;H9;G40;H1;H2;
H5;H7;H8;H9;G50;H1;H2;H3;H4;H5;H6;H7;H9;G63;H4;H5;H6;H8;H9;G70;H1;H2;H3;H4;H5;H6;H7;H8;H9;G80;H1;H2;H3;H4;H5;H6;H7;H8;
H9;G91;H2;H4;H5;H6;H8;F600;H1;H2;H3;H4;H6;H8;H9;G10;H1;H2;H3;H4;H5;H6;H7;H8;H9;G20;H1;H2;H3;H4;H6;H7;H8;H9;G34;H7;H8;
G40;H2;H3;H4;H5;H6;H8;H9;G51;H2;H3;H4;H5;H6;H7;H8;H9;G60;H1;H2;H3;H4;@10740;F701 A;H2 B;H3 D;H4 E;H5 F;H6 H;H7 J;H8 K;
H9 L;I-2 L2;J3 L3;J4 L4;J6 L6;G10 W;H1 X;H2 Y;H3 OMEGA;H4 ABB;H5 BB;H7 DD;G26 EYYY;G32 JE;@10760;F800;H1;H2;H3;H4;H5;
H6;H7;@10780;0MODIFIER LETTER SMALL CAPITAL AA;HUPERSCRIPT TRIANGULAR COLON;SHALF TRIANGULAR COLON;HMALL AE;MCAPITAL B;
MB WITH HOOK;@10787;MDZ DIGRAPH;W WITH RETROFLEX HOOK;cCURL;NEZH DIGRAPH;N WITH TAIL;THOOK;X AND TAIL;MREVERSED E;
MCLOSED REVERSED OPEN E;MFENG DIGRAPH;MRAMS HORN;MCAPITAL G;MG WITH HOOK;MCAPITAL G WITH HOOK;MH WITH STROKE;
MCAPITAL H;MHENG WITH HOOK;MDOTLESS J WITH STROKE AND HOOK;MLS DIGRAPH;NZ DIGRAPH;N WITH BELT;MCAPITAL L WITH BELT;
ML WITH RETROFLEX HOOK AND BELT;NEZH;Q WITH RETROFLEX HOOK;MTURNED Y;U WITH BELT;MO WITH STROKE;MCAPITAL OE;
NLOSED OMEGA;MQ;MTURNED R WITH LONG LEG;i AND RETROFLEX HOOK;MR WITH TAIL;TFISHHOOK;MCAPITAL R;MTC DIGRAPH WITH CURL;
NS DIGRAPH;W WITH RETROFLEX HOOK;NESH DIGRAPH;N WITH RETROFLEX HOOK;MV WITH RIGHT HOOK;@107B2;MCAPITAL Y;
GGLOTTAL STOP WITH STROKE;GREVERSED GLOTTAL STOP WITH STROKE;GBILABIAL CLICK;GDENTAL CLICK;GLATERAL CLICK;
GALVEOLAR CLICK;GRETROFLEX CLICK WITH RETROFLEX HOOK;GSMALL S WITH CURL;@10800;0CYPRIOT SYLLABLE A;HE;HI;HO;HU;HJA;
@10808;IO;@1080A;HKA;IE;II;IO;IU;HLA;IE;II;IO;IU;HMA;IE;II;IO;IU;HNA;IE;II;IO;IU;HPA;IE;II;IO;IU;HRA;IE;II;IO;IU;HSA;
IE;II;IO;IU;HTA;IE;II;IO;IU;HWA;IE;II;IO;@10837;HXA;IE;@1083C;HZA;@1083F;IO;0IMPERIAL ARAMAIC LETTER ALEPH;OBETH;
OGIMEL;ODALETH;OHE;OWAW;OZAYIN;OHETH;OTETH;OYODH;OKAPH;OLAMEDH;OMEM;ONUN;OSAMEKH;OAYIN;OPE;OSADHE;OQOPH;ORESH;OSHIN;
OTAW;@10857;HSECTION SIGN;HNUMBER ONE;OTWO;PHREE;PEN;PWENTY;OONE HUNDRED;STHOUSAND;OTEN THOUSAND;
0PALMYRENE LETTER ALEPH;HBETH;HGIMEL;HDALETH;HHE;HWAW;HZAYIN;HHETH;HTETH;HYODH;HKAPH;HLAMEDH;HMEM;HFINAL NUN;HNUN;
HSAMEKH;HAYIN;HPE;HSADHE;HQOPH;HRESH;HSHIN;HTAW;CFT-POINTING FLEURON;ARIGHT-POINTING FLEURON;ANUMBER ONE;HTWO;IHREE;
HFOUR;IIVE;HTEN;IWENTY;0NABATAEAN LETTER FINAL ALEPH;HALEPH;HFINAL BETH;HBETH;HGIMEL;HDALETH;HFINAL HE;HHE;HWAW;HZAYIN;
HHETH;HTETH;HFINAL YODH;HYODH;HFINAL KAPH;HKAPH;HFINAL LAMEDH;HLAMEDH;HFINAL MEM;HMEM;HFINAL NUN;HNUN;HSAMEKH;HAYIN;
HPE;HSADHE;HQOPH;HRESH;HFINAL SHIN;HSHIN;HTAW;@108A7;ANUMBER ONE;HTWO;IHREE;HFOUR;ACRUCIFORM NUMBER FOUR;ANUMBER FIVE;
HTEN;IWENTY;HONE HUNDRED;@108E0;0HATRAN LETTER ALEPH;EBETH;EGIMEL;EDALETH-RESH;EHE;EWAW;EZAYN;EHETH;ETETH;EYODH;EKAPH;
ELAMEDH;EMEM;ENUN;ESAMEKH;EAYN;EPE;ESADHE;EQOPH;@108F4;ESHIN;ETAW;@108FB;7NUMBER ONE;EFIVE;ETEN;FWENTY;EONE HUNDRED;
0PHOENICIAN LETTER ALF;IBET;IGAML;IDELT;IHE;IWAU;IZAI;IHET;ITET;IYOD;IKAF;ILAMD;IMEM;INUN;ISEMK;IAIN;IPE;ISADE;IQOF;
IROSH;ISHIN;ITAU;BNUMBER ONE;ITEN;JWENTY;IONE HUNDRED;ITWO;JHREE;@1091F;BWORD SEPARATOR;0LYDIAN LETTER A;EB;EG;ED;EE;
EV;EI;EY;EK;EL;EM;EN;EO;ER;ESS;ET;EU;EF;EQ;ES;ETT;EAN;EEN;ELY;ENN;EC;@1093F;7TRIANGULAR MARK;@10980;
0MEROITIC HIEROGLYPHIC LETTER A;TE;TI;TO;TYA;TWA;TBA;V-2;TPA;TMA;TNA;V-2;UE;V-2;TRA;V-2;TLA;TKHA;THHA;TSA;V-2;UE;TKA;
TQA;TTA;V-2;UE;V-2;UO;TDA;MSYMBOL VIDJ;X-2;9CURSIVE LETTER A;OE;OI;OO;OYA;OWA;OBA;OPA;OMA;ONA;PE;ORA;OLA;OKHA;OHHA;OSA;
OARCHAIC SA;OSE;OKA;OQA;OTA;PE;PO;ODA;@109BC;HFRACTION ELEVEN TWELFTHS;QONE HALF;HLOGOGRAM RMT;QIMN;HNUMBER ONE;OTWO;
PHREE;OFOUR;PIVE;OSIX;PEVEN;OEIGHT;ONINE;OTEN;PWENTY;PHIRTY;OFORTY;PIFTY;OSIXTY;PEVENTY;@109D2;OONE HUNDRED;
OTWO HUNDRED;PHREE HUNDRED;OFOUR HUNDRED;PIVE HUNDRED;OSIX HUNDRED;PEVEN HUNDRED;OEIGHT HUNDRED;ONINE HUNDRED;
OONE THOUSAND;OTWO THOUSAND;PHREE THOUSAND;OFOUR THOUSAND;PIVE THOUSAND;OSIX THOUSAND;PEVEN THOUSAND;OEIGHT THOUSAND;
ONINE THOUSAND;OTEN THOUSAND;PWENTY THOUSAND;PHIRTY THOUSAND;OFORTY THOUSAND;PIFTY THOUSAND;OSIXTY THOUSAND;
PEVENTY THOUSAND;OEIGHTY THOUSAND;ONINETY THOUSAND;OONE HUNDRED THOUSAND;OTWO HUNDRED THOUSAND;PHREE HUNDRED THOUSAND;
OFOUR HUNDRED THOUSAND;PIVE HUNDRED THOUSAND;OSIX HUNDRED THOUSAND;PEVEN HUNDRED THOUSAND;OEIGHT HUNDRED THOUSAND;
ONINE HUNDRED THOUSAND;HFRACTION ONE TWELFTH;QTWO TWELFTHS;RHREE TWELFTHS;QFOUR TWELFTHS;RIVE TWELFTHS;QSIX TWELFTHS;
REVEN TWELFTHS;QEIGHT TWELFTHS;QNINE TWELFTHS;QTEN TWELFTHS;0KHAROSHTHI LETTER A;BVOWEL SIGN I;MU;MVOCALIC R;@10A05;ME;
MO;@10A0C;HLENGTH MARK;BSIGN DOUBLE RING BELOW;GANUSVARA;GVISARGA;BLETTER KA;JHA;IGA;JHA;@10A15;ICA;JHA;IJA;@10A19;
INYA;ITTA;KHA;IDDA;KHA;INNA;ITA;JHA;IDA;JHA;INA;IPA;JHA;IBA;JHA;IMA;IYA;IRA;ILA;IVA;ISHA;JSA;JA;IZA;IHA;IKKA;ITTTHA;LA;
IVHA;@10A38;BSIGN BAR ABOVE;GCAUDA;GDOT BELOW;@10A3F;BVIRAMA;BDIGIT ONE;HTWO;IHREE;HFOUR;BNUMBER TEN;JWENTY;
IONE HUNDRED;MTHOUSAND;BFRACTION ONE HALF;@10A50;BPUNCTUATION DOT;NSMALL CIRCLE;NCIRCLE;ORESCENT BAR;NMANGALAM;NLOTUS;
NDANDA;OOUBLE DANDA;NLINES;@10A60;0OLD SOUTH ARABIAN LETTER HE;PLAMEDH;PHETH;PMEM;PQOPH;PWAW;PSHIN;PRESH;PBETH;PTAW;
PSAT;PKAPH;PNUN;PKHETH;PSADHE;RMEKH;PFE;PALEF;QYN;PDHADHE;PGIMEL;PDALETH;PGHAYN;PTETH;PZAYN;PDHALETH;PYODH;PTHAW;RETH;
INUMBER ONE;PFIFTY;LERIC INDICATOR;4NORTH ARABIAN LETTER HEH;PLAM;PHAH;PMEEM;PQAF;PWAW;PES-2;PREH;PBEH;PTEH;PES-1;PKAF;
PNOON;PKHAH;PSAD;PES-3;PFEH;PALEF;QIN;PDAD;PGEEM;PDAL;PGHAIN;PTAH;PZAIN;PTHAL;PYEH;PTHEH;PZAH;INUMBER ONE;PTEN;QWENTY;
@10AC0;0MANICHAEAN LETTER ALEPH;IBETH;JHETH;IGIMEL;JHIMEL;IDALETH;IHE;IWAW;BSIGN UD;BLETTER ZAYIN;JHAYIN;IJAYIN;JHAYIN;
IHETH;ITETH;IYODH;IKAPH;IXAPH;IKHAPH;ILAMEDH;IDHAMEDH;ITHAMEDH;IMEM;INUN;ISAMEKH;IAYIN;JAYIN;IPE;IFE;ISADHE;IQOPH;
IXOPH;IQHOPH;IRESH;ISHIN;JSHIN;ITAW;BABBREVIATION MARK ABOVE;TBELOW;@10AEB;BNUMBER ONE;IFIVE;ITEN;JWENTY;IONE HUNDRED;
BPUNCTUATION STAR;NFLEURON;NDOUBLE DOT WITHIN DOT;PT WITHIN DOT;Q;NTWO DOTS;NLINE FILLER;@10B00;0AVESTAN LETTER A;GA;
GO;GAO;GN;GAN;GE;HE;FE;GE;FO;GO;FI;GI;FU;GU;FKE;FXE;GYE;GVE;FGE;GGE;GHE;FCE;FJE;FTE;GHE;FDE;GHE;FTTE;FPE;FFE;FBE;GHE;
FNGE;HYE;HVE;GE;GYE;GNE;FME;FHME;FYYE;GE;FVE;FRE;FLE;FSE;FZE;FSHE;FZHE;FSHYE;GSHE;FHE;@10B39;8ABBREVIATION MARK;
0TINY TWO DOTS OVER ONE DOT PUNCTUATION;0SMALL TWO DOTS OVER ONE DOT PUNCTUATION;
0LARGE TWO DOTS OVER ONE DOT PUNCTUATION;6ONE DOT OVER TWO DOTS PUNCTUATION;6TWO RINGS OVER ONE RING PUNCTUATION;
6ONE RING OVER TWO RINGS PUNCTUATION;0INSCRIPTIONAL PARTHIAN LETTER ALEPH;UBETH;UGIMEL;UDALETH;UHE;UWAW;UZAYIN;UHETH;
UTETH;UYODH;UKAPH;ULAMEDH;UMEM;UNUN;USAMEKH;UAYIN;UPE;USADHE;UQOPH;URESH;USHIN;UTAW;@10B58;NNUMBER ONE;UTWO;VHREE;
UFOUR;UTEN;VWENTY;UONE HUNDRED;YTHOUSAND;GHLAVI LETTER ALEPH;TBETH;TGIMEL;TDALETH;THE;TWAW-AYIN-RESH;TZAYIN;THETH;
TTETH;TYODH;TKAPH;TLAMEDH;TMEM-QOPH;TNUN;TSAMEKH;TPE;TSADHE;UHIN;TTAW;@10B78;MNUMBER ONE;TTWO;UHREE;TFOUR;TTEN;UWENTY;
TONE HUNDRED;XTHOUSAND;0PSALTER PAHLAVI LETTER ALEPH;NBETH;NGIMEL;NDALETH;NHE;NWAW-AYIN-RESH;NZAYIN;NHETH;NYODH;NKAPH;
NLAMEDH;NMEM-QOPH;NNUN;NSAMEKH;NPE;NSADHE;OHIN;NTAW;@10B99;GSECTION MARK;GTURNED SECTION MARK;GFOUR DOTS WITH CROSS;
VDOT;@10BA9;GNUMBER ONE;NTWO;OHREE;NFOUR;NTEN;OWENTY;NONE HUNDRED;@10C00;0OLD TURKIC LETTER ORKHON A;IYENISEI A;RE;
IORKHON I;IYENISEI I;QE;IORKHON O;QE;IYENISEI OE;IORKHON AB;IYENISEI AB;IORKHON AEB;IYENISEI AEB;IORKHON AG;
IYENISEI AG;IORKHON AEG;IYENISEI AEG;IORKHON AD;IYENISEI AD;IORKHON AED;PEZ;IYENISEI EZ;IORKHON AY;IYENISEI AY;
IORKHON AEY;IYENISEI AEY;IORKHON AEK;IYENISEI AEK;IORKHON OEK;IYENISEI OEK;IORKHON AL;IYENISEI AL;IORKHON AEL;PELT;QM;
PAN;QEN;IYENISEI AEN;IORKHON ENT;IYENISEI ENT;IORKHON ENC;IYENISEI ENC;IORKHON ENY;IYENISEI ENY;QANG;IORKHON ENG;
IYENISEI AENG;IORKHON EP;POP;PIC;PEC;IYENISEI EC;IORKHON AQ;IYENISEI AQ;IORKHON IQ;IYENISEI IQ;IORKHON OQ;IYENISEI OQ;
IORKHON AR;IYENISEI AR;IORKHON AER;QS;QES;QSH;IYENISEI ASH;IORKHON ESH;IYENISEI ESH;IORKHON AT;IYENISEI AT;IORKHON AET;
IYENISEI AET;IORKHON OT;PBASH;@10C80;4HUNGARIAN CAPITAL LETTER A;UA;TEB;TAMB;TEC;UNC;UCS;UD;TAND;TE;TCLOSE E;TEE;UF;UG;
VY;UH;TI;UI;TEJ;UK;TAK;TUNK;TEL;VY;UM;UN;VY;TO;UO;TNIKOLSBURG OE;TRUDIMENTA OE;TOEE;TEP;UMP;UR;TSHORT ER;TES;VZ;UT;UNT;
UTY;UCH;TU;UU;TNIKOLSBURG UE;TRUDIMENTA UE;TEV;UZ;VS;UNT-SHAPED SIGN;TUS;@10CC0;ESMALL LETTER A;SA;REB;RAMB;REC;SNC;
SCS;SD;RAND;RE;RCLOSE E;REE;SF;SG;TY;SH;RI;SI;REJ;SK;RAK;RUNK;REL;TY;SM;SN;TY;RO;SO;RNIKOLSBURG OE;RRUDIMENTA OE;ROEE;
REP;SMP;SR;RSHORT ER;RES;TZ;ST;SNT;STY;SCH;RU;SU;RNIKOLSBURG UE;RRUDIMENTA UE;REV;SZ;TS;SNT-SHAPED SIGN;RUS;@10CFA;
ENUMBER ONE;LFIVE;LTEN;LFIFTY;LONE HUNDRED;PTHOUSAND;0HANIFI ROHINGYA LETTER A;NBA;NPA;NTA;OTA;NJA;NCA;NHA;NKHA;NFA;
NDA;ODA;NRA;ORA;NZA;NSA;OHA;NKA;NGA;NLA;NMA;NNA;NWA;NKINNA WA;NYA;NKINNA YA;NNGA;OYA;NVA;GVOWEL A;MI;MU;ME;MO;
GMARK SAKIN;LNA KHONNA;GSIGN HARBAHAY;LTAHALA;NNA;NSSI;@10D30;GDIGIT ZERO;MONE;MTWO;NHREE;MFOUR;NIVE;MSIX;NEVEN;MEIGHT;
MNINE;@10E60;0RUMI DIGIT ONE;BTWO;CHREE;BFOUR;CIVE;BSIX;CEVEN;BEIGHT;BNINE;5NUMBER TEN;DWENTY;DHIRTY;CFORTY;DIFTY;
CSIXTY;DEVENTY;CEIGHTY;CNINETY;CONE HUNDRED;CTWO HUNDRED;DHREE HUNDRED;CFOUR HUNDRED;DIVE HUNDRED;CSIX HUNDRED;
DEVEN HUNDRED;CEIGHT HUNDRED;CNINE HUNDRED;5FRACTION ONE HALF;IQUARTER;ITHIRD;ETWO THIRDS;@10E80;0YEZIDI LETTER ELIF;
EBE;EPE;FHE;ETHE;ESE;ECIM;FHIM;GHIM;EHHA;EXA;EDAL;EZAL;ERA;FHA;EZA;EJA;ESIN;FHIN;FAD;EDAD;ETA;EZE;EEYN;EXHEYN;EFA;EVA;
G ALTERNATE FORM;EQAF;EKAF;FHAF;EGAF;ELAM;EMIM;ENUN;EUM;EWAW;EOW;EEW;EHAY;EYOT;EET;@10EAB;7COMBINING HAMZA MARK;
HMADDA MARK;7HYPHENATION MARK;@10EB0;7LETTER LAM WITH DOT ABOVE;EYOT WITH CIRCUMFLEX ABOVE;@10F00;
0OLD SOGDIAN LETTER ALEPH;JFINAL ALEPH;JBETH;JFINAL BETH;JGIMEL;JHE;JFINAL HE;JWAW;JZAYIN;JHETH;JYODH;JKAPH;JLAMEDH;
JMEM;JNUN;JFINAL NUN;S WITH VERTICAL TAIL;JSAMEKH;JAYIN;KLTERNATE AYIN;JPE;JSADHE;JFINAL SADHE;U WITH VERTICAL TAIL;
JRESH-AYIN-DALETH;JSHIN;JTAW;JFINAL TAW;S WITH VERTICAL TAIL;CNUMBER ONE;JTWO;KHREE;JFOUR;KIVE;JTEN;KWENTY;KHIRTY;
JONE HUNDRED;CFRACTION ONE HALF;CLIGATURE AYIN-DALETH;@10F30;0SOGDIAN LETTER ALEPH;FBETH;FGIMEL;FHE;FWAW;FZAYIN;FHETH;
FYODH;FKAPH;FLAMEDH;FMEM;FNUN;FSAMEKH;FAYIN;FPE;FSADHE;FRESH-AYIN;FSHIN;FTAW;FFETH;FLESH;8INDEPENDENT SHIN;
8COMBINING DOT BELOW;ITWO DOTS BELOW;IDOT ABOVE;ITWO DOTS ABOVE;ICURVE ABOVE;OBELOW;IHOOK ABOVE;NBELOW;
ILONG HOOK BELOW;IRESH BELOW;ISTROKE BELOW;8NUMBER ONE;FTEN;GWENTY;FONE HUNDRED;8PUNCTUATION TWO VERTICAL BARS;
b WITH DOTS;KCIRCLE WITH DOT;KTWO CIRCLES WITH DOTS;KHALF CIRCLE WITH DOT;@10F70;0OLD UYGHUR LETTER ALEPH;IBETH;
IGIMEL-HETH;IWAW;IZAYIN;IFINAL HETH;IYODH;IKAPH;ILAMEDH;IMEM;INUN;ISAMEKH;IPE;ISADHE;IRESH;ISHIN;ITAW;ILESH;
BCOMBINING DOT ABOVE;PBELOW;LTWO DOTS ABOVE;UBELOW;BPUNCTUATION BAR;NTWO BARS;RDOTS;NFOUR DOTS;@10FB0;
0CHORASMIAN LETTER ALEPH;ISMALL ALEPH;IBETH;IGIMEL;IDALETH;IHE;IWAW;ICURLED WAW;IZAYIN;IHETH;IYODH;IKAPH;ILAMEDH;IMEM;
INUN;ISAMEKH;IAYIN;IPE;IRESH;ISHIN;ITAW;BNUMBER ONE;ITWO;JHREE;IFOUR;ITEN;JWENTY;IONE HUNDRED;@10FE0;
0ELYMAIC LETTER ALEPH;FBETH;FGIMEL;FDALETH;FHE;FWAW;FZAYIN;FHETH;FTETH;FYODH;FKAPH;FLAMEDH;FMEM;FNUN;FSAMEKH;FAYIN;FPE;
FSADHE;FQOPH;FRESH;FSHIN;FTAW;9IGATURE ZAYIN-YODH;@11000;0BRAHMI SIGN CANDRABINDU;CANUSVARA;CVISARGA;CJIHVAMULIYA;
CUPADHMANIYA;7LETTER A;FA;EI;FI;EU;FU;EVOCALIC R;NR;ML;NL;EE;EAI;EO;EAU;EKA;FHA;EGA;FHA;ENGA;ECA;FHA;EJA;FHA;ENYA;ETTA;
GHA;EDDA;GHA;ENNA;ETA;FHA;EDA;FHA;ENA;EPA;FHA;EBA;FHA;EMA;EYA;ERA;ELA;EVA;ESHA;FSA;FA;EHA;ELLA;EOLD TAMIL LLLA;ORRA;
ONNNA;7VOWEL SIGN AA;IBHATTIPROLU AA;II;JI;IU;JU;IVOCALIC R;RR;QL;RL;IE;IAI;IO;IAU;8IRAMA;7DANDA;8OUBLE DANDA;
7PUNCTUATION DOT;LUBLE DOT;JLINE;JCRESCENT BAR;JLOTUS;@11052;7NUMBER ONE;ETWO;FHREE;EFOUR;FIVE;ESIX;FEVEN;EEIGHT;ENINE;
ETEN;FWENTY;FHIRTY;EFORTY;FIFTY;ESIXTY;FEVENTY;EEIGHTY;ENINETY;EONE HUNDRED;ITHOUSAND;7DIGIT ZERO;DONE;DTWO;EHREE;
DFOUR;EIVE;DSIX;EEVEN;DEIGHT;DNINE;7SIGN OLD TAMIL VIRAMA;7LETTER OLD TAMIL SHORT E;UO;7VOWEL SIGN OLD TAMIL SHORT E;
YO;7LETTER OLD TAMIL LLA;@1107F;7NUMBER JOINER;0KAITHI SIGN CANDRABINDU;CANUSVARA;CVISARGA;7LETTER A;FA;EI;FI;EU;FU;EE;
EAI;EO;EAU;EKA;FHA;EGA;FHA;ENGA;ECA;FHA;EJA;FHA;ENYA;ETTA;GHA;EDDA;GDHA;GHA;ERHA;ENNA;ETA;FHA;EDA;FHA;ENA;EPA;FHA;EBA;
FHA;EMA;EYA;ERA;ELA;EVA;ESHA;FSA;FA;EHA;7VOWEL SIGN AA;II;JI;IU;JU;IE;IAI;IO;IAU;7SIGN VIRAMA;CNUKTA;
7ABBREVIATION SIGN;7ENUMERATION SIGN;7NUMBER SIGN;7SECTION MARK;7DOUBLE SECTION MARK;8ANDA;8OUBLE DANDA;
7VOWEL SIGN VOCALIC R;@110CD;7NUMBER SIGN ABOVE;@110D0;0SORA SOMPENG LETTER SAH;KTAH;KBAH;KCAH;KDAH;KGAH;KMAH;KNGAH;
KLAH;KNAH;KVAH;KPAH;KYAH;KRAH;KHAH;KKAH;KJAH;KNYAH;KAH;KEEH;KIH;KUH;KOH;KEH;KMAE;@110F0;DDIGIT ZERO;JONE;JTWO;KHREE;
JFOUR;KIVE;JSIX;KEVEN;JEIGHT;JNINE;@11100;0CHAKMA SIGN CANDRABINDU;CANUSVARA;CVISARGA;7LETTER AA;EI;EU;EE;EKAA;FHAA;
EGAA;FHAA;ENGAA;ECAA;FHAA;EJAA;FHAA;ENYAA;ETTAA;GHAA;EDDAA;GHAA;ENNAA;ETAA;FHAA;EDAA;FHAA;ENAA;EPAA;FHAA;EBAA;FHAA;
EMAA;EYYAA;FAA;ERAA;ELAA;EWAA;ESAA;EHAA;7VOWEL SIGN A;II;JI;IU;JU;IE;IAI;IO;IAU;IOI;7O MARK;7AU MARK;7VIRAMA;7MAAYYAA;
@11136;7DIGIT ZERO;DONE;DTWO;EHREE;DFOUR;EIVE;DSIX;EEVEN;DEIGHT;DNINE;7SECTION MARK;7DANDA;8OUBLE DANDA;7QUESTION MARK;
7LETTER LHAA;7VOWEL SIGN AA;IEI;7LETTER VAA;@11150;0MAHAJANI LETTER A;GI;GU;GE;GO;GKA;HHA;GGA;HHA;GCA;HHA;GJA;HHA;GNYA;
GTTA;IHA;GDDA;IHA;GNNA;GTA;HHA;GDA;HHA;GNA;GPA;HHA;GBA;HHA;GMA;GRA;GLA;GVA;GSA;GHA;GRRA;9SIGN NUKTA;9ABBREVIATION SIGN;
9SECTION MARK;9LIGATURE SHRI;@11180;0SHARADA SIGN CANDRABINDU;DANUSVARA;DVISARGA;8LETTER A;GA;FI;GI;FU;GU;FVOCALIC R;
OR;NL;OL;FE;FAI;FO;FAU;FKA;GHA;FGA;GHA;FNGA;FCA;GHA;FJA;GHA;FNYA;FTTA;HHA;FDDA;HHA;FNNA;FTA;GHA;FDA;GHA;FNA;FPA;GHA;
FBA;GHA;FMA;FYA;FRA;FLA;GLA;FVA;FSHA;GSA;GA;FHA;8VOWEL SIGN AA;JI;KI;JU;KU;JVOCALIC R;SR;RL;SL;JE;JAI;JO;JAU;
8SIGN VIRAMA;DAVAGRAHA;DJIHVAMULIYA;DUPADHMANIYA;8OM;8DANDA;9OUBLE DANDA;8ABBREVIATION SIGN;8SEPARATOR;9ANDHI MARK;
9IGN NUKTA;8VOWEL MODIFIER MARK;8EXTRA SHORT VOWEL MARK;8SUTRA MARK;8VOWEL SIGN PRISHTHAMATRA E;
8SIGN INVERTED CANDRABINDU;8DIGIT ZERO;EONE;ETWO;FHREE;EFOUR;FIVE;ESIX;FEVEN;EEIGHT;ENINE;8EKAM;8SIGN SIDDHAM;
8HEADSTROKE;8CONTINUATION SIGN;8SECTION MARK-1;L2;@111E1;1INHALA ARCHAIC DIGIT ONE;MTWO;NHREE;MFOUR;NIVE;MSIX;NEVEN;
MEIGHT;MNINE;GNUMBER TEN;OWENTY;OHIRTY;NFORTY;OIFTY;NSIXTY;OEVENTY;NEIGHTY;NNINETY;NONE HUNDRED;RTHOUSAND;@11200;
0KHOJKI LETTER A;FA;EI;EU;EE;EAI;EO;EAU;EKA;FHA;EGA;FGA;FHA;ENGA;ECA;FHA;EJA;FJA;@11213;ENYA;ETTA;GHA;EDDA;GHA;ENNA;
ETA;FHA;EDA;FDDA;FHA;ENA;EPA;FHA;EBA;FBA;FHA;EMA;EYA;ERA;ELA;EVA;ESA;EHA;ELLA;7VOWEL SIGN AA;II;JI;IU;IE;IAI;IO;IAU;
7SIGN ANUSVARA;CVIRAMA;CNUKTA;CSHADDA;7DANDA;8OUBLE DANDA;7WORD SEPARATOR;7SECTION MARK;7DOUBLE SECTION MARK;
7ABBREVIATION SIGN;7SIGN SUKUN;@11280;0MULTANI LETTER A;FI;FU;FE;FKA;GHA;FGA;@11288;GHA;@1128A;FCA;GHA;FJA;GJA;@1128F;
FNYA;FTTA;HHA;FDDA;HDA;HHA;FNNA;FTA;GHA;FDA;GHA;FNA;FPA;GHA;FBA;@1129F;GHA;FMA;FYA;FRA;FLA;FVA;FSA;FHA;FRRA;GHA;
8SECTION MARK;@112B0;0KHUDAWADI LETTER A;IA;HI;II;HU;IU;HE;HAI;HO;HAU;HKA;IHA;HGA;IGA;IHA;HNGA;HCA;IHA;HJA;IJA;IHA;
HNYA;HTTA;JHA;HDDA;JDA;HRRA;HDDHA;HNNA;HTA;IHA;HDA;IHA;HNA;HPA;IHA;HBA;IBA;IHA;HMA;HYA;HRA;HLA;HVA;HSHA;IA;HHA;
ASIGN ANUSVARA;AVOWEL SIGN AA;LI;MI;LU;MU;LE;LAI;LO;LAU;ASIGN NUKTA;FVIRAMA;@112F0;ADIGIT ZERO;GONE;GTWO;HHREE;GFOUR;
HIVE;GSIX;HEVEN;GEIGHT;GNINE;@11300;0GRANTHA SIGN COMBINING ANUSVARA ABOVE;EANDRABINDU;DANUSVARA;DVISARGA;@11305;
8LETTER A;GA;FI;GI;FU;GU;FVOCALIC R;NL;@1130F;FEE;FAI;@11313;FOO;FAU;FKA;GHA;FGA;GHA;FNGA;FCA;GHA;FJA;GHA;FNYA;FTTA;
HHA;FDDA;HHA;FNNA;FTA;GHA;FDA;GHA;FNA;@1132A;FPA;GHA;FBA;GHA;FMA;FYA;FRA;@11332;FLA;GLA;@11335;FVA;FSHA;GSA;GA;FHA;
@1133B;0COMBINING BINDU BELOW;0GRANTHA SIGN NUKTA;DAVAGRAHA;8VOWEL SIGN AA;JI;KI;JU;KU;JVOCALIC R;SR;@11347;JEE;JAI;
@1134B;JOO;JAU;8SIGN VIRAMA;@11350;8OM;@11357;8AU LENGTH MARK;@1135D;8SIGN PLUTA;8LETTER VEDIC ANUSVARA;
LDOUBLE ANUSVARA;GOCALIC RR;NLL;8VOWEL SIGN VOCALIC L;SL;@11366;0COMBINING GRANTHA DIGIT ZERO;OONE;OTWO;PHREE;OFOUR;
PIVE;OSIX;@11370;ILETTER A;PKA;PNA;PVI;PPA;@11400;0NEWA LETTER A;DA;CI;DI;CU;DU;CVOCALIC R;LR;KL;LL;CE;CAI;CO;CAU;CKA;
DHA;CGA;DHA;CNGA;EHA;CCA;DHA;CJA;DHA;CNYA;EHA;CTTA;EHA;CDDA;EHA;CNNA;CTA;DHA;CDA;DHA;CNA;DHA;CPA;DHA;CBA;DHA;CMA;DHA;
CYA;CRA;DHA;CLA;DHA;CWA;CSHA;DSA;DA;CHA;5VOWEL SIGN AA;GI;HI;GU;HU;GVOCALIC R;PR;OL;PL;GE;GAI;GO;GAU;5SIGN VIRAMA;
ACANDRABINDU;AANUSVARA;AVISARGA;ANUKTA;AAVAGRAHA;AFINAL ANUSVARA;5OM;5SIDDHI;5DANDA;6OUBLE DANDA;5COMMA;5GAP FILLER;
5ABBREVIATION SIGN;5DIGIT ZERO;BONE;BTWO;CHREE;BFOUR;CIVE;BSIX;CEVEN;BEIGHT;BNINE;6OUBLE COMMA;5PLACEHOLDER MARK;
@1145D;5INSERTION SIGN;5SANDHI MARK;5LETTER VEDIC ANUSVARA;5SIGN JIHVAMULIYA;AUPADHMANIYA;@11480;0TIRHUTA ANJI;
8LETTER A;GA;FI;GI;FU;GU;FVOCALIC R;OR;NL;OL;FE;FAI;FO;FAU;FKA;GHA;FGA;GHA;FNGA;FCA;GHA;FJA;GHA;FNYA;FTTA;HHA;FDDA;HHA;
FNNA;FTA;GHA;FDA;GHA;FNA;FPA;GHA;FBA;GHA;FMA;FYA;FRA;FLA;FVA;FSHA;GSA;GA;FHA;8VOWEL SIGN AA;JI;KI;JU;KU;JVOCALIC R;SR;
RL;SL;JE;JSHORT E;JAI;JO;JSHORT O;JAU;8SIGN CANDRABINDU;DANUSVARA;DVISARGA;FRAMA;DNUKTA;DAVAGRAHA;8GVANG;
8ABBREVIATION SIGN;8OM;@114D0;8DIGIT ZERO;EONE;ETWO;FHREE;EFOUR;FIVE;ESIX;FEVEN;EEIGHT;ENINE;@11580;0SIDDHAM LETTER A;
GA;FI;GI;FU;GU;FVOCALIC R;OR;NL;OL;FE;FAI;FO;FAU;FKA;GHA;FGA;GHA;FNGA;FCA;GHA;FJA;GHA;FNYA;FTTA;HHA;FDDA;HHA;FNNA;FTA;
GHA;FDA;GHA;FNA;FPA;GHA;FBA;GHA;FMA;FYA;FRA;FLA;FVA;FSHA;GSA;GA;FHA;8VOWEL SIGN AA;JI;KI;JU;KU;JVOCALIC R;SR;@115B8;JE;
JAI;JO;JAU;8SIGN CANDRABINDU;DANUSVARA;DVISARGA;FRAMA;DNUKTA;DSIDDHAM;8DANDA;9OUBLE DANDA;8SEPARATOR DOT;IBAR;
8REPETITION MARK-1;O2;O3;8END OF TEXT MARK;8SECTION MARK WITH TRIDENT AND U-SHAPED ORNAMENTS;cDOTTED CRESCENTS;
QRAYS AND DOTTED CRESCENTS;gDOUBLE CRESCENTS;gTRIPLE CRESCENTS;LDOUBLE RING;W WITH RAYS;LWITH DOUBLE CRESCENTS;
QTRIPLE CRESCENTS;QQUADRUPLE CRESCENTS;QSEPTUPLE CRESCENTS;QCIRCLES AND RAYS;cTWO ENCLOSURES;cFOUR ENCLOSURES;
8LETTER THREE-CIRCLE ALTERNATE I;GWO-CIRCLE ALTERNATE I;bI;FALTERNATE U;8VOWEL SIGN ALTERNATE U;UU;@11600;
0MODI LETTER A;DA;CI;DI;CU;DU;CVOCALIC R;LR;KL;LL;CE;CAI;CO;CAU;CKA;DHA;CGA;DHA;CNGA;CCA;DHA;CJA;DHA;CNYA;CTTA;EHA;
CDDA;EHA;CNNA;CTA;DHA;CDA;DHA;CNA;CPA;DHA;CBA;DHA;CMA;CYA;CRA;CLA;CVA;CSHA;DSA;DA;CHA;CLLA;5VOWEL SIGN AA;GI;HI;GU;HU;
GVOCALIC R;PR;OL;PL;GE;GAI;GO;GAU;5SIGN ANUSVARA;AVISARGA;CRAMA;AARDHACANDRA;5DANDA;6OUBLE DANDA;5ABBREVIATION SIGN;
5SIGN HUVA;@11650;5DIGIT ZERO;BONE;BTWO;CHREE;BFOUR;CIVE;BSIX;CEVEN;BEIGHT;BNINE;@11660;2NGOLIAN BIRGA WITH ORNAMENT;
AROTATED BIRGA;ADOUBLE BIRGA WITH ORNAMENT;ATRIPLE BIRGA WITH ORNAMENT;ABIRGA WITH DOUBLE ORNAMENT;
AROTATED BIRGA WITH ORNAMENT;TDOUBLE ORNAMENT;AINVERTED BIRGA;O WITH DOUBLE ORNAMENT;ASWIRL BIRGA;L WITH ORNAMENT;
RDOUBLE ORNAMENT;ATURNED SWIRL BIRGA WITH DOUBLE ORNAMENT;@11680;0TAKRI LETTER A;EA;DI;EI;DU;EU;DE;DAI;DO;DAU;DKA;EHA;
DGA;EHA;DNGA;DCA;EHA;DJA;EHA;DNYA;DTTA;FHA;DDDA;FHA;DNNA;DTA;EHA;DDA;EHA;DNA;DPA;EHA;DBA;EHA;DMA;DYA;DRA;DLA;DVA;DSHA;
EA;DHA;DRRA;6SIGN ANUSVARA;BVISARGA;6VOWEL SIGN AA;HI;II;HU;IU;HE;HAI;HO;HAU;6SIGN VIRAMA;BNUKTA;6LETTER ARCHAIC KHA;
6ABBREVIATION SIGN;@116C0;6DIGIT ZERO;CONE;CTWO;DHREE;CFOUR;DIVE;CSIX;DEVEN;CEIGHT;CNINE;@11700;0AHOM LETTER KA;DHA;
CNGA;DA;CTA;CALTERNATE TA;CPA;DHA;CBA;CMA;CJA;CCHA;CTHA;CRA;CLA;CSA;CNYA;CHA;CA;CDA;DHA;CGA;CALTERNATE GA;CGHA;CBHA;
CJHA;CALTERNATE BA;@1171D;5CONSONANT SIGN MEDIAL LA;RRA;RLIGATING RA;5VOWEL SIGN A;HA;GI;HI;GU;HU;GE;GAW;GO;GAI;HM;
5SIGN KILLER;@11730;5DIGIT ZERO;BONE;BTWO;CHREE;BFOUR;CIVE;BSIX;CEVEN;BEIGHT;BNINE;5NUMBER TEN;DWENTY;
5SIGN SMALL SECTION;BECTION;ARULAI;6YMBOL VI;5LETTER CA;CTTA;EHA;CDDA;EHA;CNNA;CLLA;@11800;0DOGRA LETTER A;EA;DI;EI;DU;
EU;DE;DAI;DO;DAU;DKA;EHA;DGA;EHA;DNGA;DCA;EHA;DJA;EHA;DNYA;DTTA;FHA;DDDA;FHA;DNNA;DTA;EHA;DDA;EHA;DNA;DPA;EHA;DBA;EHA;
DMA;DYA;DRA;DLA;DVA;DSHA;ESA;EA;DHA;DRRA;6VOWEL SIGN AA;HI;II;HU;IU;HVOCALIC R;QR;HE;HAI;HO;HAU;6SIGN ANUSVARA;
BVISARGA;DRAMA;BNUKTA;6ABBREVIATION SIGN;@118A0;0WARANG CITI CAPITAL LETTER NGAA;RA;RWI;RYU;SA;SO;RII;RUU;RE;RO;RANG;
RGA;RKO;RENY;RYUJ;RUC;RENN;RODD;RTTE;RNUNG;RDA;RAT;SM;RBU;RPU;RHIYO;SOLO;TRR;SAR;RSSUU;SII;RVIYO;CSMALL LETTER NGAA;PA;
PWI;PYU;QA;QO;PII;PUU;PE;PO;PANG;PGA;PKO;PENY;PYUJ;PUC;PENN;PODD;PTTE;PNUNG;PDA;PAT;QM;PBU;PPU;PHIYO;QOLO;RRR;QAR;
PSSUU;QII;PVIYO;CDIGIT ZERO;IONE;ITWO;JHREE;IFOUR;JIVE;ISIX;JEVEN;IEIGHT;ININE;CNUMBER TEN;KWENTY;KHIRTY;JFORTY;KIFTY;
JSIXTY;KEVENTY;JEIGHTY;JNINETY;@118FF;COM;0DIVES AKURU LETTER A;KA;JI;KI;JU;KU;JE;@11909;JO;@1190C;JKA;KHA;JGA;KHA;
JNGA;JCA;KHA;JJA;@11915;JNYA;JTTA;@11918;JDDA;LHA;JNNA;JTA;KHA;JDA;KHA;JNA;JPA;KHA;JBA;KHA;JMA;JYA;KYA;JRA;JLA;JVA;
JSHA;KSA;KA;JHA;JLLA;JZA;CVOWEL SIGN AA;NI;OI;NU;OU;NE;@11937;NAI;NO;@1193B;CSIGN ANUSVARA;HCANDRABINDU;HHALANTA;
CVIRAMA;CPREFIXED NASAL SIGN;CMEDIAL YA;CINITIAL RA;CMEDIAL RA;CSIGN NUKTA;CDOUBLE DANDA;CGAP FILLER;CEND OF TEXT MARK;
@11950;CDIGIT ZERO;IONE;ITWO;JHREE;IFOUR;JIVE;ISIX;JEVEN;IEIGHT;ININE;@119A0;0NANDINAGARI LETTER A;KA;JI;KI;JU;KU;
JVOCALIC R;SR;@119AA;JE;JAI;JO;JAU;JKA;KHA;JGA;KHA;JNGA;JCA;KHA;JJA;KHA;JNYA;JTTA;LHA;JDDA;LHA;JNNA;JTA;KHA;JDA;KHA;
JNA;JPA;KHA;JBA;KHA;JMA;JYA;JRA;JLA;JVA;JSHA;KSA;KA;JHA;JLLA;JRRA;CVOWEL SIGN AA;NI;OI;NU;OU;NVOCALIC R;WR;@119DA;NE;
NAI;NO;NAU;CSIGN ANUSVARA;HVISARGA;JRAMA;HAVAGRAHA;HSIDDHAM;CHEADSTROKE;CVOWEL SIGN PRISHTHAMATRA E;@11A00;
0ZANABAZAR SQUARE LETTER A;HVOWEL SIGN I;SUE;T;SE;SOE;T;SAI;TU;SREVERSED I;NLENGTH MARK;HLETTER KA;PHA;OGA;PHA;ONGA;
OCA;PHA;OJA;ONYA;OTTA;QHA;ODDA;QHA;ONNA;OTA;PHA;ODA;PHA;ONA;OPA;PHA;OBA;PHA;OMA;OTSA;QHA;ODZA;QHA;OZHA;PA;O-A;OYA;ORA;
OLA;OVA;OSHA;PSA;PA;OHA;OKSSA;HFINAL CONSONANT MARK;HSIGN VIRAMA;MCANDRABINDU;X WITH ORNAMENT;S WITH ORNAMENT;
MANUSVARA;MVISARGA;HCLUSTER-INITIAL LETTER RA;PFINAL LETTER YA;cRA;cLA;cVA;HINITIAL HEAD MARK;HCLOSING HEAD MARK;
HMARK TSHEG;MSHAD;MDOUBLE SHAD;MLONG TSHEG;HINITIAL DOUBLE-LINED HEAD MARK;HCLOSING DOUBLE-LINED HEAD MARK;HSUBJOINER;
@11A50;0SOYOMBO LETTER A;8VOWEL SIGN I;JUE;K;JE;JO;KE;JAI;KU;JVOCALIC R;RL;ELENGTH MARK;8LETTER KA;GHA;FGA;GHA;FNGA;
FCA;GHA;FJA;GHA;FNYA;FTTA;HHA;FDDA;HHA;FNNA;FTA;GHA;FDA;GHA;FNA;FPA;GHA;FBA;GHA;FMA;FTSA;HHA;FDZA;FZHA;GA;F-A;FYA;FRA;
FLA;FVA;FSHA;GSA;GA;FHA;FKSSA;8SIGN JIHVAMULIYA;DUPADHMANIYA;8CLUSTER-INITIAL LETTER RA;VLA;VSHA;WA;
8FINAL CONSONANT SIGN G;TK;TNG;TD;TN;TB;TM;TR;TL;TSH;U;T-A;8SIGN ANUSVARA;DVISARGA;8GEMINATION MARK;8SUBJOINER;
8MARK TSHEG;DSHAD;DDOUBLE SHAD;DPLUTA;8HEAD MARK WITH MOON AND SUN AND TRIPLE FLAME;eFLAME;Z;8TERMINAL MARK-1;M2;
@11AB0;0CANADIAN SYLLABICS NATTILIK HI;UI;TO;UO;TA;UA;SSHRI;WI;VO;WO;VA;WA;JSPE;LI;LO;LA;0PAU CIN HAU LETTER PA;JKA;
JLA;JMA;JDA;JZA;JVA;JNGA;JHA;JGA;JKHA;JSA;JBA;JCA;JTA;KHA;JNA;JPHA;JRA;JFA;JCHA;JA;JE;JI;JO;JU;KA;JIA;JFINAL P;PK;PT;
PM;PN;PL;PW;PNG;PY;CRISING TONE LONG;N;CSANDHI GLOTTAL STOP;CRISING TONE LONG FINAL;OFINAL;CSANDHI GLOTTAL STOP FINAL;
JTONE LONG;N;N LONG FINAL;OFINAL;CMID-LEVEL TONE;CGLOTTAL STOP VARIANT;CMID-LEVEL TONE LONG FINAL;RFINAL;
CLOW-FALLING TONE LONG;S;CGLOTTAL STOP;CLOW-FALLING TONE LONG FINAL;TFINAL;CGLOTTAL STOP FINAL;@11C00;
0BHAIKSUKI LETTER A;IA;HI;II;HU;IU;HVOCALIC R;QR;PL;@11C0A;HE;HAI;HO;HAU;HKA;IHA;HGA;IHA;HNGA;HCA;IHA;HJA;IHA;HNYA;
HTTA;JHA;HDDA;JHA;HNNA;HTA;IHA;HDA;IHA;HNA;HPA;IHA;HBA;IHA;HMA;HYA;HRA;HLA;HVA;HSHA;ISA;IA;HHA;AVOWEL SIGN AA;LI;MI;LU;
MU;LVOCALIC R;UR;TL;@11C38;LE;LAI;LO;LAU;ASIGN CANDRABINDU;FANUSVARA;FVISARGA;HRAMA;FAVAGRAHA;ADANDA;BOUBLE DANDA;
AWORD SEPARATOR;AGAP FILLER-1;L2;@11C50;ADIGIT ZERO;GONE;GTWO;HHREE;GFOUR;HIVE;GSIX;HEVEN;GEIGHT;GNINE;ANUMBER ONE;
HTWO;IHREE;HFOUR;IIVE;HSIX;IEVEN;HEIGHT;HNINE;HTEN;IWENTY;IHIRTY;HFORTY;IIFTY;HSIXTY;IEVENTY;HEIGHTY;HNINETY;
AHUNDREDS UNIT MARK;@11C70;0MARCHEN HEAD MARK;8MARK SHAD;8LETTER KA;GHA;FGA;FNGA;FCA;GHA;FJA;FNYA;FTA;GHA;FDA;FNA;FPA;
GHA;FBA;FMA;FTSA;HHA;FDZA;FWA;FZHA;GA;F-A;FYA;FRA;FLA;FSHA;GA;FHA;FA;@11C92;8SUBJOINED LETTER KA;QHA;PGA;PNGA;PCA;QHA;
PJA;PNYA;PTA;QHA;PDA;PNA;PPA;QHA;PBA;PMA;PTSA;RHA;PDZA;PWA;PZHA;QA;@11CA9;PYA;PRA;PLA;PSHA;QA;PHA;PA;8VOWEL SIGN AA;JI;
JU;JE;JO;8SIGN ANUSVARA;DCANDRABINDU;@11D00;2SARAM GONDI LETTER A;MA;LI;MI;LU;MU;LE;@11D08;LAI;LO;@11D0B;LAU;LKA;MHA;
LGA;MHA;LNGA;LCA;MHA;LJA;MHA;LNYA;LTTA;NHA;LDDA;NHA;LNNA;LTA;MHA;LDA;MHA;LNA;LPA;MHA;LBA;MHA;LMA;LYA;LRA;LLA;LVA;LSHA;
MSA;MA;LHA;LLLA;LKSSA;LJNYA;LTRA;EVOWEL SIGN AA;PI;QI;PU;QU;PVOCALIC R;@11D3A;PE;@11D3C;PAI;PO;@11D3F;PAU;
ESIGN ANUSVARA;JVISARGA;JNUKTA;JCANDRA;JHALANTA;EVIRAMA;EREPHA;FA-KARA;@11D50;EDIGIT ZERO;KONE;KTWO;LHREE;KFOUR;LIVE;
KSIX;LEVEN;KEIGHT;KNINE;@11D60;0GUNJALA GONDI LETTER A;MA;LI;MI;LU;MU;@11D67;LEE;LAI;@11D6A;LOO;LAU;LYA;LVA;LBA;MHA;
LMA;LKA;MHA;LTA;MHA;LLA;LGA;MHA;LDA;MHA;LNA;LCA;MHA;LTTA;NHA;LLLA;LJA;MHA;LDDA;NHA;LNGA;LPA;MHA;LHA;LRA;LSA;
EVOWEL SIGN AA;PI;QI;PU;QU;@11D90;PEE;PAI;@11D93;POO;PAU;ESIGN ANUSVARA;JVISARGA;EVIRAMA;EOM;@11DA0;EDIGIT ZERO;KONE;
KTWO;LHREE;KFOUR;LIVE;KSIX;LEVEN;KEIGHT;KNINE;@11EE0;0MAKASAR LETTER KA;FGA;FNGA;FPA;FBA;FMA;FTA;FDA;FNA;FCA;FJA;FNYA;
FYA;FRA;FLA;FVA;FSA;FA;8ANGKA;8VOWEL SIGN I;JU;JE;JO;8PASSIMBANG;8END OF SECTION;@11FB0;0LISU LETTER YHA;@11FC0;
0TAMIL FRACTION ONE THREE-HUNDRED-AND-TWENTIETH;JONE-HUNDRED-AND-SIXTIETH;JEIGHTIETH;JSIXTY-FOURTH;JFORTIETH;
JTHIRTY-SECOND;FTHREE EIGHTIETHS;LSIXTY-FOURTHS;FONE TWENTIETH;JSIXTEENTH-1;T2;JTENTH;JEIGHTH;FTHREE TWENTIETHS;
LSIXTEENTHS;FONE FIFTH;JQUARTER;JHALF-1;O2;FTHREE QUARTERS;FDOWNSCALING FACTOR KIIZH;6SIGN NEL;BCEVITU;BAAZHAAKKU;
BUZHAKKU;BMUUVUZHAKKU;BKURUNI;BPATHAKKU;BMUKKURUNI;BKAACU;BPANAM;CON;BVARAAKAN;BPAARAM;BKUZHI;BVELI;
6WET CULTIVATION SIGN;6DRY CULTIVATION SIGN;6LAND SIGN;6SALT PAN SIGN;6TRADITIONAL CREDIT SIGN;INUMBER SIGN;
6CURRENT SIGN;6AND ODD SIGN;6SPENT SIGN;6TOTAL SIGN;6IN POSSESSION SIGN;6STARTING FROM SIGN;7IGN MUTHALIYA;BVAKAIYARAA;
@11FFF;6PUNCTUATION END OF TEXT;0CUNEIFORM SIGN A;G TIMES A;NBAD;NGAN2 TENU;NHA;NIGI;NLAGAR GUNU;NMUSH;NSAG;G2;GB;
H TIMES ASH2;ODUN3 GUNU;OGAL;QN2 TENU;OHA;OIGI GUNU;PMIN;OLAGAB;OSHESH;OU PLUS U PLUS U;IGUNU;H2;I TIMES BALAG;
PGAN2 TENU;PME PLUS EN;PSHA3;PTAK4;GD;GK;H TIMES ERIN2;OSHITA PLUS GISH;GL;H TIMES AL;ODIM2;OGISH;OHA;OKAD3;PI;OSHE;
OUSH;HAN;HEPH;GMAR;J TIMES SHE;GN;H OVER AN;ITHREE TIMES;IPLUS NAGA OPPOSING AN PLUS NAGA;SSQUARED;HSHE;GPIN;GRAD;
J TIMES KUR;HKAB;GSAL2;HH;I ZIDA TENU;JKABA TENU;JOVER ASH TUG2 OVER TUG2 TUG2 OVER TUG2 PAP;SOVER ASH;
a CROSSING ASH OVER ASH OVER ASH;I2;IGAB;FBA;HD;HG3;HHAR2;HL;I OVER BAL;IAG;HR;IA2;GI;H TIMES A;OGAR;OIGI GUNU;GU;
H OVER BU AB;QUN;ICROSSING BU;HLUG;K OVER BULUG;HR;I2;FDA;HG;I KISIM5 TIMES A PLUS MASH;XMAR;WBALAG;XI;WGA;Y PLUS MASH;
XI;YR2;XUD;WHA;WIR;Y PLUS LU;WKAK;WLA;XU;Y PLUS MASH2;YM;WNE;WPAP PLUS PAP;WSI;WTAK4;WU2 PLUS GIR2;XSH;HM;HR;IA3;J4;GI;
HB;HM;I TIMES SHE;I2;HN;I KASKAL U GUNU DISH;HSH;GU;H OVER DU;IGUNU;ISHESHIG;HB;I TIMES ESH2;I2;HG;IUD;HH;HN;I3;J GUNU;
O GUNU;I4;HR2;FE;G TIMES PAP;HOVER E NUN OVER NUN;G2;H TIMES A PLUS HA PLUS DA;OGAR;OMI;OSAL;PHE;OU;GDIN;GGIR;GL;GN;
H TIMES GAN2;S TENU;OME;ICROSSING EN;IOPPOSING EN;ISQUARED;GREN;HIN2;GSH2;GZEN;J TIMES A;R PLUS LAL;a TIMES LAL;RN;
QBAD;QDUN3 GUNU;Z GUNU;QHA;S GUNU;QIGI GUNU;QKASKAL;W SQUARED;RU3;QLA;SL TIMES LAL;RI;RU;QU2;RD;FGA;H GUNU;H2;
I TIMES A PLUS DA PLUS HA;WHA;WIGI;QB2 TENU PLUS TAB;QN;QSH;S2 PLUS GAL;PBAD;RR PLUS RA;QUR;S PLUS RA;PDA;QI;
RM TIMES SHE;QUB;PEL;R PLUS LA;QN;R TIMES GAN2 TENU;PGAN2 TENU;RR;QI;R4;S PLUS A;RR2 PLUS SU;PHA PLUS LU PLUS ESH2;RL;
S PLUS LA;QI PLUS LI;QUB2;PIGI GUNU;QSH PLUS HU PLUS ASH;PKAK;RSKAL;QID;S PLUS LAL;QU3 PLUS AN;PLA;PME PLUS EN;QI;PNUN;
S OVER NUN;PPA;PSAL;RR;QHE;S PLUS TUR;RID;QUM;PTAK4;PU;QD;R PLUS DU;JOVER GA2;HBA;J CROSSING GABA;HD;
I OVER GAD GAR OVER GAR;HL;I GAD OVER GAD GAR OVER GAR;IAM;HM;HN;I2;J TENU;KOVER GAN2;KCROSSING GAN2;HR;I3;HSHAN;
GESHTIN;M TIMES KUR;GI;H TIMES E;OU;ICROSSING GI;H4;I OVER GI4;JCROSSING GI4;HDIM;HR2;J GUNU;I3;J TIMES A PLUS IGI;
QGAN2 TENU;QIGI;QLU PLUS IGI;QPA;HSAL;IH;J CROSSING GISH;KTIMES BAD;QTAK4;LENU;GU;H CROSSING GU;H2;I TIMES KAK;
S TIMES IGI GUNU;PNUN;PSAL PLUS TUG2;JGUNU;HD;I TIMES A PLUS KUR;PKUR;JOVER GUD LUGAL;HL;HM;I TIMES SHE;HR;I7;IUN;JSH;
FHA;H TENU;IGUNU;HL;GI;H TIMES ASH;R2;OBAD;ODISH;OGAD;OKIN;ONUN;OSHE;OU;GU;HB2;J TIMES AN;QHAL;QKASKAL;QLISH;QUD;HL2;
FI;G A;GB;GDIM;J OVER IDIM BUR;USQUARED;GG;HI;I DIB;JRI;JOVER IGI SHIR OVER SHIR UD OVER UD;JGUNU;GL;H TIMES GAN2 TENU;
H2;GM;H TIMES TAK4;ICROSSING IM;IOPPOSING IM;ISQUARED;HIN;GN;GR;GSH;FKA;H TIMES A;PD;Q PLUS KU3;PSH2;OBAD;QLAG;QR;PI;
OERIN2;PSH2;OGA;QL;QN2 TENU;QR;R PLUS SHA3 PLUS A;PI;QR2;QSH PLUS SAR;TCROSSING GISH;PU;QR7;OIGI;PM;OKAK;PI;QD;OLI;PU;
OME;Q PLUS DU;WGI;WTE;PI;Q PLUS NUNUZ;ONE;PUN;OPI;ORU;OSA;QR;PHA;QE;QID;QU;PIG;PUHUR;OTAR;OU;P2;PD;PMUM TIMES PA;PSH;
OZI;H2;I CROSSING KA2;HB;HD2;I3;I4;I5;J OVER KAD5;HK;I TIMES IGI GUNU;HL;I TIMES BAD;JCROSSING KAL;HM2;I4;HSKAL;
L LAGAB TIMES U OVER LAGAB TIMES U;MOVER KASKAL LAGAB TIMES U OVER LAGAB TIMES U;GESH2;GI;H TIMES BAD;OU;PD;HD;HN;HSAL;
IH;IIM5;L OVER KISIM5;GU;H OVER HI TIMES ASH2 KU OVER HI TIMES ASH2;H3;H4;I VARIANT FORM;H7;HL;I GUNU;HN;HR;
I OPPOSING KUR;HSHU2;GWU318;FLA;HGAB;K TIMES A;S PLUS DA PLUS HA;YGAR;YLAL;SL;SN;SSH ZIDA TENU;RBAD;SI;RDAR;REN;RGA;TR;
SUD;U PLUS GUD;RHA;TL;SI TIMES NUN;RIGI GUNU;SM;T PLUS HA;ZLU;RKI;TN;SU3;TL;U PLUS HI PLUS A;RLAGAB;SISH;SU;TL;RME;
T PLUS EN;SUSH;RNE;RSHE PLUS SUM;TITA PLUS GISH PLUS ERIN2;hTENU;TU2;V PLUS SHU2;SUM;RTAG;TK4;
SE PLUS A PLUS SU PLUS NA;RU;S PLUS A;YU PLUS U;S2 PLUS ASH;SD;SSH;LSQUARED;JR;K TIMES SHE;U PLUS SUM;LGUNU;
P OVER LAGAR GUNU SHE;HHSHU;HL;I TIMES LAL;HM;I TIMES KUR;S PLUS RU;GI;HL;HMMU2;HSH;GU;H TIMES BAD;H2;I TIMES AL;PBAD;
PESH2;T TENU;PGAN2 TENU;PHI TIMES BAD;PIM;PKAD2;S3;T PLUS ASH;QI;PLA PLUS ASH;RGAB;PME PLUS EN;PNE;QU;PSI PLUS ASH;
RK2 PLUS BU;PTUG2;KENU;JCROSSING LU2;JOPPOSING LU2;JSQUARED;KHESHIG;H3;HGAL;K OVER LUGAL;MPPOSING LUGAL;LSHESHIG;HH;HL;
HM;I OVER LUM;R GAR OVER GAR;FMA;H TIMES TAK4;IGUNU;H2;HH;HR;HSH;J2;GE;HS;GI;HN;GU;H OVER MU;HG;I GUNU;HNSUB;HRGU2;HSH;
J TIMES A;QKUR;QZA;KOVER MUSH;T TIMES A PLUS NA;KCROSSING MUSH;J3;K TIMES A;S PLUS DI;RDI;LGUNU;FNA;H2;HGA;J INVERTED;
KTIMES SHU TENU;KOPPOSING NAGA;JR;HM NUTILLU;I;I2;GE;H TIMES A;OUD;ISHESHIG;GI;H TIMES E;H2;HM;I TIMES GAN2 TENU;
RR PLUS GAN2 TENU;HNDA2;L TIMES AN;TSH;V PLUS ASH;SGUD;SME PLUS GAN2 TENU;SNE;TUN;SSHE;V PLUS A AN;cSH;e PLUS ASH;
SU2 PLUS ASH;TSH;HSAG;GU;H11;HN;I LAGAR TIMES GAR;VMASH;VSAL;Y OVER NUN LAGAR TIMES SAL;VUSH;JTENU;JOVER NUN;
JCROSSING NUN;V LAGAR OVER LAGAR;IUZ;K AB2 TIMES ASHGAB;VBI;VDUG;VGUD;VIGI GUNU;VKAD3;VLA;VNE;VSILA3;VU2;
LKISIM5 TIMES BI;a U;FPA;HD;HN;HP;GESH2;GI;H TIMES A;PB;OBI;PU;OE;OI;PB;OU;P2;ICROSSING PI;HRIG;K TIMES KAL;RUD;RZA;
LOPPOSING PIRIG;FRA;HB;GI;GU;FSA;HG NUTILLU;I;I TIMES A;PDU;RB;PHA;PKAK;QUR;PLUM;PMI;PNUN;PSAL;QHID;PTAB;PU2;QB;QM;QR;
QSH;JOVER SAG;JGUNU;HL;I LAGAB TIMES ASH2;HNGA2;HR;GHA;I3;J TIMES A;QBAD;QGISH;QNE;QSHU2;QTUR;QU;R PLUS A;I6;IB6;IR2;
HE;I HU;JOVER SHE GAD OVER GAD GAR OVER GAR;STAB OVER TAB GAR OVER GAR;IG9;IN;ISH;K2;KLAM;HID;J TIMES A;QIM;IM;
J TIMES A;QBAL;RULUG;QDIN;QGAR;QIGI;T GUNU;QKUSHU2;QLUL;QMUG;QSAL;INIG;IR;J TENU;KOVER SHIR BUR OVER BUR;ITA;HU;
I OVER INVERTED SHU;I2;IBUR;GI;H GUNU;HG;I4;J OVER SIG4 SHU2;HK2;HLA3;GU;H OVER SU;HD;I2;HHUR;HM;IASH;HR;I9;FTA;
H ASTERISK;ITIMES HI;OMI;IGUNU;HB;I OVER TAB NI OVER NI DISH OVER DISH;JSQUARED;HG;I TIMES BI;PGUD;PSHE;RU;PTUG2;PUD;
HK4;HR;GE;H GUNU;GI;H TENU;HL;HR;I TIMES TAK4;JOVER TIR;R GAD OVER GAD GAR OVER GAR;GU;HG2;HK;HM;HR;
I OVER TUR ZA OVER ZA;FU;G GUD;HU U;HOVER U PA OVER PA GAR OVER GAR;OSUR OVER SUR;OU REVERSED OVER U REVERSED;G2;GB;GD;
H KUSHU2;ITIMES BAD;OMI;OU PLUS U PLUS U;d GUNU;IGUNU;ISHESHIG;P TIMES BAD;HUG;GM;H TIMES LAGAB;OME PLUS DA;OSHA3;OU;
HBIN;HUM;J TIMES KASKAL;QPA;GN;H GUNU;GR;H CROSSING UR;ISHESHIG;H2;I TIMES A PLUS HA;WNA;QL;PHA;PNUN;PU2;R PLUS ASH;
XBI;H4;HI;I3;HU;I TIMES A;QSHGAB;PBAR;PDUN;PGA;RL;RN2 TENU;RR;QU;PHA;PIGI;QM;QSH;PKI;PLUM;PMIN;PPA;PSHE;QIG4;PTU;
PU PLUS GUD;QD;QRUDA;IDA;K TIMES U;GSH;I TIMES A;PKU;RR;PTAK4;IX;I2;IUMX;GTUKI;GZ3;I TIMES KASKAL;HU;FZA;H TENU;
ISQUARED TIMES KUR;HG;HMX;GE2;GI;H OVER ZI;H3;HB;I KABA TENU;HG;HZ2;GU;H5;I TIMES A;HBUR;HM;FKAP ELAMITE;FAB TIMES NUN;
H2 TIMES A;GMAR TIMES KUG;FDAG KISIM5 TIMES U2 PLUS MASH;I3;GISH PLUS SHU;GUB TIMES SHE;FEZEN TIMES GUD;QSHE;
FGA2 TIMES AN PLUS KAK PLUS A;QSH2;GE22;GIG;FHUSH;FKA TIMES ANSHE;PSH3;OGISH;PUD;OHI TIMES ASH2;OLUM;OPA;OSHUL;OTU;
OUR2;FLAGAB TIMES GI;GU2 SHESHIG TIMES BAD;JTIMES ESH2 PLUS LAL;PSHU;FMESH;GUSH3 TIMES ZA;FNA4;GIN;I9;IDA2 TIMES BAL;
SGI;GU11 ROTATED NINETY DEGREES;FPESH2 ASTERISK;GIR2;FSAG TIMES IGI GUNU;FTI2;FUM TIMES ME;G U;@12400;
ANUMERIC SIGN TWO ASH;OHREE ASH;NFOUR ASH;OIVE ASH;NSIX ASH;OEVEN ASH;NEIGHT ASH;NNINE ASH;NTHREE DISH;NFOUR DISH;
OIVE DISH;NSIX DISH;OEVEN DISH;NEIGHT DISH;NNINE DISH;NFOUR U;OIVE U;NSIX U;OEVEN U;NEIGHT U;NNINE U;NONE GESH2;
NTWO GESH2;OHREE GESH2;NFOUR GESH2;OIVE GESH2;NSIX GESH2;OEVEN GESH2;NEIGHT GESH2;NNINE GESH2;NONE GESHU;NTWO GESHU;
OHREE GESHU;NFOUR GESHU;OIVE GESHU;NTWO SHAR2;OHREE SHAR2;Y VARIANT FORM;NFOUR SHAR2;OIVE SHAR2;NSIX SHAR2;OEVEN SHAR2;
NEIGHT SHAR2;NNINE SHAR2;NONE SHARU;NTWO SHARU;OHREE SHARU;Y VARIANT FORM;NFOUR SHARU;OIVE SHARU;
NSHAR2 TIMES GAL PLUS DISH;iMIN;NONE BURU;NTWO BURU;OHREE BURU;X VARIANT FORM;NFOUR BURU;OIVE BURU;
NTHREE VARIANT FORM ESH16;j21;NFOUR VARIANT FORM LIMMU;k4;k A;lB;NSIX VARIANT FORM ASH9;OEVEN VARIANT FORM IMIN3;k A;
lB;NEIGHT VARIANT FORM USSU;k3;NNINE VARIANT FORM ILIMMU;l3;l4;l A;NTWO ASH TENU;OHREE ASH TENU;NFOUR ASH TENU;
OIVE ASH TENU;NSIX ASH TENU;NONE BAN2;NTWO BAN2;OHREE BAN2;NFOUR BAN2;W VARIANT FORM;OIVE BAN2;W VARIANT FORM;
NNIGIDAMIN;TESH;NONE ESHE3;NTWO ESHE3;NONE THIRD DISH;NTWO THIRDS DISH;NFIVE SIXTHS DISH;NONE THIRD VARIANT FORM A;
NTWO THIRDS VARIANT FORM A;NONE EIGHTH ASH;RQUARTER ASH;OLD ASSYRIAN ONE SIXTH;eQUARTER;ONE QUARTER GUR;RHALF GUR;
NELAMITE ONE THIRD;VTWO THIRDS;VFORTY;WIFTY;NFOUR U VARIANT FORM;OIVE U VARIANT FORM;NSIX U VARIANT FORM;
OEVEN U VARIANT FORM;NEIGHT U VARIANT FORM;NNINE U VARIANT FORM;@12470;APUNCTUATION SIGN OLD ASSYRIAN WORD DIVIDER;
RVERTICAL COLON;RDIAGONAL COLON;aTRICOLON;aQUADCOLON;@12480;ASIGN AB TIMES NUN TENU;OSHU2;GD TIMES ESH2;
FBAD TIMES DISH TENU;HHAR2 TIMES AB2;SNI;SZA;GU OVER BU TIMES NA2;FDA TIMES TAK4;HG TIMES KUR;GIM TIMES IGI;PU U U;
I2 TIMES UD;GUG TIMES ANSHE;QSH;S AT LEFT;PDIN;QUN;PERIN2;PGA;QI;RR2 GUNU;RSH;PHA;QI;PIGI GUNU;PKASKAL;QUR;RSHU2;
V PLUS KASKAL;PLAK-020;RM;S TIMES KUR;QUH PLUS GISH;PMASH;QES;QI;PNI;PPI;PSHE;QI GUNU;FE2 TIMES KUR;OPAP;GRIN2 X;
GSH2 CROSSING ESH2;GZEN SHESHIG TIMES ASH;YHI;YIGI GUNU;YLA;aL;YME;aS;YSU;KTIMES SU;FGA2 TIMES BAHAR2;PDIM GUNU;
QUG TIMES IGI GUNU;ZKASKAL;PEREN;PGA;RR PLUS DI;YNE;PHA PLUS A;PKUSHU2 PLUS KASKAL;PLAM;S TIMES KUR;QUH;PMUSH;PNE;
R PLUS E2;XGI;PSHIM;PZIZ2;HBA ROTATED NINETY DEGREES;GESHTIN TIMES U;GISH TIMES GISH CROSSING GISH;GU2 TIMES IGI GUNU;
HD PLUS GISH TIMES TAK4;FHA TENU GUNU;GI TIMES ASH OVER HI TIMES ASH;FKA TIMES BU;OKA;OU U U;PR;
FLAGAB TIMES ZU OVER ZU;HK-003;K21;L5;K30;K50;L1;K62;K79 OVER LAK-079 GUNU;K80;L1 OVER LAK-081;K92;J130;K42;J210;L9;
K20;L5;L8;K38;K65;L6;J343;L7;L8;K83;L4;K90;J441;L9;M TIMES GU;TIGI;TPAP PLUS LU3;cPAP PLUS LU3;TU2 PLUS BA;K50;L7;K70;
K83;K90;L2;L3;L5;J550;J608;K17;M TIMES ASH;TBAD;TDUN3 GUNU GUNU;TKU3;TLA;TTAR;UE;TU2;UD;URUDA;K36;K48;M TIMES DUB;TGA;
TIGI;W GUNU;TNI;TPAP PLUS PAP PLUS LU3;TSHESH PLUS KI;TUD;URUDA;J724;K49;GU2 GUNU TIMES ASH;JTIMES DISH;PHAL;PPAP;
S PLUS PAP PLUS LU3;PTAK4;FMI PLUS ZA7;GUSH OVER MUSH TIMES GA;aKAK;FNINDA2 TIMES DIM GUNU;SGISH;TUL;SHI;SKESH2;
SLAK-050;SMASH;SPAP PLUS PAP;SU;T PLUS U;TRUDA;FSAG GUNU TIMES HA;JTIMES EN;PSHE AT LEFT;PTAK4;GHA6 TENU;HE OVER SHE;
JPLUS HUB2;ONAM2;OSAR;HU2 PLUS DUG TIMES NI;PE2 TIMES AN;GI TIMES TAK4;FTAK4 PLUS SAG;GUM TIMES GAN2 TENU;PTHREE DISH;
FUR2 INVERTED;JTIMES UD;HU TIMES DARA3;PLAK-668;QU3;FZA7;GU OVER ZU PLUS SAR;H5 TIMES THREE DISH TENU;@12F90;
1YPRO-MINOAN SIGN CM001;M2;M4;M5;M6;M7;M8;M9;L10;M1;M2;NB;M3;M5;M7;M9;L21;M3;M4;M5;M6;M7;M8;M9;L30;M3;M4;M5;M6;M7;M8;
M9;L40;M1;M4;M6;M7;M9;L50;M1;M2;M3;M4;M5;M6;M8;M9;L60;M1;M2;M3;M4;M6;M7;M8;M9;L70;M1;M2;M3;M4;M5;NB;M6;M8;M9;L80;M1;M2;
M3;M4;M5;M6;M7;M8;M9;L90;M1;M2;M4;M5;M6;M7;M8;M9;K100;M1;M2;M3;M4;M5;M7;M8;M9;L10;M2;M4;K301;M2;@13000;
0EGYPTIAN HIEROGLYPH A001;N2;N3;N4;N5;OA;N6;OA;OB;N7;N8;N9;M10;N1;N2;N3;N4;OA;N5;N6;N7;OA;N8;N9;M20;N1;N2;N3;N4;N5;N6;
N7;N8;N9;M30;N1;N2;OA;N3;N4;N5;N6;N7;N8;N9;M40;OA;N1;N2;OA;N3;OA;N4;N5;OA;N6;N7;N8;N9;M50;N1;N2;N3;N4;N5;N6;N7;N8;N9;
M60;N1;N2;N3;N4;N5;N6;N7;N8;N9;M70;KB001;N2;N3;N4;N5;OA;N6;N7;N8;N9;KC001;N2;OA;OB;OC;N3;N4;N5;N6;N7;N8;N9;M10;OA;N1;
N2;N3;N4;N5;N6;N7;N8;N9;M20;N1;N2;N3;N4;KD001;N2;N3;N4;N5;N6;N7;N8;OA;N9;M10;N1;N2;N3;N4;N5;N6;N7;N8;N9;M20;N1;N2;N3;
N4;N5;N6;N7;OA;N8;N9;M30;N1;OA;N2;N3;N4;OA;N5;N6;N7;N8;N9;M40;N1;N2;N3;N4;N5;N6;OA;N7;N8;OA;N9;M50;OA;OB;OC;OD;OE;OF;
OG;OH;OI;N1;N2;OA;N3;N4;OA;N5;N6;N7;N8;N9;M60;N1;N2;N3;N4;N5;N6;N7;OA;OB;OC;OD;OE;OF;OG;OH;KE001;N2;N3;N4;N5;N6;N7;N8;
OA;N9;OA;M10;N1;N2;N3;N4;N5;N6;OA;N7;OA;N8;N9;M20;OA;N1;N2;N3;N4;N5;N6;N7;N8;OA;N9;M30;N1;N2;N3;N4;OA;N6;N7;N8;KF001;
OA;N2;N3;N4;N5;N6;N7;N8;N9;M10;N1;N2;N3;OA;N4;N5;N6;N7;N8;N9;M20;N1;OA;N2;N3;N4;N5;N6;N7;N8;N9;M30;N1;OA;N2;N3;N4;N5;
N6;N7;OA;N8;OA;N9;M40;N1;N2;N3;N4;N5;OA;N6;OA;N7;OA;N8;N9;M50;N1;OA;OB;OC;N2;N3;KG001;N2;N3;N4;N5;N6;OA;N7;OA;OB;N8;N9;
M10;N1;OA;N2;N3;N4;N5;N6;N7;N8;N9;M20;OA;N1;N2;N3;N4;N5;N6;OA;N7;N8;N9;M30;N1;N2;N3;N4;N5;N6;OA;N7;OA;N8;N9;M40;N1;N2;
N3;OA;N4;N5;OA;N6;N7;N8;N9;M50;N1;N2;N3;N4;KH001;N2;N3;N4;N5;N6;OA;N7;N8;KI001;N2;N3;N4;N5;OA;N6;N7;N8;N9;OA;M10;OA;N1;
OA;N2;N3;N4;N5;KK001;N2;N3;N4;N5;N6;N7;N8;KL001;N2;OA;N3;N4;N5;N6;OA;N7;N8;KM001;OA;OB;N2;N3;OA;N4;N5;N6;N7;N8;N9;M10;
OA;N1;N2;OA;OB;OC;OD;OE;OF;OG;OH;N3;N4;N5;OA;N6;OA;N7;OA;N8;N9;M20;N1;N2;OA;N3;N4;OA;N5;N6;N7;N8;OA;N9;M30;N1;OA;N2;N3;
OA;OB;N4;N5;N6;N7;N8;N9;M40;OA;N1;N2;N3;N4;KN001;N2;N3;N4;N5;N6;N7;N8;N9;M10;N1;N2;N3;N4;N5;N6;N7;N8;OA;OB;N9;M20;N1;
N2;N3;N4;N5;OA;N6;N7;N8;N9;M30;N1;N2;N3;OA;N4;OA;N5;OA;N6;N7;OA;N8;N9;M40;N1;N2;LL001;O2;O3;O4;O5;PA;O6;O7;O8;O9;N10;
O1;O2;O3;O4;O5;O6;O7;PA;O8;O9;N20;LU001;O2;O3;O4;O5;O6;O7;O8;O9;N10;PA;O1;PA;O2;O3;O4;O5;O6;O7;O8;PA;O9;N20;O1;O2;PA;
KO001;OA;N2;N3;N4;N5;OA;N6;OA;OB;OC;OD;OE;OF;N7;N8;N9;M10;OA;OB;OC;N1;N2;N3;N4;N5;N6;N7;N8;N9;OA;M20;OA;N1;N2;N3;N4;OA;
N5;OA;N6;N7;N8;N9;OA;M30;OA;N1;N2;N3;OA;N4;N5;N6;OA;OB;OC;OD;N7;N8;N9;M40;N1;N2;N3;N4;N5;N6;N7;N8;N9;M50;OA;OB;N1;
KP001;OA;N2;N3;OA;N4;N5;N6;N7;N8;N9;M10;N1;KQ001;N2;N3;N4;N5;N6;N7;KR001;N2;OA;N3;OA;OB;N4;N5;N6;N7;N8;N9;M10;OA;N1;N2;
N3;N4;N5;N6;OA;N7;N8;N9;M20;N1;N2;N3;N4;N5;N6;N7;N8;N9;KS001;N2;OA;N3;N4;N5;N6;OA;N7;N8;N9;M10;N1;N2;N3;N4;OA;OB;N5;N6;
N7;OA;N8;N9;M20;N1;N2;N3;N4;N5;N6;OA;OB;N7;N8;N9;M30;N1;N2;N3;N4;N5;OA;N6;N7;N8;N9;M40;N1;N2;N3;N4;N5;N6;KT001;N2;N3;
OA;N4;N5;N6;N7;OA;N8;OA;N9;OA;M10;N1;OA;N2;N3;N4;N5;N6;OA;N7;N8;N9;M20;N1;N2;N3;N4;N5;N6;N7;N8;N9;M30;N1;N2;OA;N3;OA;
N4;N5;N6;KU001;N2;N3;N4;N5;N6;OA;OB;N7;N8;N9;M10;N1;N2;N3;N4;N5;N6;N7;N8;N9;M20;N1;N2;N3;OA;N4;N5;N6;N7;N8;N9;OA;M30;
N1;N2;OA;N3;N4;N5;N6;N7;N8;N9;M40;N1;N2;KV001;OA;OB;OC;OD;OE;OF;OG;OH;OI;N2;OA;N3;N4;N5;N6;N7;OA;OB;N8;N9;M10;N1;OA;OB;
OC;N2;OA;OB;N3;N4;N5;N6;N7;N8;N9;M20;OA;OB;OC;OD;OE;OF;OG;OH;OI;OJ;OK;OL;N1;N2;N3;OA;N4;N5;N6;N7;N8;OA;N9;OA;M30;OA;N1;
OA;N2;N3;OA;N4;N5;N6;N7;OA;N8;N9;M40;OA;KW001;N2;N3;OA;N4;N5;N6;N7;N8;N9;OA;M10;OA;N1;N2;N3;N4;OA;N5;N6;N7;OA;N8;OA;N9;
M20;N1;N2;N3;N4;OA;N5;KX001;N2;N3;N4;OA;OB;N5;N6;OA;N7;N8;OA;KY001;OA;N2;N3;N4;N5;N6;N7;N8;KZ001;N2;OA;OB;OC;OD;N3;OA;
OB;N4;OA;N5;OA;N6;N7;N8;N9;M10;N1;N2;N3;N4;N5;OA;OB;OC;OD;OE;OF;OG;OH;OI;N6;OA;OB;OC;OD;OE;OF;OG;OH;KAA001;O2;O3;O4;O5;
O6;O7;PA;PB;O8;O9;N10;O1;O2;O3;O4;O5;O6;O7;O8;O9;N20;O1;O2;O3;O4;O5;O6;O7;O8;O9;N30;O1;O2;@13430;KVERTICAL JOINER;
KHORIZONTAL JOINER;KINSERT AT TOP START;UBOTTOM START;UTOP END;UBOTTOM END;KOVERLAY MIDDLE;KBEGIN SEGMENT;KEND SEGMENT;
@14400;0ANATOLIAN HIEROGLYPH A001;O2;O3;O4;O5;O6;O7;O8;O9;N10;PA;O1;O2;O3;O4;O5;O6;O7;O8;O9;N20;O1;O2;O3;O4;O5;O6;PA;
O7;O8;O9;N30;O1;O2;O3;O4;O5;O6;O7;O8;O9;PA;N40;O1;PA;O2;O3;O4;O5;PA;O6;PA;PB;O7;O8;O9;N50;O1;O2;O3;O4;O5;O6;O7;O8;O9;
N60;O1;O2;O3;O4;O5;O6;PA;PB;PC;O7;O8;O9;N70;O1;O2;O3;O4;O5;O6;O7;O8;O9;N80;O1;O2;O3;O4;O5;O6;O7;O8;O9;N90;O1;O2;O3;O4;
O5;O6;O7;PA;O8;PA;O9;M100;PA;O1;PA;O2;PA;O3;O4;PA;PB;PC;O5;PA;PB;O6;O7;PA;PB;PC;O8;O9;N10;PA;PB;O1;O2;O3;O4;O5;PA;O6;
O7;O8;O9;N20;O1;O2;O3;O4;O5;PA;O6;O7;O8;O9;N30;O1;O2;O3;O4;O5;PA;O6;O7;O8;O9;N40;O1;O2;O3;O4;O5;O6;O7;O8;O9;N50;O1;O2;
O3;O4;O5;O6;O7;O8;O9;N60;O1;O2;O3;O4;O5;O6;O7;O8;O9;N70;O1;O2;O3;O4;O5;O6;O7;O8;O9;N80;O1;O2;O3;O4;O5;O6;O7;O8;O9;N90;
O1;O2;O3;O4;O5;O6;O7;O8;O9;M200;O1;O2;PA;PB;O3;O4;O5;O6;O7;PA;O8;O9;PA;N10;O1;O2;O3;O4;O5;PA;O6;PA;O7;O8;O9;N20;O1;O2;
O3;O4;O5;O6;O7;PA;O8;O9;N30;O1;O2;O3;O4;O5;O6;O7;O8;O9;N40;O1;O2;O3;O4;O5;O6;O7;O8;O9;N50;O1;O2;O3;O4;O5;O6;O7;O8;O9;
N60;O1;O2;O3;O4;O5;O6;O7;PA;O8;O9;N70;O1;O2;O3;O4;O5;O6;O7;O8;O9;N80;O1;O2;O3;O4;O5;O6;O7;O8;O9;PA;N90;O1;O2;O3;O4;PA;
O5;O6;O7;O8;O9;PA;M300;O1;O2;O3;O4;O5;O6;O7;O8;O9;PA;N10;O1;O2;O3;O4;O5;O6;O7;O8;O9;N20;O1;O2;O3;O4;O5;O6;O7;O8;O9;PA;
N30;O1;O2A;PB;PC;O3;O4;O5;O6;PA;PB;PC;O7;O8;O9;N40;O1;O2;O3;O4;O5;O6;O7;O8;O9;N50;O1;O2;O3;O4;O5;O6;O7;O8;O9;PA;N60;O1;
O2;O3;O4;PA;O5;O6;O7;O8;PA;O9;N70;O1;PA;O2;O3;O4;O5;O6;O7;O8;O9;N80;O1;PA;O2;O3 RA OR RI;PA;O4;O5;O6;PA;O7;O8;O9;N90;
O1;O2;O3 EIGHT;O4;O5;O6;O7;O8;O9;M400;O1;O2;O3;O4;O5;O6;O7;O8;O9;N10 BEGIN LOGOGRAM MARK;PA END LOGOGRAM MARK;O1;O2;O3;
O4;O5;O6;O7;O8;O9;N20;O1;O2;O3;O4;O5;O6;O7;O8;O9;N30;O1;O2;O3;O4;O5;O6;O7;O8;O9;N40;O1;O2;O3;O4;O5;O6;O7;O8;O9;N50;PA;
O1;O2;O3;O4;O5;O6;O7;PA;O8;O9;N60;O1;O2;O3;O4;O5;O6;O7;O8;O9;N70;O1;O2;O3;O4;O5;O6;O7;O8;O9;N80;O1;O2;O3;O4;O5;O6;O7;
O8;O9;N90;O1;O2;O3;O4;O5;O6;O7;M501;O2;O3;O4;O5;O6;O7;O8;O9;N10;O1;O2;O3;O4;O5;O6;O7;O8;O9;N20;O1;O2;O3;O4;O5;O6;O7;O8;
O9;N30;@16800;0BAMUM LETTER PHASE-A NGKUE MFON;LGBIEE FON;LPON MFON PIPAEMGBIEE;aBA;LNAA MFON;LSHUENSHUET;LTITA MFON;
LNZA MFON;LSHINDA PA NJI;LPON PA NJI PIPAEMGBIEE;cBA;LMAEMBGBIEE;LTU MAEMBA;LNGANGU;LMAEMVEUX;NNSUAE;MVEUAENGAM;
LSEUNYAM;LNTOQPEN;LKEUKEUTNDA;LNKINDI;LSUU;LNGKUENZEUM;LLAPAQ;MET KUT;LNTAP MFAA;LMAEKEUP;LPASHAE;LGHEUAERAE;LPAMSHAE;
LMON NGGEUAET;LNZUN MEUT;LU YUQ NAE;LGHEUAEGHEUAE;LNTAP NTAA;LSISA;LMGBASA;MEUNJOMNDEUQ;MOOMPUQ;LKAFA;LPA LEERAEWA;
LNDA LEERAEWA;LPET;LMAEMKPEN;LNIKA;LPUP;LTUAEP;LLUAEP;LSONJAM;LTEUTEUWEN;LMAENYI;LKET;LNDAANGGEUAET;LKUOQ;LMOOMEUT;
LSHUM;LLOMMAE;LFIRI;LROM;LKPOQ;LSOQ;LMAP PIEET;LSHIRAE;LNTAP;LSHOQ NSHUT YUM;LNYIT MONGKEUAEQ;LPAARAE;LNKAARAE;
LUNKNOWN;LNGGEN;LMAESI;LNJAM;LMBANYI;LNYET;LTEUAEN;LSOT;LPAAM;LNSHIEE;LMAEM;LNYI;LKAQ;LNSHA;LVEE;LLU;LNEN;MAQ;LMBAQ;
JB NSHUET;LTU MAEMGBIEE;LSIEE;MET TU;LLOM NTEUM;LMBA MAELEE;LKIEEM;LYEURAE;LMBAARAE;LKAM;LPEESHI;LYAFU LEERAEWA;
LLAM NSHUT NYAM;LNTIEE SHEUOQ;MDU NJAA;LGHEUGHEUAEM;LPIT;LTU NSIEE;LSHET NJAQ;OUAEQTU;LMFON TEUAEQ;MBIT MBAAKET;
LNYI NTEUM;LKEUPUQ;LGHEUGHEN;LKEUYEUX;LLAANAE;LPARUM;LVEUM;LNGKINDI MVOP;NGEU MBU;LWUAET;LSAKEUAE;LTAAM;LMEUQ;LNGGUOQ;
R LARGE;LMFIYAQ;LSUE;LMBEURI;MONTIEEN;LNYAEMAE;LPUNGAAM;LMEUT NGGEET;LFEUX;LMBUOQ;LFEE;LKEUAEM;LMA NJEUAENA;QUQA;LLET;
LNGGAAM;MSEN;LMA;LKIQ;LNGOM;JC NGKUE MAEMBA;MZA;LYUM;LWANGKUOQ;LNGGEN;MDEUAEREE;MGKAQ;LGHARAE;LMBEEKEET;LGBAYI;
LNYIR MKPARAQ MEUN;MTU MBIT;LMBEUM;LPIRIEEN;LNDOMBU;LMBAA CABBAGE-TREE;LKEUSHEUAEP;LGHAP;LKEUKAQ;LYU MUOMAE;LNZEUM;
LMBUE;LNSEUAEN;LMBIT;LYEUQ;LKPARAQ;MAA;LSEUX;LNDIDA;LTAASHAE;LNJUEQ;LTITA YUE;LSUAET;LNGGUAEN NYAM;LVEUX;LNANSANAQ;
LMA KEUAERI;LNTAA;MGGUON;LLAP;LMBIRIEEN;MGBASAQ;LNTEUNGBA;LTEUTEUX;LNGGUM;LFUE;LNDEUT;MSA;NHAQ;LBUNG;LVEUAEPEN;LMBERAE;
LRU;LNJAEM;LLAM;LTITUAEP;LNSUOT NGOM;MJEEEE;LKET;LNGGU;LMAESI;MBUAEM;LLU;LKUT;LNJAM;MGOM;LWUP;LNGGUEET;MSOM;MTEN;
LKUOP NKAARAE;LNSUN;MDAM;LMA NSIEE;LYAA;LNDAP;LSHUEQ;METFON;LMBI;MAEMBA;MBANYI;LKEUSEUX;LMBEUX;LKEUM;LMBAA PICKET;
LYUWOQ;LNJEUX;LMIEE;MUAE;LSHIQ;LKEN LAW;PFATIGUE;LNGAQ;MAQ;LLIQ;LPIN;MEN;LTET;JD MBUO;LWAP;LNJI;LMFON;LNJIEE;LLIEE;
LNJEUT;MSHEE;MGGAAMAE;MYAM;LWUAEN;LNGKUN;LSHEE;LNGKAP;LKEUAETMEUN;LTEUT;LSHEUAE;LNJAP;LSUE;LKET;LYAEMMAE;LKUOM;LSAP;
LMFEUT;LNDEUX;LMALEERI;MEUT;LSEUAEQ;LYEN;LNJEUAEM;LKEUOT MBUAE;LNGKEURI;LTU;LGHAA;LNGKYEE;LFEUFEUAET;LNDEE;LMGBOFUM;
LLEUAEP;LNDON;LMONI;MGBEUN;LPUUT;LMGBIEE;MFO;LLUM;LNSIEEP;LMBAA;LKWAET;LNYET;LTEUAEN;LSOT;LYUWOQ;LKEUM;LRAEM;LTEEEE;
LNGKEUAEQ;LMFEUAE;LNSIEET;LKEUP;LPIP;MEUTAE;LNYUE;LLET;LNGGAAM;LMFIEE;LNGGWAEN;LYUOM;LPAP;LYUOP;LNDAM;MTEUM;LSUAE;LKUN;
LNGGEUX;NKIEE;LTUOT;LMEUN;LKUQ;LNSUM;LTEUN;LMAENJET;LNGGAP;LLEUM;LNGGUOM;MSHUT;MJUEQ;LGHEUAE;LKU;LREN OLD;LTAE;MOQ;
LNYI;LRII;LLEEEE;LMEEEE;M;LSUU;LMU;LSHII;NEUX;LKYEE;LNU;LSHU;LNTEE;LPEE;LNI;LSHOQ;LPUQ;LMVOP;LLOQ;LREN MUCH;LTI;LNTUU;
LMBAA SEVEN;LSAQ;LFAA;JE NDAP;LTOON;LMBEUM;LLAP;LVOM;LLOON;LPAA;LSOM;LRAQ;LNSHUOP;MDUN;LPUAE;LTAM;LNGKA;LKPEUX;LWUO;
LSEE;LNGGEUAET;LPAAM;LTOO;LKUOP;LLOM;LNSHIEE;MGOP;LMAEM;LNGKEUX;NOQ;MSHUE;LRIMGBA;LNJEUX;LPEEM;LSAA;LNGGURAE;LMGBA;
LGHEUX;LNGKEUAEM;MJAEMLI;LMAP;LLOOT;LNGGEEEE;MDIQ;LTAEN NTEUM;LSET;LPUM;LNDAA SOFTNESS;MGGUAESHAE NYAM;LYIEE;LGHEUN;
LTUAE;LYEUAE;LPO;LTUMAE;LKEUAE;LSUAEN;LTEUAEQ;LVEUAE;LWEUX;LLAAM;LPU;LTAAQ;LGHAAMAE;LNGEUREUT;LSHEUAEQ;LMGBEN;MBEE;
LNZAQ;MKOM;LGBET;LTUM;LKUET;LYAP;LNYI CLEAVER;LYIT;LMFEUQ;LNDIAQ;LPIEEQ;LYUEQ;LLEUAEM;LFUE;LGBEUX;LNGKUP;LKET;LMAE;
LNGKAAMI;LGHET;LFA;LNTUM;LPEUT;LYEUM;LNGGEUAE;MYI BETWEEN;MZUQ;LPOON;LMIEE;LFUET;LNAE;LMUAE;LGHEUAE;LFU I;LMVI;LPUAQ;
LNGKUM;LKUT;LPIET;LNTAP;LYEUAET;LNGGUP;LPA PEOPLE;LFU CALL;MOM;LNJEE;LA;LTOQ;LO;LI;LLAQ;LPA PLURAL;LTAA;NQ;
LNDAA MY HOUSE;LSHIQ;LYEUX;LNGUAE;LYUAEN;MOQ SWIMMING;PCOVER;MUQ;NN;LKEUX;LPEUX;LNJEE EPOCH;LPUE;LWUE;LFEE;LVEE;LLU;
LMI;LREUX;MAE;LNGUAET;NA;LSHO;OQ;LFU REMEDY;LNA;LPI;LLOQ;LKO;LMEN;MA;NQ;LTEU;LKI;LMON;LTEN;LFAQ;LGHOM;JF KA;LU;LKU;LEE;
LREE;LTAE;LNYI;LLA;LRII;NEE;LMEEEE;LTAA;LNDAA;MJAEM;LM;LSUU;MHII;MI;MEUX;LKYEE;MET;LNUAE;N;MJUAE;LYOQ;LSHU;LYA;LNSHA;
LPEUX;LNTEE;LWUE;LPEE;LRU;LNI;LREUX;LKEN;LNGKWAEN;NGA;LSHO;LPUAE;LFOM;LWA;LLI;MOQ;LKO;LMBEN;LREN;LMA;MO;MBAA;LTET;LKPA;
LSAMBA;LVUEQ;@16A40;0MRO LETTER TA;BNGI;BYO;BMIM;BBA;BDA;BA;BPHI;BKHAI;BHAO;BDAI;BCHU;BKEAAE;BOL;BMAEM;BNIN;BPA;BOO;C;
BRO;BSHI;BTHEA;BEA;BWA;BE;BKO;BLAN;D;BHAI;BRI;BTEK;@16A60;4DIGIT ZERO;AONE;ATWO;BHREE;AFOUR;BIVE;ASIX;BEVEN;AEIGHT;
ANINE;@16A6E;5ANDA;5OUBLE DANDA;0TANGSA LETTER OZ;FC;FQ;FX;EAZ;FC;FQ;FX;EVZ;FC;FQ;FX;EEZ;FC;FQ;FX;EIZ;FC;FQ;FX;EUZ;FC;
FQ;FX;EAWZ;GC;GQ;GX;EUIZ;GC;GQ;GX;EFINAL NG;ELONG UEX;ESHORT UEZ;KAWX;EUEC;GZ;GQ;GX;FIUZ;HC;HQ;HX;EMZ;FC;FQ;FX;EKA;FHA;
EGA;ENGA;ESA;EYA;EWA;EPA;ENYA;EPHA;EBA;EMA;ENA;EHA;ELA;EHTA;ETA;EDA;ERA;ENHA;ESHA;ECA;ETSA;EGHA;EHTTA;ETHA;EXA;EFA;
EDHA;ECHA;EZA;@16AC0;7DIGIT ZERO;DONE;DTWO;EHREE;DFOUR;EIVE;DSIX;EEVEN;DEIGHT;DNINE;@16AD0;0BASSA VAH LETTER ENNI;HKA;
HSE;HFA;HMBE;HYIE;HGAH;HDHII;HKPAH;HJO;HHWAH;HWA;HZO;HGBU;HDO;HCE;HUWU;HTO;HBA;HVU;HYEIN;HPA;HWADDA;HA;HO;IO;HU;HEE;I;
HI;@16AF0;ACOMBINING HIGH TONE;KLOW TONE;KMID TONE;KLOW-MID TONE;KHIGH-LOW TONE;AFULL STOP;@16B00;
0PAHAWH HMONG VOWEL KEEB;MV;KIB;LV;KAUB;MV;KUB;LV;KEB;LV;KAIB;MV;KOOB;MV;KAWB;MV;KUAB;MV;KOB;LV;KIAB;MV;KAB;LV;KWB;LV;
KAAB;MV;DCONSONANT VAU;NNTSAU;NLAU;NHAU;NNLAU;NRAU;NNKAU;NQHAU;NYAU;NHLAU;NMAU;NCHAU;NNCHAU;NHNAU;NPLHAU;NNTHAU;OAU;
NAU;NXAU;NCAU;DMARK CIM TUB;MSO;MKES;NHAV;MSUAM;MHOM;MTAUM;DSIGN VOS THOM;NSHAB CEEB;ICIM CHEEM;IVOS THIAB;MFEEM;
IXYEEM NTXIV;ORHO;OTOV;OFAIB;IVOS SEEV;IMEEJ SUAB;IVOS NRUA;IIB YAM;IXAUS;ICIM TSOV ROG;@16B50;DDIGIT ZERO;JONE;JTWO;
KHREE;JFOUR;KIVE;JSIX;KEVEN;JEIGHT;JNINE;@16B5B;DNUMBER TENS;KHUNDREDS;KTEN THOUSANDS;KMILLIONS;KHUNDRED MILLIONS;
KTEN BILLIONS;LRILLIONS;@16B63;DSIGN VOS LUB;IXYOO;IHLI;ITHIRD-STAGE HLI;IZWJ THAJ;IHNUB;INQIG;IXIAB;INTUJ;IAV;
ITXHEEJ CEEV;IMEEJ TSEEB;ITAU;ILOS;IMUS;ICIM HAIS LUS NTOG NTOG;MCUAM TSHOOJ;MTXWV;Q CHWV;MPUB DAWB;MNRES TOS;@16B7D;
DCLAN SIGN TSHEEJ;NYEEG;NLIS;OAUJ;NXYOOJ;NKOO;NHAWJ;NMUAS;NTHOJ;OSAB;NPHAB;NKHAB;NHAM;NVAJ;NFAJ;NYAJ;NTSWB;NKWM;NVWJ;
@16E40;0MEDEFAIDRIN CAPITAL LETTER M;RS;RV;RW;RATIU;RZ;RKP;RP;RT;RG;RF;RI;RK;RA;RJ;RE;RB;RC;RU;RYU;RL;RQ;RHP;RNY;RX;RD;
ROE;RN;RR;RO;RAI;RY;CSMALL LETTER M;PS;PV;PW;PATIU;PZ;PKP;PP;PT;PG;PF;PI;PK;PA;PJ;PE;PB;PC;PU;PYU;PL;PQ;PHP;PNY;PX;PD;
POE;PN;PR;PO;PAI;PY;CDIGIT ZERO;IONE;ITWO;JHREE;IFOUR;JIVE;ISIX;JEVEN;IEIGHT;ININE;CNUMBER TEN;JELEVEN;JTWELVE;
KHIRTEEN;JFOURTEEN;KIFTEEN;JSIXTEEN;KEVENTEEN;JEIGHTEEN;JNINETEEN;CDIGIT ONE ALTERNATE FORM;ITWO ALTERNATE FORM;
JHREE ALTERNATE FORM;CCOMMA;CFULL STOP;CSYMBOL AIVA;CEXCLAMATION OH;@16F00;1IAO LETTER PA;CBA;CYI PA;CPLA;CMA;DHA;
CARCHAIC MA;CFA;CVA;DFA;CTA;CDA;CYI TTA;GA;CTTA;CDDA;CNA;DHA;CYI NNA;CARCHAIC NA;CNNA;EHA;CLA;DYA;DHA;EYA;CTLHA;CDLHA;
CTLHYA;CDLHYA;CKA;CGA;CYI KA;CQA;DGA;CNGA;EHA;CARCHAIC NGA;CHA;CXA;CGHA;EHA;CTSSA;CDZZA;CNYA;EHA;CTSHA;CDZHA;CYI TSHA;
FDZHA;CREFORMED TSHA;CSHA;DSA;CZHA;DSHA;CTSA;CDZA;CYI TSA;CSA;CZA;DSA;DZA;ESA;CARCHAIC ZZA;CZZYA;ESYA;CWA;CAH;CHHA;
CBRI;CSYI;CDZYI;CTE;DSE;CRTE;@16F4F;5SIGN CONSONANT MODIFIER BAR;5LETTER NASALIZATION;5SIGN ASPIRATION;
AREFORMED VOICING;JASPIRATION;5VOWEL SIGN A;HA;HHH;HN;IG;GO;HO;GWO;H;GE;HN;IG;GOEY;GI;HA;IN;JG;HO;HE;HI;HU;HNG;GU;HA;
IN;JG;HU;HEI;HNG;GY;HI;GAE;IE;GERR;GROUNDED ERR;GER;GROUNDED ER;GAI;GEI;GAU;GOU;GN;HG;GUOG;GYUI;GOG;HER;GVW;GIG;GEA;
GIONG;GUI;@16F8F;5TONE RIGHT;ATOP RIGHT;AABOVE;ABELOW;5LETTER TONE-2;H3;H4;H5;H6;H7;H8;CREFORMED TONE-1;Q2;Q4;Q5;Q6;Q8;
@16FE0;0TANGUT ITERATION MARK;0NUSHU ITERATION MARK;0OLD CHINESE HOOK MARK;CITERATION MARK;0KHITAN SMALL SCRIPT FILLER;
@16FF0;0VIETNAMESE ALTERNATE READING MARK CA;YNHAY;@18800;0TANGUT COMPONENT-001;J2;J3;J4;J5;J6;J7;J8;J9;I10;J1;J2;J3;
J4;J5;J6;J7;J8;J9;I20;J1;J2;J3;J4;J5;J6;J7;J8;J9;I30;J1;J2;J3;J4;J5;J6;J7;J8;J9;I40;J1;J2;J3;J4;J5;J6;J7;J8;J9;I50;J1;
J2;J3;J4;J5;J6;J7;J8;J9;I60;J1;J2;J3;J4;J5;J6;J7;J8;J9;I70;J1;J2;J3;J4;J5;J6;J7;J8;J9;I80;J1;J2;J3;J4;J5;J6;J7;J8;J9;
I90;J1;J2;J3;J4;J5;J6;J7;J8;J9;H100;J1;J2;J3;J4;J5;J6;J7;J8;J9;I10;J1;J2;J3;J4;J5;J6;J7;J8;J9;I20;J1;J2;J3;J4;J5;J6;J7;
J8;J9;I30;J1;J2;J3;J4;J5;J6;J7;J8;J9;I40;J1;J2;J3;J4;J5;J6;J7;J8;J9;I50;J1;J2;J3;J4;J5;J6;J7;J8;J9;I60;J1;J2;J3;J4;J5;
J6;J7;J8;J9;I70;J1;J2;J3;J4;J5;J6;J7;J8;J9;I80;J1;J2;J3;J4;J5;J6;J7;J8;J9;I90;J1;J2;J3;J4;J5;J6;J7;J8;J9;H200;J1;J2;J3;
J4;J5;J6;J7;J8;J9;I10;J1;J2;J3;J4;J5;J6;J7;J8;J9;I20;J1;J2;J3;J4;J5;J6;J7;J8;J9;I30;J1;J2;J3;J4;J5;J6;J7;J8;J9;I40;J1;
J2;J3;J4;J5;J6;J7;J8;J9;I50;J1;J2;J3;J4;J5;J6;J7;J8;J9;I60;J1;J2;J3;J4;J5;J6;J7;J8;J9;I70;J1;J2;J3;J4;J5;J6;J7;J8;J9;
I80;J1;J2;J3;J4;J5;J6;J7;J8;J9;I90;J1;J2;J3;J4;J5;J6;J7;J8;J9;H300;J1;J2;J3;J4;J5;J6;J7;J8;J9;I10;J1;J2;J3;J4;J5;J6;J7;
J8;J9;I20;J1;J2;J3;J4;J5;J6;J7;J8;J9;I30;J1;J2;J3;J4;J5;J6;J7;J8;J9;I40;J1;J2;J3;J4;J5;J6;J7;J8;J9;I50;J1;J2;J3;J4;J5;
J6;J7;J8;J9;I60;J1;J2;J3;J4;J5;J6;J7;J8;J9;I70;J1;J2;J3;J4;J5;J6;J7;J8;J9;I80;J1;J2;J3;J4;J5;J6;J7;J8;J9;I90;J1;J2;J3;
J4;J5;J6;J7;J8;J9;H400;J1;J2;J3;J4;J5;J6;J7;J8;J9;I10;J1;J2;J3;J4;J5;J6;J7;J8;J9;I20;J1;J2;J3;J4;J5;J6;J7;J8;J9;I30;J1;
J2;J3;J4;J5;J6;J7;J8;J9;I40;J1;J2;J3;J4;J5;J6;J7;J8;J9;I50;J1;J2;J3;J4;J5;J6;J7;J8;J9;I60;J1;J2;J3;J4;J5;J6;J7;J8;J9;
I70;J1;J2;J3;J4;J5;J6;J7;J8;J9;I80;J1;J2;J3;J4;J5;J6;J7;J8;J9;I90;J1;J2;J3;J4;J5;J6;J7;J8;J9;H500;J1;J2;J3;J4;J5;J6;J7;
J8;J9;I10;J1;J2;J3;J4;J5;J6;J7;J8;J9;I20;J1;J2;J3;J4;J5;J6;J7;J8;J9;I30;J1;J2;J3;J4;J5;J6;J7;J8;J9;I40;J1;J2;J3;J4;J5;
J6;J7;J8;J9;I50;J1;J2;J3;J4;J5;J6;J7;J8;J9;I60;J1;J2;J3;J4;J5;J6;J7;J8;J9;I70;J1;J2;J3;J4;J5;J6;J7;J8;J9;I80;J1;J2;J3;
J4;J5;J6;J7;J8;J9;I90;J1;J2;J3;J4;J5;J6;J7;J8;J9;H600;J1;J2;J3;J4;J5;J6;J7;J8;J9;I10;J1;J2;J3;J4;J5;J6;J7;J8;J9;I20;J1;
J2;J3;J4;J5;J6;J7;J8;J9;I30;J1;J2;J3;J4;J5;J6;J7;J8;J9;I40;J1;J2;J3;J4;J5;J6;J7;J8;J9;I50;J1;J2;J3;J4;J5;J6;J7;J8;J9;
I60;J1;J2;J3;J4;J5;J6;J7;J8;J9;I70;J1;J2;J3;J4;J5;J6;J7;J8;J9;I80;J1;J2;J3;J4;J5;J6;J7;J8;J9;I90;J1;J2;J3;J4;J5;J6;J7;
J8;J9;H700;J1;J2;J3;J4;J5;J6;J7;J8;J9;I10;J1;J2;J3;J4;J5;J6;J7;J8;J9;I20;J1;J2;J3;J4;J5;J6;J7;J8;J9;I30;J1;J2;J3;J4;J5;
J6;J7;J8;J9;I40;J1;J2;J3;J4;J5;J6;J7;J8;J9;I50;J1;J2;J3;J4;J5;J6;J7;J8;J9;I60;J1;J2;J3;J4;J5;J6;J7;J8;
0KHITAN SMALL SCRIPT CHARACTER-18B00;Y1;Y2;Y3;Y4;Y5;Y6;Y7;Y8;Y9;YA;YB;YC;YD;YE;YF;X10;Y1;Y2;Y3;Y4;Y5;Y6;Y7;Y8;Y9;YA;YB;
YC;YD;YE;YF;X20;Y1;Y2;Y3;Y4;Y5;Y6;Y7;Y8;Y9;YA;YB;YC;YD;YE;YF;X30;Y1;Y2;Y3;Y4;Y5;Y6;Y7;Y8;Y9;YA;YB;YC;YD;YE;YF;X40;Y1;
Y2;Y3;Y4;Y5;Y6;Y7;Y8;Y9;YA;YB;YC;YD;YE;YF;X50;Y1;Y2;Y3;Y4;Y5;Y6;Y7;Y8;Y9;YA;YB;YC;YD;YE;YF;X60;Y1;Y2;Y3;Y4;Y5;Y6;Y7;Y8;
Y9;YA;YB;YC;YD;YE;YF;X70;Y1;Y2;Y3;Y4;Y5;Y6;Y7;Y8;Y9;YA;YB;YC;YD;YE;YF;X80;Y1;Y2;Y3;Y4;Y5;Y6;Y7;Y8;Y9;YA;YB;YC;YD;YE;YF;
X90;Y1;Y2;Y3;Y4;Y5;Y6;Y7;Y8;Y9;YA;YB;YC;YD;YE;YF;XA0;Y1;Y2;Y3;Y4;Y5;Y6;Y7;Y8;Y9;YA;YB;YC;YD;YE;YF;XB0;Y1;Y2;Y3;Y4;Y5;
Y6;Y7;Y8;Y9;YA;YB;YC;YD;YE;YF;XC0;Y1;Y2;Y3;Y4;Y5;Y6;Y7;Y8;Y9;YA;YB;YC;YD;YE;YF;XD0;Y1;Y2;Y3;Y4;Y5;Y6;Y7;Y8;Y9;YA;YB;YC;
YD;YE;YF;XE0;Y1;Y2;Y3;Y4;Y5;Y6;Y7;Y8;Y9;YA;YB;YC;YD;YE;YF;XF0;Y1;Y2;Y3;Y4;Y5;Y6;Y7;Y8;Y9;YA;YB;YC;YD;YE;YF;WC00;Y1;Y2;
Y3;Y4;Y5;Y6;Y7;Y8;Y9;YA;YB;YC;YD;YE;YF;X10;Y1;Y2;Y3;Y4;Y5;Y6;Y7;Y8;Y9;YA;YB;YC;YD;YE;YF;X20;Y1;Y2;Y3;Y4;Y5;Y6;Y7;Y8;Y9;
YA;YB;YC;YD;YE;YF;X30;Y1;Y2;Y3;Y4;Y5;Y6;Y7;Y8;Y9;YA;YB;YC;YD;YE;YF;X40;Y1;Y2;Y3;Y4;Y5;Y6;Y7;Y8;Y9;YA;YB;YC;YD;YE;YF;
X50;Y1;Y2;Y3;Y4;Y5;Y6;Y7;Y8;Y9;YA;YB;YC;YD;YE;YF;X60;Y1;Y2;Y3;Y4;Y5;Y6;Y7;Y8;Y9;YA;YB;YC;YD;YE;YF;X70;Y1;Y2;Y3;Y4;Y5;
Y6;Y7;Y8;Y9;YA;YB;YC;YD;YE;YF;X80;Y1;Y2;Y3;Y4;Y5;Y6;Y7;Y8;Y9;YA;YB;YC;YD;YE;YF;X90;Y1;Y2;Y3;Y4;Y5;Y6;Y7;Y8;Y9;YA;YB;YC;
YD;YE;YF;XA0;Y1;Y2;Y3;Y4;Y5;Y6;Y7;Y8;Y9;YA;YB;YC;YD;YE;YF;XB0;Y1;Y2;Y3;Y4;Y5;Y6;Y7;Y8;Y9;YA;YB;YC;YD;YE;YF;XC0;Y1;Y2;
Y3;Y4;Y5;Y6;Y7;Y8;Y9;YA;YB;YC;YD;YE;YF;XD0;Y1;Y2;Y3;Y4;Y5;@1AFF0;1ATAKANA LETTER MINNAN TONE-2;S3;S4;S5;@1AFF5;S7;S8;
NNASALIZED TONE-1;c2;c3;c4;c5;@1AFFD;c7;c8;@1B000;GARCHAIC E;0HIRAGANA LETTER ARCHAIC YE;1ENTAIGANA LETTER A-1;K2;K3;
KWO;II-1;K2;K3;K4;IU-1;K2;K3;K4;K5;IE-2;K3;K4;K5;K6;IO-1;K2;K3;IKA-1;L2;L3;L4;L5;L6;L7;L8;L9;L10;M1;LKE;JI-1;L2;L3;L4;
L5;L6;L7;L8;JU-1;L2;L3;L4;L5;L6;L7;JE-1;L2;L3;L4;L5;L6;JO-1;L2;L3;LKI;ISA-1;L2;L3;L4;L5;L6;L7;L8;JI-1;L2;L3;L4;L5;L6;
JU-1;L2;L3;L4;L5;L6;L7;L8;JE-1;L2;L3;L4;L5;JO-1;L2;L3;L4;L5;L6;L7;ITA-1;L2;L3;L4;JI-1;L2;L3;L4;L5;L6;L7;JU-1;L2;L3;L4;
LTO;JE-1;L2;L3;L4;L5;L6;L7;L8;L9;JO-1;L2;L3;L4;L5;L6;LRA;INA-1;L2;L3;L4;L5;L6;L7;L8;L9;JI-1;L2;L3;L4;L5;L6;L7;LTE;JU-1;
L2;L3;JE-1;L2;L3;L4;L5;L6;LKO;JO-1;L2;L3;L4;L5;IHA-1;L2;L3;L4;L5;L6;L7;L8;L9;L10;M1;JI-1;L2;L3;L4;L5;L6;L7;JU-1;L2;L3;
JE-1;L2;L3;L4;L5;L6;L7;JO-1;L2;L3;L4;L5;L6;L7;L8;IMA-1;L2;L3;L4;L5;L6;L7;JI-1;L2;L3;L4;L5;L6;L7;JU-1;L2;L3;L4;JE-1;L2;
LMA;JO-1;L2;L3;L4;L5;L6;IYA-1;L2;L3;L4;L5;LYO;JU-1;L2;L3;L4;JO-1;L2;L3;L4;L5;L6;IRA-1;L2;L3;L4;JI-1;L2;L3;L4;L5;L6;L7;
JU-1;L2;L3;L4;L5;L6;JE-1;L2;L3;L4;JO-1;L2;L3;L4;L5;L6;IWA-1;L2;L3;L4;L5;JI-1;L2;L3;L4;L5;JE-1;L2;L3;L4;JO-1;L2;L3;L4;
L5;L6;L7;IN-MU-MO-1;Q2;1IRAGANA LETTER ARCHAIC WU;0KATAKANA LETTER ARCHAIC YI;PE;OWU;@1B150;0HIRAGANA LETTER SMALL WI;
NE;NO;@1B164;0KATAKANA LETTER SMALL WI;NE;NO;MN;@1B170;0NUSHU CHARACTER-1B170;K1;K2;K3;K4;K5;K6;K7;K8;K9;KA;KB;KC;KD;
KE;KF;J80;K1;K2;K3;K4;K5;K6;K7;K8;K9;KA;KB;KC;KD;KE;KF;J90;K1;K2;K3;K4;K5;K6;K7;K8;K9;KA;KB;KC;KD;KE;KF;JA0;K1;K2;K3;
K4;K5;K6;K7;K8;K9;KA;KB;KC;KD;KE;KF;JB0;K1;K2;K3;K4;K5;K6;K7;K8;K9;KA;KB;KC;KD;KE;KF;JC0;K1;K2;K3;K4;K5;K6;K7;K8;K9;KA;
KB;KC;KD;KE;KF;JD0;K1;K2;K3;K4;K5;K6;K7;K8;K9;KA;KB;KC;KD;KE;KF;JE0;K1;K2;K3;K4;K5;K6;K7;K8;K9;KA;KB;KC;KD;KE;KF;JF0;
K1;K2;K3;K4;K5;K6;K7;K8;K9;KA;KB;KC;KD;KE;KF;I200;K1;K2;K3;K4;K5;K6;K7;K8;K9;KA;KB;KC;KD;KE;KF;J10;K1;K2;K3;K4;K5;K6;
K7;K8;K9;KA;KB;KC;KD;KE;KF;J20;K1;K2;K3;K4;K5;K6;K7;K8;K9;KA;KB;KC;KD;KE;KF;J30;K1;K2;K3;K4;K5;K6;K7;K8;K9;KA;KB;KC;KD;
KE;KF;J40;K1;K2;K3;K4;K5;K6;K7;K8;K9;KA;KB;KC;KD;KE;KF;J50;K1;K2;K3;K4;K5;K6;K7;K8;K9;KA;KB;KC;KD;KE;KF;J60;K1;K2;K3;
K4;K5;K6;K7;K8;K9;KA;KB;KC;KD;KE;KF;J70;K1;K2;K3;K4;K5;K6;K7;K8;K9;KA;KB;KC;KD;KE;KF;J80;K1;K2;K3;K4;K5;K6;K7;K8;K9;KA;
KB;KC;KD;KE;KF;J90;K1;K2;K3;K4;K5;K6;K7;K8;K9;KA;KB;KC;KD;KE;KF;JA0;K1;K2;K3;K4;K5;K6;K7;K8;K9;KA;KB;KC;KD;KE;KF;JB0;
K1;K2;K3;K4;K5;K6;K7;K8;K9;KA;KB;KC;KD;KE;KF;JC0;K1;K2;K3;K4;K5;K6;K7;K8;K9;KA;KB;KC;KD;KE;KF;JD0;K1;K2;K3;K4;K5;K6;K7;
K8;K9;KA;KB;KC;KD;KE;KF;JE0;K1;K2;K3;K4;K5;K6;K7;K8;K9;KA;KB;KC;KD;KE;KF;JF0;K1;K2;K3;K4;K5;K6;K7;K8;K9;KA;KB;@1BC00;
0DUPLOYAN LETTER H;GX;GP;GT;GF;GK;GL;GB;GD;GV;GG;GR;GP N;GD S;GF N;GK M;GR S;GTH;GSLOAN DH;GDH;GKK;GSLOAN J;GHL;GLH;
GRH;GM;GN;GJ;GS;GM N;GN M;GJ M;GS J;GM WITH DOT;GN WITH DOT;GJ WITH DOT;QS INSIDE AND ABOVE;GS WITH DOT;Q BELOW;GM S;
GN S;GJ S;GS S;GM N S;GN M S;GJ M S;GS J S;GJ S WITH DOT;IN;J S;GS T;J R;IP;J R;GT S;IR S;GW;HH;H R;GS N;IM;GK R S;
GG R S;GS K;J R;GA;GSLOAN OW;GOA;H;GAOU;GI;GE;GIE;GSHORT I;GUI;GEE;GSLOAN EH;GROMANIAN I;GSLOAN EE;GLONG I;GYE;GU;GEU;
GXW;GU N;GLONG U;GROMANIAN U;GUH;GSLOAN U;GOOH;HW;HU;GWA;HO;HI;HEI;HOW;GNASAL U;MO;MI;MA;GPERNIN AN;OM;GSLOAN EN;MAN;
MON;GVOCALIC M;@1BC70;9AFFIX LEFT HORIZONTAL SECANT;FMID HORIZONTAL SECANT;FRIGHT HORIZONTAL SECANT;
FLOW VERTICAL SECANT;FMID VERTICAL SECANT;FHIGH VERTICAL SECANT;FATTACHED SECANT;OLEFT-TO-RIGHT SECANT;OTANGENT;QIL;
OE HOOK;OI HOOK;OTANGENT HOOK;@1BC80;FHIGH ACUTE;KTIGHT ACUTE;KGRAVE;KLONG GRAVE;KDOT;KCIRCLE;KLINE;KWAVE;KVERTICAL;
@1BC90;FLOW ACUTE;JTIGHT ACUTE;JGRAVE;JLONG GRAVE;JDOT;JCIRCLE;JLINE;JWAVE;JVERTICAL;JARROW;@1BC9C;9SIGN O WITH CROSS;
9THICK LETTER SELECTOR;9DOUBLE MARK;9PUNCTUATION CHINOOK FULL STOP;0SHORTHAND FORMAT LETTER OVERLAP;
HCONTINUING OVERLAP;HDOWN STEP;HUP STEP;@1CF00;0ZNAMENNY COMBINING MARK GORAZDO NIZKO S KRYZHEM ON LEFT;
ONIZKO S KRYZHEM ON LEFT;OTSATA ON LEFT;OGORAZDO NIZKO ON LEFT;ONIZKO ON LEFT;OSREDNE ON LEFT;OMALO POVYSHE ON LEFT;
OPOVYSHE ON LEFT;OVYSOKO ON LEFT;OMALO POVYSHE S KHOKHLOM ON LEFT;OPOVYSHE S KHOKHLOM ON LEFT;
OVYSOKO S KHOKHLOM ON LEFT;OGORAZDO NIZKO S KRYZHEM ON RIGHT;ONIZKO S KRYZHEM ON RIGHT;OTSATA ON RIGHT;
OGORAZDO NIZKO ON RIGHT;ONIZKO ON RIGHT;OSREDNE ON RIGHT;OMALO POVYSHE ON RIGHT;OPOVYSHE ON RIGHT;OVYSOKO ON RIGHT;
OMALO POVYSHE S KHOKHLOM ON RIGHT;OPOVYSHE S KHOKHLOM ON RIGHT;OVYSOKO S KHOKHLOM ON RIGHT;OTSATA S KRYZHEM;
OMALO POVYSHE S KRYZHEM;OSTRANNO MALO POVYSHE;OPOVYSHE S KRYZHEM;XTRANNO;OVYSOKO S KRYZHEM;OMALO POVYSHE STRANNO;
OGORAZDO VYSOKO;OZELO;OON;ORAVNO;OTIKHAYA;OBORZAYA;OUDARKA;OPODVERTKA;OLOMKA;OKUPNAYA;PACHKA;OZEVOK;OSKOBA;ORAZSEKA;
OKRYZH ON LEFT;@1CF30;JTONAL RANGE MARK MRACHNO;aSVETLO;aTRESVETLO;JMARK ZADERZHKA;ODEMESTVENNY ZADERZHKA;OOTSECHKA;
OPODCHASHIE;Y WITH VERTICAL STROKE;OCHASHKA;V POLNAYA;OOBLACHKO;OSOROCHYA NOZHKA;OTOCHKA;ODVOETOCHIE;
JATTACHING VERTICAL OMET;JMARK CURVED OMET;OKRYZH;JLOWER TONAL RANGE INDICATOR;9PRIZNAK MODIFIER LEVEL-2;W3;
QDIRECTION FLIP;QKRYZH;QROG;@1CF50;9NEUME KRYUK;K TIKHY;FPARAKLIT;FDVA V CHELNU;FKLYUCH;FZANOZHEK;FSTOPITSA;N S OCHKOM;
FPEREVODKA;O NEPOSTOYANNAYA;FSTOPITSA WITH SOROCHYA NOZHKA;FCHELYUSTKA;FPALKA;FZAPYATAYA;FGOLUBCHIK BORZY;PTIKHY;
PMRACHNY;PSVETLY;PTRESVETLY;FVRAKHIYA PROSTAYA;OMRACHNAYA;OSVETLAYA;OTRESVETLAYA;OKLYUCHEVAYA PROSTAYA;aMRACHNAYA;
aSVETLAYA;aTRESVETLAYA;FDOUBLE ZAPYATAYA;FREVERSED CHELYUSTKA;FDERBITSA;FKHAMILO;FCHASHKA;FPODCHASHIE;
FSKAMEYTSA MRACHNAYA;PSVETLAYA;PTRESVETLAYA;QIKHAYA;FDEMESTVENNY KLYUCH;FSKAMEYTSA KLYUCHEVAYA SVETLAYA;
WNEPOSTOYANNAYA;WVAYA TIKHAYA;PDVOECHELNAYA PROSTAYA;cSVETLAYA;cNEPOSTOYANNAYA;cKLYUCHEVAYA;GLOZHITIE;O S ZAPYATOY;
PZAKRYTOE;PS KRYZHEM;FKRYZH;FROG;FFITA;FKOBYLA;FZMEYTSA;FSTATYA;L S ZAPYATOY;OKRYZHEM;OZAPYATOY I KRYZHEM;
OKRYZHEM I ZAPYATOY;MZAKRYTAYA;V S ZAPYATOY;MS ROGOM;ODVUMYA ZAPYATYMI;OZAPYATOY I PODCHASHIEM;FPOLKULIZMY;
FSTATYA NEPOSTOYANNAYA;HRELA PROSTAYA;MMRACHNOTIKHAYA;MKRYZHEVAYA;MPOLUPOVODNAYA;OVODNAYA;MNEPOSTOYANNAYA;
MKLYUCHEPOVODNAYA;TNEPOSTOYANNAYA;MTIKHAYA PUTNAYA;MDVOECHELNAYA;VOKRYZHEVAYA;WPOVODNAYA;VAYA KLYUCHEVAYA;
VOPOVODNAYA KLYUCHEVAYA;MGROMNAYA WITH SINGLE ZAPYATAYA;QOPOVODNAYA WITH SINGLE ZAPYATAYA;QNAYA;QOPOVODNAYA;
a WITH DOUBLE ZAPYATAYA;RKRYZHEVAYA;b POVODNAYA;FMECHIK;L POVODNY;MKLYUCHEVOY;TPOVODNY;TNEPOSTOYANNY;
FSTRELA TRYASOGLASNAYA;SPOVODNAYA;SSTRELNAYA;FOSOKA;K SVETLAYA;LTRESVETLAYA;LKRYUKOVAYA SVETLAYA;MLYUCHEVAYA SVETLAYA;
XNEPOSTOYANNAYA;FSTRELA KRYUKOVAYA;W POVODNAYA;XGROMNAYA WITH SINGLE ZAPYATAYA;bOPOVODNAYA WITH SINGLE ZAPYATAYA;bNAYA;
bOPOVODNAYA;l WITH DOUBLE ZAPYATAYA;cKRYZHEVAYA;m POVODNAYA;XTRYASKA;FKUFISMA;FOBLAKO;FDUDA;FNEMKA;FPAUK;@1D000;
0BYZANTINE MUSICAL SYMBOL PSILI;PDASEIA;PPERISPOMENI;POXEIA EKFONITIKON;VDIPLI;PVAREIA EKFONITIKON;WDIPLI;PKATHISTI;
PSYRMATIKI;PPARAKLITIKI;PYPOKRISIS;Y DIPLI;PKREMASTI;PAPESO EKFONITIKON;PEXO EKFONITIKON;PTELEIA;PKENTIMATA;
PAPOSTROFOS;Z DIPLI;PSYNEVMA;PTHITA;POLIGON ARCHAION;PGORGON ARCHAION;PPSILON;PCHAMILON;PVATHY;PISON ARCHAION;
PKENTIMA ARCHAION;WTA ARCHAION;PSAXIMATA;PPARICHON;PSTAVROS APODEXIA;POXEIAI ARCHAION;PVAREIAI ARCHAION;
PAPODERMA ARCHAION;STHEMA;PKLASMA;PREVMA;PPIASMA ARCHAION;PTINAGMA;PANATRICHISMA;PSEISMA;QYNAGMA ARCHAION;
XMETA STAVROU;POYRANISMA ARCHAION;PTHEMA;PLEMOI;PDYO;PTRIA;QESSERA;PKRATIMATA;PAPESO EXO NEO;PFTHORA ARCHAION;
PIMIFTHORA;PTROMIKON ARCHAION;PKATAVA TROMIKON;PPELASTON;QSIFISTON;PKONTEVMA;PCHOREVMA ARCHAION;PRAPISMA;
PPARAKALESMA ARCHAION;ULITIKI ARCHAION;PICHADIN;PNANA;PPETASMA;PKONTEVMA ALLO;PTROMIKON ALLO;PSTRAGGISMATA;
PGRONTHISMATA;PISON NEO;POLIGON NEO;QXEIA NEO;PPETASTI;PKOUFISMA;PPETASTOKOUFISMA;PKRATIMOKOUFISMA;PPELASTON NEO;
PKENTIMATA NEO ANO;W NEO ANO;PYPSILI;PAPOSTROFOS NEO;YI SYNDESMOS NEO;PYPORROI;PKRATIMOYPORROON;PELAFRON;PCHAMILI;
PMIKRON ISON;PVAREIA NEO;PPIASMA NEO;QSIFISTON NEO;POMALON;PANTIKENOMA;PLYGISMA;PPARAKLITIKI NEO;UALESMA NEO;
PETERON PARAKALESMA;PKYLISMA;PANTIKENOKYLISMA;PTROMIKON NEO;PEKSTREPTON;PSYNAGMA NEO;RRMA;PCHOREVMA NEO;PEPEGERMA;
PSEISMA NEO;PXIRON KLASMA;PTROMIKOPSIFISTON;PPSIFISTOLYGISMA;PTROMIKOLYGISMA;WPARAKALESMA;PPSIFISTOPARAKALESMA;
PTROMIKOSYNAGMA;PPSIFISTOSYNAGMA;PGORGOSYNTHETON;PARGOSYNTHETON;PETERON ARGOSYNTHETON;POYRANISMA NEO;PTHEMATISMOS ESO;
cXO;U APLOUN;SS KAI APOTHES;PKATAVASMA;PENDOFONON;PYFEN KATO;UANO;PSTAVROS;PKLASMA ANO;PDIPLI ARCHAION;
PKRATIMA ARCHAION;YLLO;XNEO;PAPODERMA NEO;RLI;PDIPLI;PTRIPLI;QETRAPLI;PKORONIS;PLEIMMA ENOS CHRONOU;WDYO CHRONON;
WTRION CHRONON;XESSARON CHRONON;WIMISEOS CHRONOU;PGORGON NEO ANO;WPARESTIGMENON ARISTERA;kDEXIA;PDIGORGON;
X PARESTIGMENON ARISTERA KATO;vANO;mDEXIA;PTRIGORGON;PARGON;PIMIDIARGON;PDIARGON;PAGOGI POLI ARGI;VARGOTERI;YI;VMETRIA;
XSI;VGORGI;ZOTERI;VPOLI GORGI;PMARTYRIA PROTOS ICHOS;YALLI PROTOS ICHOS;YDEYTEROS ICHOS;YALLI DEYTEROS ICHOS;
YTRITOS ICHOS;bFONIAS;ZETARTOS ICHOS;hLEGETOS ICHOS;YLEGETOS ICHOS;YPLAGIOS ICHOS;PISAKIA TELOUS ICHIMATOS;
PAPOSTROFOI TELOUS ICHIMATOS;PFANEROSIS TETRAFONIAS;ZMONOFONIAS;ZDIFONIAS;PMARTYRIA VARYS ICHOS;YPROTOVARYS ICHOS;
ZLAGIOS TETARTOS ICHOS;PGORTHMIKON N APLOUN;cDIPLOUN;PENARXIS KAI FTHORA VOU;PIMIFONON;TTHORON;
PFTHORA ARCHAION DEYTEROU ICHOU;WDIATONIKI PA;gNANA;WNAOS ICHOS;WDIATONIKI DI;WSKLIRON DIATONON DI;WDIATONIKI KE;gZO;
gNI KATO;jANO;WMALAKON CHROMA DIFONIAS;lMONOFONIAS;QHTORA SKLIRON CHROMA VASIS;QTHORA SKLIRON CHROMA SYNAFI;WNENANO;
PCHROA ZYGOS;VKLITON;VSPATHI;PFTHORA I YFESIS TETARTIMORION;WENARMONIOS ANTIFONIA;PYFESIS TRITIMORION;
PDIESIS TRITIMORION;XETARTIMORION;WAPLI DYO DODEKATA;WMONOGRAMMOS TESSERA DODEKATA;WDIGRAMMOS EX DODEKATA;
WTRIGRAMMOS OKTO DODEKATA;PYFESIS APLI DYO DODEKATA;WMONOGRAMMOS TESSERA DODEKATA;WDIGRAMMOS EX DODEKATA;
WTRIGRAMMOS OKTO DODEKATA;PGENIKI DIESIS;WYFESIS;PDIASTOLI APLI MIKRI;eEGALI;YDIPLI;YTHESEOS;PSIMANSIS THESEOS;
f DISIMOU;gTRISIMOU;hETRASIMOU;YARSEOS;e DISIMOU;fTRISIMOU;gETRASIMOU;PDIGRAMMA GG;RFTOGGOS OU;PSTIGMA;PARKTIKO PA;
XVOU;XGA;XDI;XKE;XZO;XNI;PKENTIMATA NEO MESO;W NEO MESO;WTA NEO KATO;W NEO KATO;QLASMA KATO;PGORGON NEO KATO;@1D100;
0MUSICAL SYMBOL SINGLE BARLINE;FDOUBLE BARLINE;FFINAL BARLINE;FREVERSE FINAL BARLINE;FDASHED BARLINE;FSHORT BARLINE;
FLEFT REPEAT SIGN;FRIGHT REPEAT SIGN;GEPEAT DOTS;FDAL SEGNO;H CAPO;FSEGNO;FCODA;FREPEATED FIGURE-1;V2;V3;FFERMATA;
M BELOW;FBREATH MARK;FCAESURA;FBRACE;JKET;FONE-LINE STAFF;FTWO-LINE STAFF;GHREE-LINE STAFF;FFOUR-LINE STAFF;
GIVE-LINE STAFF;FSIX-LINE STAFF;JSTRING FRETBOARD;FFOUR-STRING FRETBOARD;FG CLEF;L OTTAVA ALTA;TBASSA;FC CLEF;FF CLEF;
L OTTAVA ALTA;TBASSA;FDRUM CLEF-1;P2;@1D129;FMULTIPLE MEASURE REST;FDOUBLE SHARP;MFLAT;FFLAT UP;KDOWN;FNATURAL UP;
NDOWN;FSHARP UP;LDOWN;FQUARTER TONE SHARP;SFLAT;FCOMMON TIME;GUT TIME;FOTTAVA ALTA;MBASSA;FQUINDICESIMA ALTA;SBASSA;
FMULTI REST;FWHOLE REST;FHALF REST;FQUARTER REST;FEIGHTH REST;FSIXTEENTH REST;FTHIRTY-SECOND REST;FSIXTY-FOURTH REST;
FONE HUNDRED TWENTY-EIGHTH REST;FX NOTEHEAD;FPLUS NOTEHEAD;FCIRCLE X NOTEHEAD;FSQUARE NOTEHEAD WHITE;VBLACK;
FTRIANGLE NOTEHEAD UP WHITE;aBLACK;XLEFT WHITE;cBLACK;XRIGHT WHITE;dBLACK;XDOWN WHITE;cBLACK;XUP RIGHT WHITE;gBLACK;
FMOON NOTEHEAD WHITE;TBLACK;FTRIANGLE-ROUND NOTEHEAD DOWN WHITE;iBLACK;FPARENTHESIS NOTEHEAD;FVOID NOTEHEAD;
FNOTEHEAD BLACK;GULL NOTEHEAD;FCLUSTER NOTEHEAD WHITE;WBLACK;FBREVE;FWHOLE NOTE;FHALF NOTE;FQUARTER NOTE;FEIGHTH NOTE;
FSIXTEENTH NOTE;FTHIRTY-SECOND NOTE;FSIXTY-FOURTH NOTE;FONE HUNDRED TWENTY-EIGHTH NOTE;FCOMBINING STEM;
QPRECHGESANG STEM;PTREMOLO-1;X2;X3;FFINGERED TREMOLO-1;W2;W3;FCOMBINING AUGMENTATION DOT;PFLAG-1;U2;U3;U4;U5;
FBEGIN BEAM;FEND BEAM;FBEGIN TIE;FEND TIE;FBEGIN SLUR;FEND SLUR;FBEGIN PHRASE;FEND PHRASE;FCOMBINING ACCENT;PSTACCATO;
PTENUTO;PSTACCATISSIMO;PMARCATO;W-STACCATO;PACCENT-STACCATO;PLOURE;FARPEGGIATO UP;QDOWN;FCOMBINING DOIT;PRIP;PFLIP;
PSMEAR;PBEND;PDOUBLE TONGUE;PTRIPLE TONGUE;FRINFORZANDO;FSUBITO;FZ;FPIANO;FMEZZO;FFORTE;FCRESCENDO;FDECRESCENDO;
FGRACE NOTE SLASH;QNO SLASH;FTR;GURN;FINVERTED TURN;FTURN SLASH;KUP;FORNAMENT STROKE-1;V2;V3;V4;V5;V6;V7;V8;V9;V10;W1;
FHAUPTSTIMME;FNEBENSTIMME;FEND OF STIMME;FDEGREE SLASH;FCOMBINING DOWN BOW;PUP BOW;PHARMONIC;PSNAP PIZZICATO;
FPEDAL MARK;LUP MARK;FHALF PEDAL MARK;FGLISSANDO UP;PDOWN;FWITH FINGERNAILS;FDAMP;J ALL;FMAXIMA;FLONGA;FBREVIS;
FSEMIBREVIS WHITE;QBLACK;FMINIMA;L BLACK;FSEMIMINIMA WHITE;QBLACK;FFUSA WHITE;KBLACK;FLONGA PERFECTA REST;
LIMPERFECTA REST;FBREVIS REST;FSEMIBREVIS REST;FMINIMA REST;FSEMIMINIMA REST;FTEMPUS PERFECTUM CUM PROLATIONE PERFECTA;
lIMPERFECTA;lPERFECTA DIMINUTION-1;MIMPERFECTUM CUM PROLATIONE PERFECTA;nIMPERFECTA;x DIMINUTION-1;zIMINUTION-2;
zIMINUTION-3;FCROIX;FGREGORIAN C CLEF;PF CLEF;FSQUARE B;FVIRGA;FPODATUS;FCLIVIS;FSCANDICUS;FCLIMACUS;FTORCULUS;
FPORRECTUS;O FLEXUS;FSCANDICUS FLEXUS;FTORCULUS RESUPINUS;FPES SUBPUNCTIS;FKIEVAN C CLEF;MEND OF PIECE;MFINAL NOTE;
MRECITATIVE MARK;MWHOLE NOTE;MHALF NOTE;MQUARTER NOTE STEM DOWN;eUP;MEIGHTH NOTE STEM DOWN;dUP;MFLAT SIGN;FSORI;FKORON;
@1D200;0GREEK VOCAL NOTATION SYMBOL-1;S2;S3;S4;S5;S6;S7;S8;S9;S10;T1;T2;T3;T4;T5;T6;T7;T8;T9;S20;T1;T2;T3;T4;S50;T1;T2;
T3;T4;6INSTRUMENTAL NOTATION SYMBOL-1;Z2;Z4;Z5;Z7;Z8;Z11;a2;a3;a4;a7;a8;a9;Z23;a4;a5;a6;a7;a9;Z30;a2;a6;a7;a8;a9;Z40;
a2;a3;a5;a7;a8;a9;Z50;a1;a2;a3;a4;0COMBINING GREEK MUSICAL TRISEME;PETRASEME;OPENTASEME;0GREEK MUSICAL LEIMMA;@1D2E0;
0MAYAN NUMERAL ZERO;EONE;ETWO;FHREE;EFOUR;FIVE;ESIX;FEVEN;EEIGHT;ENINE;ETEN;EELEVEN;ETWELVE;FHIRTEEN;EFOURTEEN;FIFTEEN;
ESIXTEEN;FEVENTEEN;EEIGHTEEN;ENINETEEN;@1D300;1ONOGRAM FOR EARTH;0DIGRAM FOR HEAVENLY EARTH;CUMAN EARTH;
BEARTHLY HEAVEN;KUMAN;G;0TETRAGRAM FOR CENTRE;EFULL CIRCLE;EMIRED;EBARRIER;EKEEPING SMALL;ECONTRARIETY;EASCENT;
EOPPOSITION;EBRANCHING OUT;EDEFECTIVENESS OR DISTORTION;FIVERGENCE;EYOUTHFULNESS;EINCREASE;EPENETRATION;EREACH;
ECONTACT;EHOLDING BACK;EWAITING;EFOLLOWING;EADVANCE;ERELEASE;GSISTANCE;EEASE;EJOY;ECONTENTION;EENDEAVOUR;EDUTIES;
ECHANGE;EDECISIVENESS;EBOLD RESOLUTION;EPACKING;ELEGION;ECLOSENESS;EKINSHIP;EGATHERING;ESTRENGTH;EPURITY;EFULLNESS;
ERESIDENCE;ELAW OR MODEL;ERESPONSE;EGOING TO MEET;EENCOUNTERS;ESTOVE;EGREATNESS;EENLARGEMENT;EPATTERN;ERITUAL;EFLIGHT;
EVASTNESS OR WASTING;ECONSTANCY;EMEASURE;EETERNITY;EUNITY;EDIMINISHMENT;ECLOSED MOUTH;EGUARDEDNESS;FATHERING IN;
EMASSING;EACCUMULATION;EEMBELLISHMENT;EDOUBT;EWATCH;ESINKING;EINNER;EDEPARTURE;FARKENING;FIMMING;EEXHAUSTION;
ESEVERANCE;FTOPPAGE;EHARDNESS;ECOMPLETION;FLOSURE;EFAILURE;EAGGRAVATION;ECOMPLIANCE;EON THE VERGE;EDIFFICULTIES;
ELABOURING;EFOSTERING;@1D360;0COUNTING ROD UNIT DIGIT ONE;OTWO;PHREE;OFOUR;PIVE;OSIX;PEVEN;OEIGHT;ONINE;
DTENS DIGIT ONE;OTWO;PHREE;OFOUR;PIVE;OSIX;PEVEN;OEIGHT;ONINE;0IDEOGRAPHIC TALLY MARK ONE;NTWO;OHREE;NFOUR;OIVE;
0TALLY MARK ONE;BFIVE;@1D400;0MATHEMATICAL BOLD CAPITAL A;QB;QC;QD;QE;QF;QG;QH;QI;QJ;QK;QL;QM;QN;QO;QP;QQ;QR;QS;QT;QU;
QV;QW;QX;QY;QZ;ISMALL A;OB;OC;OD;OE;OF;OG;OH;OI;OJ;OK;OL;OM;ON;OO;OP;OQ;OR;OS;OT;OU;OV;OW;OX;OY;OZ;DITALIC CAPITAL A;
SB;SC;SD;SE;SF;SG;SH;SI;SJ;SK;SL;SM;SN;SO;SP;SQ;SR;SS;ST;SU;SV;SW;SX;SY;SZ;KSMALL A;QB;QC;QD;QE;QF;QG;@1D456;QI;QJ;QK;
QL;QM;QN;QO;QP;QQ;QR;QS;QT;QU;QV;QW;QX;QY;QZ;DBOLD ITALIC CAPITAL A;XB;XC;XD;XE;XF;XG;XH;XI;XJ;XK;XL;XM;XN;XO;XP;XQ;XR;
XS;XT;XU;XV;XW;XX;XY;XZ;PSMALL A;VB;VC;VD;VE;VF;VG;VH;VI;VJ;VK;VL;VM;VN;VO;VP;VQ;VR;VS;VT;VU;VV;VW;VX;VY;VZ;
DSCRIPT CAPITAL A;@1D49E;SC;SD;@1D4A2;SG;@1D4A5;SJ;SK;@1D4A9;SN;SO;SP;SQ;@1D4AE;SS;ST;SU;SV;SW;SX;SY;SZ;KSMALL A;QB;QC;
QD;@1D4BB;QF;@1D4BD;QH;QI;QJ;QK;QL;QM;QN;@1D4C5;QP;QQ;QR;QS;QT;QU;QV;QW;QX;QY;QZ;DBOLD SCRIPT CAPITAL A;XB;XC;XD;XE;XF;
XG;XH;XI;XJ;XK;XL;XM;XN;XO;XP;XQ;XR;XS;XT;XU;XV;XW;XX;XY;XZ;PSMALL A;VB;VC;VD;VE;VF;VG;VH;VI;VJ;VK;VL;VM;VN;VO;VP;VQ;
VR;VS;VT;VU;VV;VW;VX;VY;VZ;DFRAKTUR CAPITAL A;TB;@1D507;TD;TE;TF;TG;@1D50D;TJ;TK;TL;TM;TN;TO;TP;TQ;@1D516;TS;TT;TU;TV;
TW;TX;TY;@1D51E;LSMALL A;RB;RC;RD;RE;RF;RG;RH;RI;RJ;RK;RL;RM;RN;RO;RP;RQ;RR;RS;RT;RU;RV;RW;RX;RY;RZ;
DDOUBLE-STRUCK CAPITAL A;ZB;@1D53B;ZD;ZE;ZF;ZG;@1D540;ZI;ZJ;ZK;ZL;ZM;@1D546;ZO;@1D54A;ZS;ZT;ZU;ZV;ZW;ZX;ZY;@1D552;
RSMALL A;XB;XC;XD;XE;XF;XG;XH;XI;XJ;XK;XL;XM;XN;XO;XP;XQ;XR;XS;XT;XU;XV;XW;XX;XY;XZ;DBOLD FRAKTUR CAPITAL A;YB;YC;YD;
YE;YF;YG;YH;YI;YJ;YK;YL;YM;YN;YO;YP;YQ;YR;YS;YT;YU;YV;YW;YX;YY;YZ;QSMALL A;WB;WC;WD;WE;WF;WG;WH;WI;WJ;WK;WL;WM;WN;WO;
WP;WQ;WR;WS;WT;WU;WV;WW;WX;WY;WZ;DSANS-SERIF CAPITAL A;WB;WC;WD;WE;WF;WG;WH;WI;WJ;WK;WL;WM;WN;WO;WP;WQ;WR;WS;WT;WU;WV;
WW;WX;WY;WZ;OSMALL A;UB;UC;UD;UE;UF;UG;UH;UI;UJ;UK;UL;UM;UN;UO;UP;UQ;UR;US;UT;UU;UV;UW;UX;UY;UZ;OBOLD CAPITAL A;bB;bC;
bD;bE;bF;bG;bH;bI;bJ;bK;bL;bM;bN;bO;bP;bQ;bR;bS;bT;bU;bV;bW;bX;bY;bZ;TSMALL A;ZB;ZC;ZD;ZE;ZF;ZG;ZH;ZI;ZJ;ZK;ZL;ZM;ZN;
ZO;ZP;ZQ;ZR;ZS;ZT;ZU;ZV;ZW;ZX;ZY;ZZ;OITALIC CAPITAL A;dB;dC;dD;dE;dF;dG;dH;dI;dJ;dK;dL;dM;dN;dO;dP;dQ;dR;dS;dT;dU;dV;
dW;dX;dY;dZ;VSMALL A;bB;bC;bD;bE;bF;bG;bH;bI;bJ;bK;bL;bM;bN;bO;bP;bQ;bR;bS;bT;bU;bV;bW;bX;bY;bZ;OBOLD ITALIC CAPITAL A;
iB;iC;iD;iE;iF;iG;iH;iI;iJ;iK;iL;iM;iN;iO;iP;iQ;iR;iS;iT;iU;iV;iW;iX;iY;iZ;aSMALL A;gB;gC;gD;gE;gF;gG;gH;gI;gJ;gK;gL;
gM;gN;gO;gP;gQ;gR;gS;gT;gU;gV;gW;gX;gY;gZ;DMONOSPACE CAPITAL A;VB;VC;VD;VE;VF;VG;VH;VI;VJ;VK;VL;VM;VN;VO;VP;VQ;VR;VS;
VT;VU;VV;VW;VX;VY;VZ;NSMALL A;TB;TC;TD;TE;TF;TG;TH;TI;TJ;TK;TL;TM;TN;TO;TP;TQ;TR;TS;TT;TU;TV;TW;TX;TY;TZ;
DITALIC SMALL DOTLESS I;YJ;@1D6A8;DBOLD CAPITAL ALPHA;QBETA;QGAMMA;QDELTA;QEPSILON;QZETA;QETA;QTHETA;QIOTA;QKAPPA;
QLAMDA;QMU;QNU;QXI;QOMICRON;QPI;QRHO;QTHETA SYMBOL;QSIGMA;QTAU;QUPSILON;QPHI;QCHI;QPSI;QOMEGA;INABLA;ISMALL ALPHA;
OBETA;OGAMMA;ODELTA;OEPSILON;OZETA;OETA;OTHETA;OIOTA;OKAPPA;OLAMDA;OMU;ONU;OXI;OOMICRON;OPI;ORHO;OFINAL SIGMA;OSIGMA;
OTAU;OUPSILON;OPHI;OCHI;OPSI;OOMEGA;IPARTIAL DIFFERENTIAL;IEPSILON SYMBOL;ITHETA SYMBOL;IKAPPA SYMBOL;IPHI SYMBOL;
IRHO SYMBOL;IPI SYMBOL;DITALIC CAPITAL ALPHA;SBETA;SGAMMA;SDELTA;SEPSILON;SZETA;SETA;STHETA;SIOTA;SKAPPA;SLAMDA;SMU;
SNU;SXI;SOMICRON;SPI;SRHO;STHETA SYMBOL;SSIGMA;STAU;SUPSILON;SPHI;SCHI;SPSI;SOMEGA;KNABLA;KSMALL ALPHA;QBETA;QGAMMA;
QDELTA;QEPSILON;QZETA;QETA;QTHETA;QIOTA;QKAPPA;QLAMDA;QMU;QNU;QXI;QOMICRON;QPI;QRHO;QFINAL SIGMA;QSIGMA;QTAU;QUPSILON;
QPHI;QCHI;QPSI;QOMEGA;KPARTIAL DIFFERENTIAL;KEPSILON SYMBOL;KTHETA SYMBOL;KKAPPA SYMBOL;KPHI SYMBOL;KRHO SYMBOL;
KPI SYMBOL;DBOLD ITALIC CAPITAL ALPHA;XBETA;XGAMMA;XDELTA;XEPSILON;XZETA;XETA;XTHETA;XIOTA;XKAPPA;XLAMDA;XMU;XNU;XXI;
XOMICRON;XPI;XRHO;XTHETA SYMBOL;XSIGMA;XTAU;XUPSILON;XPHI;XCHI;XPSI;XOMEGA;PNABLA;PSMALL ALPHA;VBETA;VGAMMA;VDELTA;
VEPSILON;VZETA;VETA;VTHETA;VIOTA;VKAPPA;VLAMDA;VMU;VNU;VXI;VOMICRON;VPI;VRHO;VFINAL SIGMA;VSIGMA;VTAU;VUPSILON;VPHI;
VCHI;VPSI;VOMEGA;PPARTIAL DIFFERENTIAL;PEPSILON SYMBOL;PTHETA SYMBOL;PKAPPA SYMBOL;PPHI SYMBOL;PRHO SYMBOL;PPI SYMBOL;
DSANS-SERIF BOLD CAPITAL ALPHA;bBETA;bGAMMA;bDELTA;bEPSILON;bZETA;bETA;bTHETA;bIOTA;bKAPPA;bLAMDA;bMU;bNU;bXI;bOMICRON;
bPI;bRHO;bTHETA SYMBOL;bSIGMA;bTAU;bUPSILON;bPHI;bCHI;bPSI;bOMEGA;TNABLA;TSMALL ALPHA;ZBETA;ZGAMMA;ZDELTA;ZEPSILON;
ZZETA;ZETA;ZTHETA;ZIOTA;ZKAPPA;ZLAMDA;ZMU;ZNU;ZXI;ZOMICRON;ZPI;ZRHO;ZFINAL SIGMA;ZSIGMA;ZTAU;ZUPSILON;ZPHI;ZCHI;ZPSI;
ZOMEGA;TPARTIAL DIFFERENTIAL;TEPSILON SYMBOL;TTHETA SYMBOL;TKAPPA SYMBOL;TPHI SYMBOL;TRHO SYMBOL;TPI SYMBOL;
TITALIC CAPITAL ALPHA;iBETA;iGAMMA;iDELTA;iEPSILON;iZETA;iETA;iTHETA;iIOTA;iKAPPA;iLAMDA;iMU;iNU;iXI;iOMICRON;iPI;iRHO;
iTHETA SYMBOL;iSIGMA;iTAU;iUPSILON;iPHI;iCHI;iPSI;iOMEGA;aNABLA;aSMALL ALPHA;gBETA;gGAMMA;gDELTA;gEPSILON;gZETA;gETA;
gTHETA;gIOTA;gKAPPA;gLAMDA;gMU;gNU;gXI;gOMICRON;gPI;gRHO;gFINAL SIGMA;gSIGMA;gTAU;gUPSILON;gPHI;gCHI;gPSI;gOMEGA;
aPARTIAL DIFFERENTIAL;aEPSILON SYMBOL;aTHETA SYMBOL;aKAPPA SYMBOL;aPHI SYMBOL;aRHO SYMBOL;aPI SYMBOL;
DBOLD CAPITAL DIGAMMA;ISMALL DIGAMMA;@1D7CE;IDIGIT ZERO;OONE;OTWO;PHREE;OFOUR;PIVE;OSIX;PEVEN;OEIGHT;ONINE;
DDOUBLE-STRUCK DIGIT ZERO;XONE;XTWO;YHREE;XFOUR;YIVE;XSIX;YEVEN;XEIGHT;XNINE;DSANS-SERIF DIGIT ZERO;UONE;UTWO;VHREE;
UFOUR;VIVE;USIX;VEVEN;UEIGHT;UNINE;OBOLD DIGIT ZERO;ZONE;ZTWO;aHREE;ZFOUR;aIVE;ZSIX;aEVEN;ZEIGHT;ZNINE;
DMONOSPACE DIGIT ZERO;TONE;TTWO;UHREE;TFOUR;UIVE;TSIX;UEVEN;TEIGHT;TNINE;0SIGNWRITING HAND-FIST INDEX;HCIRCLE INDEX;
IUP INDEX;HOVAL INDEX;HHINGE INDEX;HANGLE INDEX;HFIST INDEX BENT;HCIRCLE INDEX BENT;HFIST THUMB UNDER INDEX BENT;
MINDEX RAISED KNUCKLE;SCUPPED;SHINGED;Y LOW;HCIRCLE INDEX HINGE;HFIST INDEX MIDDLE;HCIRCLE INDEX MIDDLE;
HFIST INDEX MIDDLE BENT;ZRAISED KNUCKLES;ZHINGED;SUP MIDDLE HINGED;SHINGED MIDDLE UP;SMIDDLE CONJOINED;i INDEX BENT;
jMIDDLE BENT;jCUPPED;jHINGED;aROSSED;HCIRCLE INDEX MIDDLE CROSSED;HFIST MIDDLE BENT OVER INDEX;MINDEX BENT OVER MIDDLE;
SMIDDLE THUMB;HCIRCLE INDEX MIDDLE THUMB;HFIST INDEX MIDDLE STRAIGHT THUMB BENT;ZBENT THUMB STRAIGHT;ZTHUMB BENT;
ZHINGED SPREAD THUMB SIDE;SUP MIDDLE HINGED THUMB SIDE;pCONJOINED;SHINGED MIDDLE UP THUMB SIDE;
SMIDDLE UP SPREAD THUMB FORWARD;ZTHUMB CUPPED;gIRCLED;fHOOKED;gINGED;MTHUMB BETWEEN INDEX MIDDLE STRAIGHT;
MINDEX MIDDLE CONJOINED THUMB SIDE;t CONJOINED;uBENT;MMIDDLE THUMB HOOKED INDEX UP;MINDEX THUMB HOOKED MIDDLE UP;
SMIDDLE CONJOINED HINGED THUMB SIDE;aROSSED THUMB SIDE;aONJOINED THUMB FORWARD;jCUPPED THUMB FORWARD;
MMIDDLE THUMB CUPPED INDEX UP;MINDEX THUMB CUPPED MIDDLE UP;MMIDDLE THUMB CIRCLED INDEX UP;nHINGED;
MINDEX THUMB ANGLED OUT MIDDLE UP;fIN MIDDLE UP;YCIRCLED MIDDLE UP;SMIDDLE THUMB CONJOINED HINGED;fANGLED OUT;l;
MMIDDLE THUMB ANGLED OUT INDEX UP;qCROSSED;gINDEX UP;MINDEX THUMB HOOKED MIDDLE HINGED;ILAT FOUR FINGERS;Y BENT;
ZHINGED;ZCONJOINED;i SPLIT;HCLAW FOUR FINGERS CONJOINED;HFIST FOUR FINGERS CONJOINED BENT;
HHINGE FOUR FINGERS CONJOINED;HFLAT FIVE FINGERS SPREAD;MHEEL FIVE FINGERS SPREAD;MFIVE FINGERS SPREAD FOUR BENT;
MHEEL FIVE FINGERS SPREAD FOUR BENT;MFIVE FINGERS SPREAD BENT;MHEEL FIVE FINGERS SPREAD BENT;
MFIVE FINGERS SPREAD THUMB FORWARD;HCUP FIVE FINGERS SPREAD;e OPEN;HHINGE FIVE FINGERS SPREAD OPEN;
HOVAL FIVE FINGERS SPREAD;HFLAT FIVE FINGERS SPREAD HINGED;m THUMB SIDE;nNO THUMB;L;L BETWEEN PALM FACINGS;MHEEL;
MTHUMB SIDE;MHEEL THUMB SIDE;MTHUMB BENT;SFORWARD;MSPLIT INDEX THUMB SIDE;SCENTRE;Y THUMB SIDE;j BENT;SLITTLE;HCLAW;
L THUMB SIDE;MNO THUMB;MTHUMB FORWARD;HHOOK CURLICUE;L;HCUP OPEN;K;K OPEN THUMB SIDE;LTHUMB SIDE;LOPEN NO THUMB;
LNO THUMB;LOPEN THUMB FORWARD;LTHUMB FORWARD;JRLICUE OPEN;P;IIRCLE;HOVAL;L THUMB SIDE;MNO THUMB;MTHUMB FORWARD;
HHINGE OPEN;R THUMB FORWARD;M;M SMALL;NOPEN THUMB SIDE;NTHUMB SIDE;NOPEN NO THUMB;NNO THUMB;NTHUMB SIDE TOUCHING INDEX;
TBETWEEN MIDDLE RING;HANGLE;HFIST INDEX MIDDLE RING;HCIRCLE INDEX MIDDLE RING;HHINGE INDEX MIDDLE RING;
HANGLE INDEX MIDDLE RING;HHINGE LITTLE;HFIST INDEX MIDDLE RING BENT;eCONJOINED;HHINGE INDEX MIDDLE RING CONJOINED;
HFIST LITTLE DOWN;X RIPPLE STRAIGHT;fCURVED;YOTHERS CIRCLED;TUP;MTHUMB UNDER LITTLE UP;HCIRCLE LITTLE UP;
HOVAL LITTLE UP;HANGLE LITTLE UP;HFIST LITTLE RAISED KNUCKLE;TBENT;TTOUCHES THUMB;UHUMB;HHINGE LITTLE THUMB;
HFIST LITTLE INDEX THUMB;HHINGE LITTLE INDEX THUMB;HANGLE LITTLE INDEX THUMB INDEX THUMB OUT;r;HFIST LITTLE INDEX;
HCIRCLE LITTLE INDEX;HHINGE LITTLE INDEX;HANGLE LITTLE INDEX;HFIST INDEX MIDDLE LITTLE;HCIRCLE INDEX MIDDLE LITTLE;
HHINGE INDEX MIDDLE LITTLE;NRING;HANGLE INDEX MIDDLE LITTLE;HFIST INDEX MIDDLE CROSS LITTLE;
HCIRCLE INDEX MIDDLE CROSS LITTLE;HFIST RING DOWN;HHINGE RING DOWN INDEX THUMB HOOK MIDDLE;
HANGLE RING DOWN MIDDLE THUMB INDEX CROSS;HFIST RING UP;RRAISED KNUCKLE;RLITTLE;HCIRCLE RING LITTLE;HOVAL RING LITTLE;
HANGLE RING LITTLE;HFIST RING MIDDLE;X CONJOINED;YRAISED KNUCKLES;RINDEX;RTHUMB;HHOOK RING THUMB;
HFIST INDEX RING LITTLE;HCIRCLE INDEX RING LITTLE;IURLICUE INDEX RING LITTLE ON;HHOOK INDEX RING LITTLE OUT;eIN;eUNDER;
HCUP INDEX RING LITTLE;HHINGE INDEX RING LITTLE;HANGLE INDEX RING LITTLE OUT;e;HFIST MIDDLE DOWN;HHINGE MIDDLE;
HFIST MIDDLE UP;HCIRCLE MIDDLE UP;HFIST MIDDLE RAISED KNUCKLE;TUP THUMB SIDE;HHOOK MIDDLE THUMB;
HFIST MIDDLE THUMB LITTLE;TLITTLE;TRING LITTLE;HCIRCLE MIDDLE RING LITTLE;IURLICUE MIDDLE RING LITTLE ON;
JP MIDDLE RING LITTLE;HHINGE MIDDLE RING LITTLE;HANGLE MIDDLE RING LITTLE OUT;gIN;f;HCIRCLE MIDDLE RING LITTLE BENT;
ILAW MIDDLE RING LITTLE CONJOINED;o SIDE;HHOOK MIDDLE RING LITTLE CONJOINED OUT;pIN;o;IINGE INDEX HINGED;
HFIST INDEX THUMB SIDE;HHINGE INDEX THUMB SIDE;HFIST INDEX THUMB SIDE THUMB DIAGONAL;jCONJOINED;jBENT;dINDEX BENT;
dBOTH BENT;dINDEX HINGE;YFORWARD INDEX STRAIGHT;mBENT;YHOOK;YCURLICUE;bVE THUMB INSIDE;
HCLAW INDEX THUMB CURVE THUMB INSIDE;HFIST INDEX THUMB CURVE THUMB UNDER;ZIRCLE;HCUP INDEX THUMB;W OPEN;
HHINGE INDEX THUMB OPEN;ZLARGE;Y;Y SMALL;HANGLE INDEX THUMB OUT;ZIN;Y;HFIST THUMB;R HEEL;SSIDE DIAGONAL;XCONJOINED;
XBENT;SFORWARD;SBETWEEN INDEX MIDDLE;aMIDDLE RING;aRING LITTLE;SUNDER TWO FINGERS;SOVER TWO FINGERS;
SUNDER THREE FINGERS;YFOUR FINGERS;SOVER FOUR RAISED KNUCKLES;L;L HEEL;CTOUCH SINGLE;IMULTIPLE;IBETWEEN;CGRASP SINGLE;
IMULTIPLE;IBETWEEN;CSTRIKE SINGLE;JMULTIPLE;JBETWEEN;CBRUSH SINGLE;IMULTIPLE;IBETWEEN;CRUB SINGLE;GMULTIPLE;GBETWEEN;
CSURFACE SYMBOLS;KBETWEEN;DQUEEZE LARGE SINGLE;KSMALL SINGLE;KLARGE MULTIPLE;KSMALL MULTIPLE;LEQUENTIAL;
CFLICK LARGE SINGLE;ISMALL SINGLE;ILARGE MULTIPLE;ISMALL MULTIPLE;JEQUENTIAL;CSQUEEZE FLICK ALTERNATING;
CMOVEMENT-HINGE UP DOWN LARGE;ZSMALL;USEQUENTIAL;RDOWN SEQUENTIAL;RUP DOWN ALTERNATING LARGE;lSMALL;
RSIDE TO SIDE SCISSORS;LWALLPLANE FINGER CONTACT;LFLOORPLANE FINGER CONTACT;LWALLPLANE SINGLE STRAIGHT SMALL;lMEDIUM;
lLARGE;qST;cWRIST FLEX;VDOUBLE STRAIGHT;cWRIST FLEX;cALTERNATING;n WRIST FLEX;VCROSS;VTRIPLE STRAIGHT MOVEMENT;
cWRIST FLEX;cALTERNATING;n WRIST FLEX;VBEND SMALL;aMEDIUM;aLARGE;VCORNER SMALL;cMEDIUM;cLARGE;cROTATION;WHECK SMALL;
bMEDIUM;bLARGE;VBOX SMALL;ZMEDIUM;ZLARGE;VZIGZAG SMALL;cMEDIUM;cLARGE;VPEAKS SMALL;bMEDIUM;bLARGE;
CTRAVEL-WALLPLANE ROTATION-WALLPLANE SINGLE;mDOUBLE;mALTERNATING;cFLOORPLANE SINGLE;nDOUBLE;nALTERNATING;TSHAKING;
TARM SPIRAL SINGLE;eDOUBLE;eTRIPLE;CMOVEMENT-DIAGONAL AWAY SMALL;ZMEDIUM;ZLARGE;eST;UTOWARDS SMALL;cMEDIUM;cLARGE;hST;
UBETWEEN AWAY SMALL;hMEDIUM;hLARGE;mST;cTOWARDS SMALL;kMEDIUM;kLARGE;pST;LFLOORPLANE SINGLE STRAIGHT SMALL;mMEDIUM;
mLARGE;rST;dWRIST FLEX;WDOUBLE STRAIGHT;dWRIST FLEX;dALTERNATING;o WRIST FLEX;WCROSS;WTRIPLE STRAIGHT MOVEMENT;
dWRIST FLEX;dALTERNATING MOVEMENT;pWRIST FLEX;WBEND;WCORNER SMALL;dMEDIUM;dLARGE;XHECK;WBOX SMALL;aMEDIUM;aLARGE;
WZIGZAG SMALL;dMEDIUM;dLARGE;WPEAKS SMALL;cMEDIUM;cLARGE;CTRAVEL-FLOORPLANE ROTATION-FLOORPLANE SINGLE;oDOUBLE;
oALTERNATING;dWALLPLANE SINGLE;nDOUBLE;nALTERNATING;USHAKING;CMOVEMENT-WALLPLANE CURVE QUARTER SMALL;jMEDIUM;jLARGE;
oST;bHALF-CIRCLE SMALL;nMEDIUM;nLARGE;sST;bTHREE-QUARTER CIRCLE SMALL;wMEDIUM;VHUMP SMALL;aMEDIUM;aLARGE;VLOOP SMALL;
aMEDIUM;aLARGE;aSMALL DOUBLE;VWAVE CURVE DOUBLE SMALL;nMEDIUM;nLARGE;gTRIPLE SMALL;nMEDIUM;nLARGE;VCURVE THEN STRAIGHT;
aD CROSS SMALL;iMEDIUM;CROTATION-WALLPLANE SINGLE;VDOUBLE;VALTERNATE;CMOVEMENT-WALLPLANE SHAKING;
VCURVE HITTING FRONT WALL;VHUMP HITTING FRONT WALL;VLOOP HITTING FRONT WALL;VWAVE HITTING FRONT WALL;
CROTATION-WALLPLANE SINGLE HITTING FRONT WALL;VDOUBLE HITTING FRONT WALL;VALTERNATING HITTING FRONT WALL;
CMOVEMENT-WALLPLANE CURVE HITTING CHEST;VHUMP HITTING CHEST;VLOOP HITTING CHEST;VWAVE HITTING CHEST;
CROTATION-WALLPLANE SINGLE HITTING CHEST;VDOUBLE HITTING CHEST;VALTERNATING HITTING CHEST;
CMOVEMENT-WALLPLANE WAVE DIAGONAL PATH SMALL;oMEDIUM;oLARGE;LFLOORPLANE CURVE HITTING CEILING SMALL;sLARGE;
WHUMP HITTING CEILING SMALL DOUBLE;rLARGE DOUBLE;rSMALL TRIPLE;rLARGE TRIPLE;WLOOP HITTING CEILING SMALL SINGLE;
rLARGE SINGLE;rSMALL DOUBLE;rLARGE DOUBLE;WWAVE HITTING CEILING SMALL;rLARGE;
CROTATION-FLOORPLANE SINGLE HITTING CEILING;WDOUBLE HITTING CEILING;WALTERNATING HITTING CEILING;
CMOVEMENT-FLOORPLANE CURVE HITTING FLOOR SMALL;qLARGE;WHUMP HITTING FLOOR SMALL DOUBLE;pLARGE DOUBLE;
pTRIPLE SMALL TRIPLE;wLARGE TRIPLE;WLOOP HITTING FLOOR SMALL SINGLE;pLARGE SINGLE;pSMALL DOUBLE;pLARGE DOUBLE;
WWAVE HITTING FLOOR SMALL;pLARGE;CROTATION-FLOORPLANE SINGLE HITTING FLOOR;WDOUBLE HITTING FLOOR;
WALTERNATING HITTING FLOOR;CMOVEMENT-FLOORPLANE CURVE SMALL;cMEDIUM;cLARGE;hST;cCOMBINED;WHUMP SMALL;WLOOP SMALL;
WWAVE SNAKE;cMALL;bLARGE;CROTATION-FLOORPLANE SINGLE;WDOUBLE;WALTERNATING;CMOVEMENT-FLOORPLANE SHAKING PARALLEL;
LWALLPLANE ARM CIRCLE SMALL SINGLE;gMEDIUM SINGLE;gSMALL DOUBLE;gMEDIUM DOUBLE;
LFLOORPLANE ARM CIRCLE HITTING WALL SMALL SINGLE;uMEDIUM SINGLE;uLARGE SINGLE;uSMALL DOUBLE;uMEDIUM DOUBLE;
uLARGE DOUBLE;LWALLPLANE WRIST CIRCLE FRONT SINGLE;oDOUBLE;LFLOORPLANE WRIST CIRCLE HITTING WALL SINGLE;wDOUBLE;
LWALLPLANE FINGER CIRCLES SINGLE;kDOUBLE;LFLOORPLANE FINGER CIRCLES HITTING WALL SINGLE;yDOUBLE;
CDYNAMIC ARROWHEAD SMALL;ULARGE;KFAST;KSLOW;KTENSE;KRELAXED;KSIMULTANEOUS;W ALTERNATING;KEVERY OTHER TIME;KGRADUAL;
CHEAD;G RIM;HMOVEMENT-WALLPLANE STRAIGHT;aTILT;QFLOORPLANE STRAIGHT;QWALLPLANE CURVE;QFLOORPLANE CURVE;P CIRCLE;
CFACE DIRECTION POSITION NOSE FORWARD TILTING;fUP OR DOWN;p TILTING;CEYEBROWS STRAIGHT UP;UNEUTRAL;UDOWN;
CDREAMY EYEBROWS NEUTRAL DOWN;SDOWN NEUTRAL;SUP NEUTRAL;SNEUTRAL UP;CFOREHEAD NEUTRAL;LCONTACT;LWRINKLED;CEYES OPEN;
HSQUEEZED;HCLOSED;F BLINK SINGLE;MMULTIPLE;FS HALF OPEN;HWIDE OPEN;HHALF CLOSED;HWIDENING MOVEMENT;F WINK;FLASHES UP;
MDOWN;MFLUTTERING;FGAZE-WALLPLANE STRAIGHT;c DOUBLE;dALTERNATING;KFLOORPLANE STRAIGHT;d DOUBLE;eALTERNATING;
KWALLPLANE CURVED;KFLOORPLANE CURVED;KWALLPLANE CIRCLING;CCHEEKS PUFFED;JNEUTRAL;JSUCKED;CTENSE CHEEKS HIGH;PMIDDLE;
PLOW;CEARS;CNOSE NEUTRAL;HCONTACT;HWRINKLES;IIGGLES;CAIR BLOWING OUT;GSUCKING IN;GBLOW SMALL ROTATIONS;
GSUCK SMALL ROTATIONS;CBREATH INHALE;JEXHALE;CMOUTH CLOSED NEUTRAL;PFORWARD;PCONTACT;ISMILE;N WRINKLED;OOPEN;IFROWN;
N WRINKLED;OOPEN;IOPEN CIRCLE;NFORWARD;NWRINKLED;NOVAL;R WRINKLED;SYAWN;NRECTANGLE;W WRINKLED;XYAWN;IKISS;M FORWARD;
NWRINKLED;ITENSE;N FORWARD;OSUCKED;CLIPS PRESSED TOGETHER;F LOWER OVER UPPER;GUPPER OVER LOWER;CMOUTH CORNERS;
IWRINKLES SINGLE;RDOUBLE;CTONGUE STICKING OUT FAR;JLICKING LIPS;JTIP BETWEEN LIPS;NTOUCHING INSIDE MOUTH;
JINSIDE MOUTH RELAXED;JMOVES AGAINST CHEEK;JCENTRE STICKING OUT;QINSIDE MOUTH;DEETH;H MOVEMENT;ION TONGUE;R MOVEMENT;
LLIPS;P MOVEMENT;IBITE LIPS;CMOVEMENT-WALLPLANE JAW;LFLOORPLANE JAW;CNECK;CHAIR;CEXCITEMENT;CSHOULDER HIP SPINE;
PPOSITIONS;CWALLPLANE SHOULDER HIP MOVE;CFLOORPLANE SHOULDER HIP MOVE;CSHOULDER TILTING FROM WAIST;
CTORSO-WALLPLANE STRAIGHT STRETCH;SCURVED BEND;IFLOORPLANE TWISTING;CUPPER BODY TILTING FROM HIP JOINTS;
CLIMB COMBINATION;HLENGTH-1;O2;O3;O4;O5;O6;O7;CFINGER;CLOCATION-WALLPLANE SPACE;LFLOORPLANE SPACE;K HEIGHT;LWIDTH;
LDEPTH;LHEAD NECK;LTORSO;LLIMBS DIGITS;CCOMMA;CFULL STOP;CSEMICOLON;CCOLON;CPARENTHESIS;@1DA9B;CFILL MODIFIER-2;Q3;Q4;
Q5;Q6;@1DAA1;CROTATION MODIFIER-2;U3;U4;U5;U6;U7;U8;U9;U10;V1;V2;V3;V4;V5;V6;@1DF00;
0LATIN SMALL LETTER FENG DIGRAPH WITH TRILL;JREVERSED SCRIPT G;6LETTER SMALL CAPITAL TURNED G;6SMALL LETTER REVERSED K;
6LETTER SMALL CAPITAL L WITH BELT;6SMALL LETTER LEZH WITH RETROFLEX HOOK;JTURNED Y WITH BELT;JREVERSED ENG;
JTURNED R WITH LONG LEG AND RETROFLEX HOOK;K WITH HOOK AND RETROFLEX HOOK;6LETTER RETROFLEX CLICK WITH RETROFLEX HOOK;
6SMALL LETTER ESH WITH DOUBLE BAR;c AND CURL;JTURNED T WITH CURL;6LETTER INVERTED GLOTTAL STOP WITH CURL;
DSTRETCHED C WITH CURL;EMALL CAPITAL TURNED K;6SMALL LETTER L WITH FISHHOOK;JDEZH DIGRAPH WITH PALATAL HOOK;
JL WITH BELT AND PALATAL HOOK;JENG WITH PALATAL HOOK;JTURNED R WITH PALATAL HOOK;JR WITH FISHHOOK AND PALATAL HOOK;
JTESH DIGRAPH WITH PALATAL HOOK;JEZH WITH PALATAL HOOK;JDEZH DIGRAPH WITH RETROFLEX HOOK;
JI WITH STROKE AND RETROFLEX HOOK;JO WITH RETROFLEX HOOK;JTESH DIGRAPH WITH RETROFLEX HOOK;JC WITH RETROFLEX HOOK;
JS WITH CURL;@1E000;0COMBINING GLAGOLITIC LETTER AZU;SBUKY;SVEDE;SGLAGOLI;SDOBRO;SYESTU;SZHIVETE;@1E008;TEMLJA;SIZHE;
TNITIAL IZHE;T;SDJERVI;SKAKO;SLJUDIJE;SMYSLITE;SNASHI;SONU;SPOKOJI;SRITSI;SSLOVO;STVRIDO;SUKU;SFRITU;SHERU;@1E01B;
SSHTA;STSI;SCHRIVI;SSHA;SYERU;VI;TATI;@1E023;TU;SSMALL YUS;@1E026;SYO;SIOTATED SMALL YUS;SBIG YUS;SIOTATED BIG YUS;
SFITA;@1E100;0NYIAKENG PUACHUE HMONG LETTER MA;UTSA;UNTA;UTA;UHA;UNA;UXA;UNKA;UCA;ULA;USA;UZA;UNCA;VTSA;UKA;UDA;UNYA;
VRA;UVA;UNTXA;UTXA;UFA;URA;UQA;UYA;UNQA;UPA;UXYA;UNPA;UDLA;UNPLA;UHAH;UMLA;UPLA;UGA;URRA;UA;VA;UI;UU;UO;VO;UE;VE;UW;
@1E130;NTONE-B;SM;SJ;SV;SS;SG;SD;NSIGN FOR PERSON;WTHING;WLOCATION;WANIMAL;WINVERTEBRATE;SXW XW;OYLLABLE LENGTHENER;
@1E140;NDIGIT ZERO;TONE;TTWO;UHREE;TFOUR;UIVE;TSIX;UEVEN;TEIGHT;TNINE;@1E14E;NLOGOGRAM NYAJ;NCIRCLED CA;@1E290;
0TOTO LETTER PA;CBA;CTA;CDA;CKA;CGA;CMA;CNA;DGA;CSA;CCHA;CYA;CWA;CJA;CHA;CRA;CLA;CI;CBREATHY I;CIU;CBREATHY IU;CU;CE;
CBREATHY E;CEO;CBREATHY EO;CO;CAE;CBREATHY AE;CA;5SIGN RISING TONE;@1E2C0;0WANCHO LETTER AA;F;EBA;ECA;EDA;EGA;EYA;EPHA;
ELA;ENA;EPA;ETA;FHA;EFA;ESA;FHA;EJA;EZA;EWA;EVA;EKA;EO;EAU;ERA;EMA;EKHA;EHA;EE;EI;ENGA;EU;ELLHA;ETSA;FRA;EONG;EAANG;
FNG;EING;EON;EEN;EAAN;ENYA;EUEN;EYIH;7TONE TUP;FNI;CKOI;FNI;7DIGIT ZERO;DONE;DTWO;EHREE;DFOUR;EIVE;DSIX;EEVEN;DEIGHT;
DNINE;@1E2FF;7NGUN SIGN;@1E7E0;0ETHIOPIC SYLLABLE HHYA;LU;LI;LAA;LEE;M;LO;@1E7E8;IGURAGE HHWA;IHHWI;LEE;M;@1E7ED;
IGURAGE MWI;REE;@1E7F0;PQWI;REE;S;PBWI;REE;PKWI;REE;S;PGWI;REE;S;PFWI;REE;PPWI;REE;@1E800;
0MENDE KIKAKUI SYLLABLE M001 KI;Q2 KA;Q3 KU;P65 KEE;P95 KE;P76 KOO;P48 KO;O179 KUA;O004 WI;Q5 WA;Q6 WU;O126 WEE;P18 WE;
Q4 WOO;O045 WO;O194 WUI;P43 WEI;O061 WVI;P49 WVA;O139 WVE;O007 MIN;Q8 MAN;Q9 MUN;P59 MEN;P94 MON;O154 MUAN;P89 MUEN;
O010 BI;Q1 BA;Q2 BU;O150 BEE;O097 BE;O103 BOO;P38 BO;O013 I;Q4 A;Q5 U;O163 EE;P00 E;P65 OO;P47 O;P37 EI;Q1 IN;Q5 IN;
P95 AN;P78 EN;O019 SI;P20 SA;Q1 SU;O162 SEE;P16 SE;P36 SOO;O079 SO;O196 SIA;O025 LI;Q6 LA;Q7 LU;P84 LEE;P73 LE;P54 LOO;
O153 LO;P10 LONG LE;O016 DI;Q7 DA;Q8 DU;P89 DEE;O180 DOO;Q1 DO;O022 TI;Q3 TA;Q4 TU;P91 TEE;P55 TE;O104 TOO;O069 TO;
P28 JI;Q9 JA;P30 JU;O157 JEE;P13 JE;P60 JOO;O063 JO;O175 LONG JO;O031 YI;Q2 YA;Q3 YU;O109 YEE;O080 YE;O141 YOO;P21 YO;
O034 FI;Q5 FA;Q6 FU;P78 FEE;Q5 FE;O133 FOO;O088 FO;O197 FUA;P01 FAN;O037 NIN;Q8 NAN;Q9 NUN;O117 NEN;P69 NON;P76 HI;
O041 HA;O186 HU;O040 HEE;P96 HE;P42 HOO;O140 HO;O083 HEEI;O128 HOOU;O053 HIN;O130 HAN;O087 HUN;P52 HEN;O193 HON;
O046 HUAN;P90 NGGI;P43 NGGA;P82 NGGU;O115 NGGEE;P46 NGGE;P56 NGGOO;P20 NGGO;P59 NGGAA;P27 NGGUA;O086 LONG NGGE;
O106 LONG NGGOO;P83 LONG NGGO;P55 GI;P11 GA;P68 GU;P90 GEE;P66 GUEI;Q7 GUAN;P84 NGEN;O057 NGON;O177 NGUAN;O068 PI;
P99 PA;P50 PU;P81 PEE;P51 PE;O102 POO;O066 PO;O145 MBI;O062 MBA;O122 MBU;O047 MBEE;O188 MBEE;O072 MBE;O172 MBOO;Q4 MBO;
P87 MBUU;P61 LONG MBE;P05 LONG MBOO;P42 LONG MBO;P32 KPI;O092 KPA;P74 KPU;P44 KPEE;O108 KPE;P12 KPOO;P58 KPO;P24 GBI;
O056 GBA;O148 GBU;O093 GBEE;O107 GBE;O071 GBOO;Q0 GBO;O171 RA;P23 NDI;Q9 NDA;Q5 NDU;P91 NDEE;P19 NDE;O067 NDOO;Q4 NDO;
O152 NJA;P92 NJU;P49 NJEE;P34 NJOO;P82 VI;Q5 VA;P51 VU;P73 VEE;O085 VE;O144 VOO;O077 VO;O164 NYIN;O058 NYAN;O170 NYUN;
O098 NYEN;P60 NYON;@1E8C7;EDIGIT ONE;KTWO;LHREE;KFOUR;LIVE;KSIX;LEVEN;KEIGHT;KNINE;ECOMBINING NUMBER TEENS;XNS;
VHUNDREDS;VTHOUSANDS;WEN THOUSANDS;VHUNDRED THOUSANDS;VMILLIONS;@1E900;0ADLAM CAPITAL LETTER ALIF;LDAALI;LLAAM;LMIIM;
LBA;LSINNYIIYHE;LPE;LBHE;LRA;LE;LFA;LI;LO;LDHA;LYHE;LWAW;LNUN;LKAF;LYA;LU;LJIIM;LCHI;LHA;LQAAF;LGA;LNYA;LTU;LNHA;LVA;
LKHA;LGBE;LZAL;LKPO;LSHA;6SMALL LETTER ALIF;JDAALI;JLAAM;JMIIM;JBA;JSINNYIIYHE;JPE;JBHE;JRA;JE;JFA;JI;JO;JDHA;JYHE;
JWAW;JNUN;JKAF;JYA;JU;JJIIM;JCHI;JHA;JQAAF;JGA;JNYA;JTU;JNHA;JVA;JKHA;JGBE;JZAL;JKPO;JSHA;6ALIF LENGTHENER;
6VOWEL LENGTHENER;6GEMINATION MARK;6HAMZA;6CONSONANT MODIFIER;6GEMINATE CONSONANT MODIFIER;6NUKTA;7ASALIZATION MARK;
@1E950;6DIGIT ZERO;CONE;CTWO;DHREE;CFOUR;DIVE;CSIX;DEVEN;CEIGHT;CNINE;@1E95E;6INITIAL EXCLAMATION MARK;EQUESTION MARK;
@1EC71;0INDIC SIYAQ NUMBER ONE;JTWO;KHREE;JFOUR;KIVE;JSIX;KEVEN;JEIGHT;JNINE;JTEN;KWENTY;KHIRTY;JFORTY;KIFTY;JSIXTY;
KEVENTY;JEIGHTY;JNINETY;JONE HUNDRED;JTWO HUNDRED;KHREE HUNDRED;JFOUR HUNDRED;KIVE HUNDRED;JSIX HUNDRED;KEVEN HUNDRED;
JEIGHT HUNDRED;JNINE HUNDRED;JONE THOUSAND;JTWO THOUSAND;KHREE THOUSAND;JFOUR THOUSAND;KIVE THOUSAND;JSIX THOUSAND;
KEVEN THOUSAND;JEIGHT THOUSAND;JNINE THOUSAND;JTEN THOUSAND;KWENTY THOUSAND;KHIRTY THOUSAND;JFORTY THOUSAND;
KIFTY THOUSAND;JSIXTY THOUSAND;KEVENTY THOUSAND;JEIGHTY THOUSAND;JNINETY THOUSAND;JLAKH;NAN;CLAKH MARK;CNUMBER KAROR;
OAN;JPREFIXED ONE;STWO;THREE;SFOUR;TIVE;SSIX;TEVEN;SEIGHT;SNINE;CPLACEHOLDER;CFRACTION ONE QUARTER;PHALF;
LTHREE QUARTERS;CRUPEE MARK;CNUMBER ALTERNATE ONE;TTWO;UEN THOUSAND;CALTERNATE LAKH MARK;@1ED01;
0OTTOMAN SIYAQ NUMBER ONE;LTWO;MHREE;LFOUR;MIVE;LSIX;MEVEN;LEIGHT;LNINE;LTEN;MWENTY;MHIRTY;LFORTY;MIFTY;LSIXTY;MEVENTY;
LEIGHTY;LNINETY;LONE HUNDRED;LTWO HUNDRED;MHREE HUNDRED;LFOUR HUNDRED;MIVE HUNDRED;LSIX HUNDRED;MEVEN HUNDRED;
LEIGHT HUNDRED;LNINE HUNDRED;LONE THOUSAND;LTWO THOUSAND;MHREE THOUSAND;LFOUR THOUSAND;MIVE THOUSAND;LSIX THOUSAND;
MEVEN THOUSAND;LEIGHT THOUSAND;LNINE THOUSAND;LTEN THOUSAND;MWENTY THOUSAND;MHIRTY THOUSAND;LFORTY THOUSAND;
MIFTY THOUSAND;LSIXTY THOUSAND;MEVENTY THOUSAND;LEIGHTY THOUSAND;LNINETY THOUSAND;EMARRATAN;EALTERNATE NUMBER TWO;
WHREE;VFOUR;WIVE;VSIX;WEVEN;VEIGHT;VNINE;VTEN;VFOUR HUNDRED;VSIX HUNDRED;VTWO THOUSAND;WEN THOUSAND;EFRACTION ONE HALF;
RSIXTH;@1EE00;0ARABIC MATHEMATICAL ALEF;KBEH;KJEEM;KDAL;@1EE05;KWAW;KZAIN;KHAH;KTAH;KYEH;KKAF;KLAM;KMEEM;KNOON;KSEEN;
KAIN;KFEH;KSAD;KQAF;KREH;KSHEEN;KTEH;LHEH;KKHAH;KTHAL;KDAD;KZAH;KGHAIN;KDOTLESS BEH;SNOON;SFEH;SQAF;@1EE21;
KINITIAL BEH;SJEEM;@1EE24;SHEH;@1EE27;TAH;@1EE29;SYEH;SKAF;SLAM;SMEEM;SNOON;SSEEN;SAIN;SFEH;SSAD;SQAF;@1EE34;SSHEEN;
STEH;THEH;SKHAH;@1EE39;SDAD;@1EE3B;SGHAIN;@1EE42;KTAILED JEEM;@1EE47;RHAH;@1EE49;RYEH;@1EE4B;RLAM;@1EE4D;RNOON;RSEEN;
RAIN;@1EE51;RSAD;RQAF;@1EE54;RSHEEN;@1EE57;RKHAH;@1EE59;RDAD;@1EE5B;RGHAIN;@1EE5D;RDOTLESS NOON;@1EE5F;ZQAF;@1EE61;
KSTRETCHED BEH;UJEEM;@1EE64;UHEH;@1EE67;VAH;UTAH;UYEH;UKAF;@1EE6C;UMEEM;UNOON;USEEN;UAIN;UFEH;USAD;UQAF;@1EE74;USHEEN;
UTEH;VHEH;UKHAH;@1EE79;UDAD;UZAH;UGHAIN;UDOTLESS BEH;@1EE7E;cFEH;@1EE80;KLOOPED ALEF;RBEH;RJEEM;RDAL;RHEH;RWAW;RZAIN;
RHAH;RTAH;RYEH;@1EE8B;RLAM;RMEEM;RNOON;RSEEN;RAIN;RFEH;RSAD;RQAF;RREH;RSHEEN;RTEH;SHEH;RKHAH;RTHAL;RDAD;RZAH;RGHAIN;
@1EEA1;KDOUBLE-STRUCK BEH;YJEEM;YDAL;@1EEA5;YWAW;YZAIN;YHAH;YTAH;YYEH;@1EEAB;YLAM;YMEEM;YNOON;YSEEN;YAIN;YFEH;YSAD;
YQAF;YREH;YSHEEN;YTEH;ZHEH;YKHAH;YTHAL;YDAD;YZAH;YGHAIN;@1EEF0;KOPERATOR MEEM WITH HAH WITH TATWEEL;THAH WITH DAL;
@1F000;0MAHJONG TILE EAST WIND;DSOUTH WIND;DWEST WIND;DNORTH WIND;DRED DRAGON;DGREEN DRAGON;DWHITE DRAGON;
DONE OF CHARACTERS;DTWO OF CHARACTERS;EHREE OF CHARACTERS;DFOUR OF CHARACTERS;EIVE OF CHARACTERS;DSIX OF CHARACTERS;
EEVEN OF CHARACTERS;DEIGHT OF CHARACTERS;DNINE OF CHARACTERS;DONE OF BAMBOOS;DTWO OF BAMBOOS;EHREE OF BAMBOOS;
DFOUR OF BAMBOOS;EIVE OF BAMBOOS;DSIX OF BAMBOOS;EEVEN OF BAMBOOS;DEIGHT OF BAMBOOS;DNINE OF BAMBOOS;DONE OF CIRCLES;
DTWO OF CIRCLES;EHREE OF CIRCLES;DFOUR OF CIRCLES;EIVE OF CIRCLES;DSIX OF CIRCLES;EEVEN OF CIRCLES;DEIGHT OF CIRCLES;
DNINE OF CIRCLES;DPLUM;DORCHID;DBAMBOO;DCHRYSANTHEMUM;DSPRING;EUMMER;DAUTUMN;DWINTER;DJOKER;DBACK;@1F030;
0DOMINO TILE HORIZONTAL BACK;M-00-00;R1;R2;R3;R4;R5;R6;O1-00;R1;R2;R3;R4;R5;R6;O2-00;R1;R2;R3;R4;R5;R6;O3-00;R1;R2;R3;
R4;R5;R6;O4-00;R1;R2;R3;R4;R5;R6;O5-00;R1;R2;R3;R4;R5;R6;O6-00;R1;R2;R3;R4;R5;R6;CVERTICAL BACK;K-00-00;P1;P2;P3;P4;P5;
P6;M1-00;P1;P2;P3;P4;P5;P6;M2-00;P1;P2;P3;P4;P5;P6;M3-00;P1;P2;P3;P4;P5;P6;M4-00;P1;P2;P3;P4;P5;P6;M5-00;P1;P2;P3;P4;
P5;P6;M6-00;P1;P2;P3;P4;P5;P6;@1F0A0;0PLAYING CARD BACK;DACE OF SPADES;DTWO OF SPADES;EHREE OF SPADES;DFOUR OF SPADES;
EIVE OF SPADES;DSIX OF SPADES;EEVEN OF SPADES;DEIGHT OF SPADES;DNINE OF SPADES;DTEN OF SPADES;DJACK OF SPADES;
DKNIGHT OF SPADES;DQUEEN OF SPADES;DKING OF SPADES;@1F0B1;DACE OF HEARTS;DTWO OF HEARTS;EHREE OF HEARTS;
DFOUR OF HEARTS;EIVE OF HEARTS;DSIX OF HEARTS;EEVEN OF HEARTS;DEIGHT OF HEARTS;DNINE OF HEARTS;DTEN OF HEARTS;
DJACK OF HEARTS;DKNIGHT OF HEARTS;DQUEEN OF HEARTS;DKING OF HEARTS;DRED JOKER;@1F0C1;DACE OF DIAMONDS;DTWO OF DIAMONDS;
EHREE OF DIAMONDS;DFOUR OF DIAMONDS;EIVE OF DIAMONDS;DSIX OF DIAMONDS;EEVEN OF DIAMONDS;DEIGHT OF DIAMONDS;
DNINE OF DIAMONDS;DTEN OF DIAMONDS;DJACK OF DIAMONDS;DKNIGHT OF DIAMONDS;DQUEEN OF DIAMONDS;DKING OF DIAMONDS;
DBLACK JOKER;@1F0D1;DACE OF CLUBS;DTWO OF CLUBS;EHREE OF CLUBS;DFOUR OF CLUBS;EIVE OF CLUBS;DSIX OF CLUBS;
EEVEN OF CLUBS;DEIGHT OF CLUBS;DNINE OF CLUBS;DTEN OF CLUBS;DJACK OF CLUBS;DKNIGHT OF CLUBS;DQUEEN OF CLUBS;
DKING OF CLUBS;DWHITE JOKER;DFOOL;DTRUMP-1;J2;J3;J4;J5;J6;J7;J8;J9;J10;K1;K2;K3;K4;K5;K6;K7;K8;K9;J20;K1;@1F100;
0DIGIT ZERO FULL STOP;BCOMMA;6ONE COMMA;6TWO COMMA;7HREE COMMA;6FOUR COMMA;7IVE COMMA;6SIX COMMA;7EVEN COMMA;
6EIGHT COMMA;6NINE COMMA;2NGBAT CIRCLED SANS-SERIF DIGIT ZERO;8NEGATIVE CIRCLED SANS-SERIF DIGIT ZERO;
0CIRCLED ZERO WITH SLASH;8ANTICLOCKWISE ARROW;8DOLLAR SIGN WITH OVERLAID BACKSLASH;
0PARENTHESIZED LATIN CAPITAL LETTER A;ZB;ZC;ZD;ZE;ZF;ZG;ZH;ZI;ZJ;ZK;ZL;ZM;ZN;ZO;ZP;ZQ;ZR;ZS;ZT;ZU;ZV;ZW;ZX;ZY;ZZ;
0TORTOISE SHELL BRACKETED LATIN CAPITAL LETTER S;0CIRCLED ITALIC LATIN CAPITAL LETTER C;aR;8CD;8WZ;1OPYLEFT SYMBOL;
0SQUARED LATIN CAPITAL LETTER A;TB;TC;TD;TE;TF;TG;TH;TI;TJ;TK;TL;TM;TN;TO;TP;TQ;TR;TS;TT;TU;TV;TW;TX;TY;TZ;8HV;8MV;8SD;
9S;8PPV;8WC;0NEGATIVE CIRCLED LATIN CAPITAL LETTER A;cB;cC;cD;cE;cF;cG;cH;cI;cJ;cK;cL;cM;cN;cO;cP;cQ;cR;cS;cT;cU;cV;cW;
cX;cY;cZ;0RAISED MC SIGN;8D SIGN;8R SIGN;0CIRCLED CC;9 WITH OVERLAID BACKSLASH;8HUMAN FIGURE;
0NEGATIVE SQUARED LATIN CAPITAL LETTER A;cB;cC;cD;cE;cF;cG;cH;cI;cJ;cK;cL;cM;cN;cO;cP;cQ;cR;cS;cT;cU;cV;cW;cX;cY;cZ;
0CROSSED NEGATIVE SQUARED LATIN CAPITAL LETTER P;0NEGATIVE SQUARED IC;HPA;HSA;HAB;HWC;0SQUARE DJ;6D CL;9OOL;8FREE;8ID;
8NEW;9G;8OK;8SOS;8UP WITH EXCLAMATION MARK;8VS;8THREE D;8SECOND SCREEN;8TWO K;8FOUR K;8EIGHT K;8FIVE POINT ONE;
8SEVEN POINT ONE;8TWENTY-TWO POINT TWO;8SIXTY P;8ONE HUNDRED TWENTY P;8LATIN SMALL LETTER D;8HC;9DR;9I-RES;8LOSSLESS;
8SHV;8UHD;8VOD;0MASK WORK SYMBOL;@1F1E6;0REGIONAL INDICATOR SYMBOL LETTER A;XB;XC;XD;XE;XF;XG;XH;XI;XJ;XK;XL;XM;XN;XO;
XP;XQ;XR;XS;XT;XU;XV;XW;XX;XY;XZ;0SQUARE HIRAGANA HOKA;6D KATAKANA KOKO;HSA;@1F210;8CJK UNIFIED IDEOGRAPH-624B;U5B57;
V3CC;8KATAKANA DE;8CJK UNIFIED IDEOGRAPH-4E8C;U591A;U89E3;U5929;U4EA4;U6620;U7121;U6599;U524D;VF8C;V18D;U65B0;U521D;
U7D42;V51F;U8CA9;U58F0;V439;U6F14;V295;V355;U4E00;X9;U904A;U5DE6;U4E2D;U53F3;U6307;U8D70;U6253;U7981;VA7A;U5408;U6E80;
V709;X8;U7533;U5272;V5B6;U914D;@1F240;0TORTOISE SHELL BRACKETED CJK UNIFIED IDEOGRAPH-672C;l4E09;n8C;l5B89;l70B9;l6253;
l76D7;l52DD;l6557;@1F250;0CIRCLED IDEOGRAPH ADVANTAGE;JCCEPT;@1F260;0ROUNDED SYMBOL FOR FU;JLU;JSHOU;JXI;JSHUANGXI;
JCAI;@1F300;0CYCLONE;0FOGGY;0CLOSED UMBRELLA;0NIGHT WITH STARS;0SUNRISE OVER MOUNTAINS;7;0CITYSCAPE AT DUSK;
0SUNSET OVER BUILDINGS;0RAINBOW;0BRIDGE AT NIGHT;0WATER WAVE;0VOLCANO;0MILKY WAY;0EARTH GLOBE EUROPE-AFRICA;CAMERICAS;
DSIA-AUSTRALIA;0GLOBE WITH MERIDIANS;0NEW MOON SYMBOL;0WAXING CRESCENT MOON SYMBOL;0FIRST QUARTER MOON SYMBOL;
0WAXING GIBBOUS MOON SYMBOL;0FULL MOON SYMBOL;0WANING GIBBOUS MOON SYMBOL;0LAST QUARTER MOON SYMBOL;
0WANING CRESCENT MOON SYMBOL;0CRESCENT MOON;0NEW MOON WITH FACE;0FIRST QUARTER MOON WITH FACE;
0LAST QUARTER MOON WITH FACE;0FULL MOON WITH FACE;0SUN WITH FACE;0GLOWING STAR;0SHOOTING STAR;0THERMOMETER;
0BLACK DROPLET;0WHITE SUN;9 WITH SMALL CLOUD;ABEHIND CLOUD;M WITH RAIN;0CLOUD WITH RAIN;BSNOW;BLIGHTNING;BTORNADO;0FOG;
0WIND BLOWING FACE;0HOT DOG;0TACO;0BURRITO;0CHESTNUT;0SEEDLING;0EVERGREEN TREE;0DECIDUOUS TREE;0PALM TREE;0CACTUS;
0HOT PEPPER;0TULIP;0CHERRY BLOSSOM;0ROSE;0HIBISCUS;0SUNFLOWER;0BLOSSOM;0EAR OF MAIZE;7RICE;0HERB;0FOUR LEAF CLOVER;
0MAPLE LEAF;0FALLEN LEAF;0LEAF FLUTTERING IN WIND;0MUSHROOM;0TOMATO;0AUBERGINE;0GRAPES;0MELON;0WATERMELON;0TANGERINE;
0LEMON;0BANANA;0PINEAPPLE;0RED APPLE;0GREEN APPLE;0PEAR;3CH;0CHERRIES;0STRAWBERRY;0HAMBURGER;0SLICE OF PIZZA;
0MEAT ON BONE;0POULTRY LEG;0RICE CRACKER;5BALL;0COOKED RICE;1URRY AND RICE;0STEAMING BOWL;1PAGHETTI;0BREAD;
0FRENCH FRIES;0ROASTED SWEET POTATO;0DANGO;0ODEN;0SUSHI;0FRIED SHRIMP;1ISH CAKE WITH SWIRL DESIGN;0SOFT ICE CREAM;
1HAVED ICE;0ICE CREAM;0DOUGHNUT;0COOKIE;1HOCOLATE BAR;1ANDY;0LOLLIPOP;0CUSTARD;0HONEY POT;0SHORTCAKE;0BENTO BOX;
0POT OF FOOD;0COOKING;0FORK AND KNIFE;0TEACUP WITHOUT HANDLE;0SAKE BOTTLE AND CUP;0WINE GLASS;0COCKTAIL GLASS;
0TROPICAL DRINK;0BEER MUG;0CLINKING BEER MUGS;0BABY BOTTLE;0FORK AND KNIFE WITH PLATE;0BOTTLE WITH POPPING CORK;
0POPCORN;0RIBBON;0WRAPPED PRESENT;0BIRTHDAY CAKE;0JACK-O-LANTERN;0CHRISTMAS TREE;0FATHER CHRISTMAS;1IREWORKS;
8 SPARKLER;0BALLOON;0PARTY POPPER;0CONFETTI BALL;0TANABATA TREE;0CROSSED FLAGS;0PINE DECORATION;0JAPANESE DOLLS;
0CARP STREAMER;0WIND CHIME;0MOON VIEWING CEREMONY;0SCHOOL SATCHEL;0GRADUATION CAP;0HEART WITH TIP ON THE LEFT;
0BOUQUET OF FLOWERS;0MILITARY MEDAL;0REMINDER RIBBON;0MUSICAL KEYBOARD WITH JACKS;0STUDIO MICROPHONE;0LEVEL SLIDER;
0CONTROL KNOBS;0BEAMED ASCENDING MUSICAL NOTES;7DESCENDING MUSICAL NOTES;0FILM FRAMES;0ADMISSION TICKETS;
0CAROUSEL HORSE;0FERRIS WHEEL;0ROLLER COASTER;0FISHING POLE AND FISH;0MICROPHONE;1OVIE CAMERA;0CINEMA;0HEADPHONE;
0ARTIST PALETTE;0TOP HAT;0CIRCUS TENT;0TICKET;0CLAPPER BOARD;0PERFORMING ARTS;0VIDEO GAME;0DIRECT HIT;0SLOT MACHINE;
0BILLIARDS;0GAME DIE;0BOWLING;0FLOWER PLAYING CARDS;0MUSICAL NOTE;2LTIPLE MUSICAL NOTES;0SAXOPHONE;0GUITAR;
0MUSICAL KEYBOARD;0TRUMPET;0VIOLIN;0MUSICAL SCORE;0RUNNING SHIRT WITH SASH;0TENNIS RACQUET AND BALL;0SKI AND SKI BOOT;
0BASKETBALL AND HOOP;0CHEQUERED FLAG;0SNOWBOARDER;0RUNNER;0SURFER;1PORTS MEDAL;0TROPHY;0HORSE RACING;
0AMERICAN FOOTBALL;0RUGBY FOOTBALL;0SWIMMER;0WEIGHT LIFTER;0GOLFER;0RACING MOTORCYCLE;7CAR;0CRICKET BAT AND BALL;
0VOLLEYBALL;0FIELD HOCKEY STICK AND BALL;0ICE HOCKEY STICK AND PUCK;0TABLE TENNIS PADDLE AND BALL;
0SNOW CAPPED MOUNTAIN;0CAMPING;0BEACH WITH UMBRELLA;1UILDING CONSTRUCTION;0HOUSE BUILDINGS;0CITYSCAPE;
0DERELICT HOUSE BUILDING;0CLASSICAL BUILDING;0DESERT;6 ISLAND;0NATIONAL PARK;0STADIUM;0HOUSE BUILDING;6WITH GARDEN;
0OFFICE BUILDING;0JAPANESE POST OFFICE;0EUROPEAN POST OFFICE;0HOSPITAL;0BANK;0AUTOMATED TELLER MACHINE;0HOTEL;
0LOVE HOTEL;0CONVENIENCE STORE;0SCHOOL;0DEPARTMENT STORE;0FACTORY;0IZAKAYA LANTERN;0JAPANESE CASTLE;0EUROPEAN CASTLE;
0WHITE PENNANT;0BLACK PENNANT;0WAVING WHITE FLAG;7BLACK FLAG;0ROSETTE;0BLACK ROSETTE;0LABEL;
0BADMINTON RACQUET AND SHUTTLECOCK;1OW AND ARROW;0AMPHORA;0EMOJI MODIFIER FITZPATRICK TYPE-1-2;W3;W4;W5;W6;0RAT;0MOUSE;
0OX;0WATER BUFFALO;0COW;0TIGER;0LEOPARD;0RABBIT;0CAT;0DRAGON;0CROCODILE;0WHALE;0SNAIL;3KE;0HORSE;0RAM;0GOAT;0SHEEP;
0MONKEY;0ROOSTER;0CHICKEN;0DOG;0PIG;0BOAR;0ELEPHANT;0OCTOPUS;0SPIRAL SHELL;0BUG;0ANT;0HONEYBEE;0LADY BEETLE;0FISH;
0TROPICAL FISH;0BLOWFISH;0TURTLE;0HATCHING CHICK;0BABY CHICK;0FRONT-FACING BABY CHICK;0BIRD;0PENGUIN;0KOALA;0POODLE;
0DROMEDARY CAMEL;0BACTRIAN CAMEL;0DOLPHIN;0MOUSE FACE;0COW FACE;0TIGER FACE;0RABBIT FACE;0CAT FACE;0DRAGON FACE;
0SPOUTING WHALE;0HORSE FACE;0MONKEY FACE;0DOG FACE;0PIG FACE;0FROG FACE;0HAMSTER FACE;0WOLF FACE;0BEAR FACE;
0PANDA FACE;1IG NOSE;1AW PRINTS;0CHIPMUNK;0EYES;3;1AR;0NOSE;0MOUTH;0TONGUE;0WHITE UP POINTING BACKHAND INDEX;
6DOWN POINTING BACKHAND INDEX;6LEFT POINTING BACKHAND INDEX;6RIGHT POINTING BACKHAND INDEX;0FISTED HAND SIGN;
0WAVING HAND SIGN;0OK HAND SIGN;0THUMBS UP SIGN;7DOWN SIGN;0CLAPPING HANDS SIGN;0OPEN HANDS SIGN;0CROWN;0WOMANS HAT;
0EYEGLASSES;0NECKTIE;0T-SHIRT;0JEANS;0DRESS;0KIMONO;0BIKINI;0WOMANS CLOTHES;0PURSE;0HANDBAG;0POUCH;0MANS SHOE;
0ATHLETIC SHOE;0HIGH-HEELED SHOE;0WOMANS SANDAL;7BOOTS;0FOOTPRINTS;0BUST IN SILHOUETTE;4S IN SILHOUETTE;1OY;0GIRL;0MAN;
0WOMAN;0FAMILY;0MAN AND WOMAN HOLDING HANDS;0TWO MEN HOLDING HANDS;4WOMEN HOLDING HANDS;0POLICE OFFICER;
0WOMAN WITH BUNNY EARS;0BRIDE WITH VEIL;0PERSON WITH BLOND HAIR;0MAN WITH GUA PI MAO;9TURBAN;0OLDER MAN;6WOMAN;0BABY;
0CONSTRUCTION WORKER;0PRINCESS;0JAPANESE OGRE;9GOBLIN;0GHOST;0BABY ANGEL;0EXTRATERRESTRIAL ALIEN;0ALIEN MONSTER;0IMP;
0SKULL;0INFORMATION DESK PERSON;0GUARDSMAN;0DANCER;0LIPSTICK;0NAIL POLISH;0FACE MASSAGE;0HAIRCUT;0BARBER POLE;0SYRINGE;
0PILL;0KISS MARK;0LOVE LETTER;0RING;0GEM STONE;0KISS;0BOUQUET;0COUPLE WITH HEART;0WEDDING;0BEATING HEART;1ROKEN HEART;
0TWO HEARTS;0SPARKLING HEART;0GROWING HEART;0HEART WITH ARROW;0BLUE HEART;0GREEN HEART;0YELLOW HEART;0PURPLE HEART;
0HEART WITH RIBBON;0REVOLVING HEARTS;0HEART DECORATION;0DIAMOND SHAPE WITH A DOT INSIDE;0ELECTRIC LIGHT BULB;
0ANGER SYMBOL;0BOMB;0SLEEPING SYMBOL;0COLLISION SYMBOL;0SPLASHING SWEAT SYMBOL;0DROPLET;1ASH SYMBOL;0PILE OF POO;
0FLEXED BICEPS;0DIZZY SYMBOL;0SPEECH BALLOON;0THOUGHT BALLOON;0WHITE FLOWER;0HUNDRED POINTS SYMBOL;0MONEY BAG;
0CURRENCY EXCHANGE;0HEAVY DOLLAR SIGN;0CREDIT CARD;0BANKNOTE WITH YEN SIGN;EDOLLAR SIGN;EEURO SIGN;EPOUND SIGN;
0MONEY WITH WINGS;0CHART WITH UPWARDS TREND AND YEN SIGN;0SEAT;0PERSONAL COMPUTER;0BRIEFCASE;0MINIDISC;0FLOPPY DISK;
0OPTICAL DISC;0DVD;0FILE FOLDER;0OPEN FILE FOLDER;0PAGE WITH CURL;5FACING UP;0CALENDAR;0TEAR-OFF CALENDAR;0CARD INDEX;
1HART WITH UPWARDS TREND;BDOWNWARDS TREND;0BAR CHART;0CLIPBOARD;0PUSHPIN;0ROUND PUSHPIN;0PAPERCLIP;0STRAIGHT RULER;
0TRIANGULAR RULER;0BOOKMARK TABS;0LEDGER;0NOTEBOOK;8 WITH DECORATIVE COVER;0CLOSED BOOK;0OPEN BOOK;0GREEN BOOK;
0BLUE BOOK;0ORANGE BOOK;0BOOKS;0NAME BADGE;0SCROLL;0MEMO;0TELEPHONE RECEIVER;0PAGER;0FAX MACHINE;0SATELLITE ANTENNA;
0PUBLIC ADDRESS LOUDSPEAKER;0CHEERING MEGAPHONE;0OUTBOX TRAY;0INBOX TRAY;0PACKAGE;0E-MAIL SYMBOL;0INCOMING ENVELOPE;
0ENVELOPE WITH DOWNWARDS ARROW ABOVE;0CLOSED MAILBOX WITH LOWERED FLAG;KRAISED FLAG;0OPEN MAILBOX WITH RAISED FLAG;
ILOWERED FLAG;0POSTBOX;4AL HORN;0NEWSPAPER;0MOBILE PHONE;C WITH RIGHTWARDS ARROW AT LEFT;0VIBRATION MODE;
0MOBILE PHONE OFF;0NO MOBILE PHONES;0ANTENNA WITH BARS;0CAMERA;6 WITH FLASH;0VIDEO CAMERA;0TELEVISION;0RADIO;
0VIDEOCASSETTE;0FILM PROJECTOR;0PORTABLE STEREO;1RAYER BEADS;0TWISTED RIGHTWARDS ARROWS;
0CLOCKWISE RIGHTWARDS AND LEFTWARDS OPEN CIRCLE ARROWS;r WITH CIRCLED ONE OVERLAY;
ADOWNWARDS AND UPWARDS OPEN CIRCLE ARROWS;0ANTICLOCKWISE DOWNWARDS AND UPWARDS OPEN CIRCLE ARROWS;
0LOW BRIGHTNESS SYMBOL;0HIGH BRIGHTNESS SYMBOL;0SPEAKER WITH CANCELLATION STROKE;7;7 WITH ONE SOUND WAVE;
DTHREE SOUND WAVES;0BATTERY;0ELECTRIC PLUG;0LEFT-POINTING MAGNIFYING GLASS;0RIGHT-POINTING MAGNIFYING GLASS;
0LOCK WITH INK PEN;0CLOSED LOCK WITH KEY;0KEY;0LOCK;0OPEN LOCK;0BELL;4 WITH CANCELLATION STROKE;1OOKMARK;0LINK SYMBOL;
0RADIO BUTTON;0BACK WITH LEFTWARDS ARROW ABOVE;0END WITH LEFTWARDS ARROW ABOVE;
0ON WITH EXCLAMATION MARK WITH LEFT RIGHT ARROW ABOVE;0SOON WITH RIGHTWARDS ARROW ABOVE;0TOP WITH UPWARDS ARROW ABOVE;
0NO ONE UNDER EIGHTEEN SYMBOL;0KEYCAP TEN;0INPUT SYMBOL FOR LATIN CAPITAL LETTERS;NSMALL LETTERS;HNUMBERS;HSYMBOLS;
HLATIN LETTERS;0FIRE;0ELECTRIC TORCH;0WRENCH;0HAMMER;0NUT AND BOLT;0HOCHO;0PISTOL;0MICROSCOPE;0TELESCOPE;0CRYSTAL BALL;
0SIX POINTED STAR WITH MIDDLE DOT;0JAPANESE SYMBOL FOR BEGINNER;0TRIDENT EMBLEM;0BLACK SQUARE BUTTON;
0WHITE SQUARE BUTTON;0LARGE RED CIRCLE;6BLUE CIRCLE;6ORANGE DIAMOND;6BLUE DIAMOND;0SMALL ORANGE DIAMOND;6BLUE DIAMOND;
0UP-POINTING RED TRIANGLE;0DOWN-POINTING RED TRIANGLE;0UP-POINTING SMALL RED TRIANGLE;
0DOWN-POINTING SMALL RED TRIANGLE;0LOWER RIGHT SHADOWED WHITE CIRCLE;0UPPER RIGHT SHADOWED WHITE CIRCLE;
0CIRCLED CROSS POMMEE;1ROSS POMMEE WITH HALF-CIRCLE BELOW;C;0NOTCHED LEFT SEMICIRCLE WITH THREE DOTS;
8RIGHT SEMICIRCLE WITH THREE DOTS;0SYMBOL FOR MARKS CHAPTER;0WHITE LATIN CROSS;0HEAVY LATIN CROSS;0CELTIC CROSS;
0OM SYMBOL;0DOVE OF PEACE;0KAABA;0MOSQUE;0SYNAGOGUE;0MENORAH WITH NINE BRANCHES;0BOWL OF HYGIEIA;
0CLOCK FACE ONE OCLOCK;BTWO OCLOCK;CHREE OCLOCK;BFOUR OCLOCK;CIVE OCLOCK;BSIX OCLOCK;CEVEN OCLOCK;BEIGHT OCLOCK;
BNINE OCLOCK;BTEN OCLOCK;BELEVEN OCLOCK;BTWELVE OCLOCK;BONE-THIRTY;BTWO-THIRTY;CHREE-THIRTY;BFOUR-THIRTY;CIVE-THIRTY;
BSIX-THIRTY;CEVEN-THIRTY;BEIGHT-THIRTY;BNINE-THIRTY;BTEN-THIRTY;BELEVEN-THIRTY;BTWELVE-THIRTY;0RIGHT SPEAKER;
D WITH ONE SOUND WAVE;JTHREE SOUND WAVES;0BULLHORN;8 WITH SOUND WAVES;0RINGING BELL;0BOOK;0CANDLE;0MANTELPIECE CLOCK;
0BLACK SKULL AND CROSSBONES;0NO PIRACY;0HOLE;0MAN IN BUSINESS SUIT LEVITATING;0SLEUTH OR SPY;0DARK SUNGLASSES;0SPIDER;
6 WEB;0JOYSTICK;0MAN DANCING;0LEFT HAND TELEPHONE RECEIVER;0TELEPHONE RECEIVER WITH PAGE;
0RIGHT HAND TELEPHONE RECEIVER;0WHITE TOUCHTONE TELEPHONE;0BLACK TOUCHTONE TELEPHONE;0TELEPHONE ON TOP OF MODEM;
0CLAMSHELL MOBILE PHONE;0BACK OF ENVELOPE;0STAMPED ENVELOPE;0ENVELOPE WITH LIGHTNING;0FLYING ENVELOPE;
0PEN OVER STAMPED ENVELOPE;0LINKED PAPERCLIPS;0BLACK PUSHPIN;0LOWER LEFT PENCIL;BBALLPOINT PEN;BFOUNTAIN PEN;
BPAINTBRUSH;BCRAYON;1EFT WRITING HAND;0TURNED OK HAND SIGN;0RAISED HAND WITH FINGERS SPLAYED;
1EVERSED RAISED HAND WITH FINGERS SPLAYED;9THUMBS UP SIGN;GDOWN SIGN;9VICTORY HAND;9HAND WITH MIDDLE FINGER EXTENDED;
1AISED HAND WITH PART BETWEEN MIDDLE AND RING FINGERS;0WHITE DOWN POINTING LEFT HAND INDEX;
0SIDEWAYS WHITE LEFT POINTING INDEX;FRIGHT POINTING INDEX;9BLACK LEFT POINTING INDEX;FRIGHT POINTING INDEX;
0BLACK LEFT POINTING BACKHAND INDEX;6RIGHT POINTING BACKHAND INDEX;0SIDEWAYS WHITE UP POINTING INDEX;
FDOWN POINTING INDEX;9BLACK UP POINTING INDEX;FDOWN POINTING INDEX;0BLACK UP POINTING BACKHAND INDEX;
6DOWN POINTING BACKHAND INDEX;6HEART;0DESKTOP COMPUTER;0KEYBOARD AND MOUSE;0THREE NETWORKED COMPUTERS;0PRINTER;
1OCKET CALCULATOR;0BLACK HARD SHELL FLOPPY DISK;0WHITE HARD SHELL FLOPPY DISK;0SOFT SHELL FLOPPY DISK;0TAPE CARTRIDGE;
0WIRED KEYBOARD;0ONE BUTTON MOUSE;0TWO BUTTON MOUSE;1HREE BUTTON MOUSE;1RACKBALL;0OLD PERSONAL COMPUTER;0HARD DISK;
0SCREEN;0PRINTER ICON;0FAX ICON;0OPTICAL DISC ICON;0DOCUMENT WITH TEXT;I AND PICTURE;EPICTURE;0FRAME WITH PICTURE;
BTILES;BAN X;0BLACK FOLDER;0FOLDER;0OPEN FOLDER;0CARD INDEX DIVIDERS;5FILE BOX;0FILE CABINET;0EMPTY NOTE;A PAGE;DD;
0NOTE;4 PAGE;7D;0EMPTY DOCUMENT;6PAGE;AS;0DOCUMENT;0PAGE;4S;0WASTEBASKET;0SPIRAL NOTE PAD;7CALENDAR PAD;
0DESKTOP WINDOW;0MINIMIZE;1AXIMIZE;0OVERLAP;0CLOCKWISE RIGHT AND LEFT SEMICIRCLE ARROWS;1ANCELLATION X;
0INCREASE FONT SIZE SYMBOL;0DECREASE FONT SIZE SYMBOL;0COMPRESSION;0OLD KEY;0ROLLED-UP NEWSPAPER;
0PAGE WITH CIRCLED TEXT;0STOCK CHART;0DAGGER KNIFE;0LIPS;0SPEAKING HEAD IN SILHOUETTE;0THREE RAYS ABOVE;BBELOW;BLEFT;
BRIGHT;0LEFT SPEECH BUBBLE;0RIGHT SPEECH BUBBLE;0TWO SPEECH BUBBLES;1HREE SPEECH BUBBLES;0LEFT THOUGHT BUBBLE;
0RIGHT THOUGHT BUBBLE;0LEFT ANGER BUBBLE;0RIGHT ANGER BUBBLE;0MOOD BUBBLE;0LIGHTNING MOOD BUBBLE;E;
0BALLOT BOX WITH BALLOT;7SCRIPT X;7BOX WITH SCRIPT X;9LD SCRIPT X;9X WITH BOLD SCRIPT X;0LIGHT CHECK MARK;
0BALLOT BOX WITH BOLD CHECK;0WORLD MAP;0MOUNT FUJI;0TOKYO TOWER;0STATUE OF LIBERTY;1ILHOUETTE OF JAPAN;0MOYAI;
0GRINNING FACE;D WITH SMILING EYES;0FACE WITH TEARS OF JOY;0SMILING FACE WITH OPEN MOUTH;S AND SMILING EYES;
XCOLD SWEAT;XTIGHTLY-CLOSED EYES;IHALO;JORNS;0WINKING FACE;0SMILING FACE WITH SMILING EYES;
0FACE SAVOURING DELICIOUS FOOD;0RELIEVED FACE;0SMILING FACE WITH HEART-SHAPED EYES;ISUNGLASSES;3RKING FACE;
0NEUTRAL FACE;0EXPRESSIONLESS FACE;0UNAMUSED FACE;0FACE WITH COLD SWEAT;0PENSIVE FACE;0CONFUSED FACE;4OUNDED FACE;
0KISSING FACE;0FACE THROWING A KISS;0KISSING FACE WITH SMILING EYES;ICLOSED EYES;0FACE WITH STUCK-OUT TONGUE;
Q AND WINKING EYE;VTIGHTLY-CLOSED EYES;0DISAPPOINTED FACE;0WORRIED FACE;0ANGRY FACE;0POUTING FACE;0CRYING FACE;
0PERSEVERING FACE;0FACE WITH LOOK OF TRIUMPH;0DISAPPOINTED BUT RELIEVED FACE;0FROWNING FACE WITH OPEN MOUTH;
0ANGUISHED FACE;0FEARFUL FACE;0WEARY FACE;0SLEEPY FACE;0TIRED FACE;0GRIMACING FACE;0LOUDLY CRYING FACE;
0FACE WITH OPEN MOUTH;0HUSHED FACE;0FACE WITH OPEN MOUTH AND COLD SWEAT;5SCREAMING IN FEAR;0ASTONISHED FACE;
0FLUSHED FACE;0SLEEPING FACE;0DIZZY FACE;0FACE WITHOUT MOUTH;9 MEDICAL MASK;0GRINNING CAT FACE WITH SMILING EYES;
0CAT FACE WITH TEARS OF JOY;0SMILING CAT FACE WITH OPEN MOUTH;MHEART-SHAPED EYES;0CAT FACE WITH WRY SMILE;
0KISSING CAT FACE WITH CLOSED EYES;0POUTING CAT FACE;0CRYING CAT FACE;0WEARY CAT FACE;0SLIGHTLY FROWNING FACE;
9SMILING FACE;0UPSIDE-DOWN FACE;0FACE WITH ROLLING EYES;ANO GOOD GESTURE;AOK GESTURE;0PERSON BOWING DEEPLY;
0SEE-NO-EVIL MONKEY;0HEAR-NO-EVIL MONKEY;0SPEAK-NO-EVIL MONKEY;0HAPPY PERSON RAISING ONE HAND;
0PERSON RAISING BOTH HANDS IN CELEBRATION;7FROWNING;7WITH POUTING FACE;CFOLDED HANDS;0NORTH WEST POINTING LEAF;
0SOUTH WEST POINTING LEAF;0NORTH EAST POINTING LEAF;0SOUTH EAST POINTING LEAF;0TURNED NORTH WEST POINTING LEAF;
7SOUTH WEST POINTING LEAF;7NORTH EAST POINTING LEAF;7SOUTH EAST POINTING LEAF;0NORTH WEST POINTING VINE LEAF;
0SOUTH WEST POINTING VINE LEAF;0NORTH EAST POINTING VINE LEAF;0SOUTH EAST POINTING VINE LEAF;
0HEAVY NORTH WEST POINTING VINE LEAF;6SOUTH WEST POINTING VINE LEAF;6NORTH EAST POINTING VINE LEAF;
6SOUTH EAST POINTING VINE LEAF;0NORTH WEST POINTING BUD;0SOUTH WEST POINTING BUD;0NORTH EAST POINTING BUD;
0SOUTH EAST POINTING BUD;0HEAVY NORTH WEST POINTING BUD;6SOUTH WEST POINTING BUD;6NORTH EAST POINTING BUD;
6SOUTH EAST POINTING BUD;1OLLOW QUILT SQUARE ORNAMENT;S IN BLACK SQUARE;0SOLID QUILT SQUARE ORNAMENT;R IN BLACK SQUARE;
0LEFTWARDS ROCKET;0UPWARDS ROCKET;0RIGHTWARDS ROCKET;0DOWNWARDS ROCKET;0SCRIPT LIGATURE ET ORNAMENT;
0HEAVY SCRIPT LIGATURE ET ORNAMENT;0LIGATURE OPEN ET ORNAMENT;0HEAVY LIGATURE OPEN ET ORNAMENT;6AMPERSAND ORNAMENT;
0SWASH AMPERSAND ORNAMENT;1ANS-SERIF HEAVY DOUBLE TURNED COMMA QUOTATION MARK ORNAMENT;OCOMMA QUOTATION MARK ORNAMENT;
HLOW DOUBLE COMMA QUOTATION MARK ORNAMENT;0HEAVY INTERROBANG ORNAMENT;0SANS-SERIF INTERROBANG ORNAMENT;
0HEAVY SANS-SERIF INTERROBANG ORNAMENT;0VERY HEAVY SOLIDUS;BREVERSE SOLIDUS;0CHECKER BOARD;0REVERSE CHECKER BOARD;
1OCKET;0HELICOPTER;0STEAM LOCOMOTIVE;0RAILWAY CAR;0HIGH-SPEED TRAIN;G WITH BULLET NOSE;0TRAIN;0METRO;0LIGHT RAIL;
0STATION;0TRAM;4 CAR;0BUS;0ONCOMING BUS;0TROLLEYBUS;0BUS STOP;0MINIBUS;0AMBULANCE;0FIRE ENGINE;0POLICE CAR;
0ONCOMING POLICE CAR;0TAXI;0ONCOMING TAXI;0AUTOMOBILE;0ONCOMING AUTOMOBILE;0RECREATIONAL VEHICLE;0DELIVERY TRUCK;
0ARTICULATED LORRY;0TRACTOR;0MONORAIL;2UNTAIN RAILWAY;0SUSPENSION RAILWAY;0MOUNTAIN CABLEWAY;0AERIAL TRAMWAY;0SHIP;
0ROWBOAT;0SPEEDBOAT;0HORIZONTAL TRAFFIC LIGHT;0VERTICAL TRAFFIC LIGHT;0CONSTRUCTION SIGN;0POLICE CARS REVOLVING LIGHT;
0TRIANGULAR FLAG ON POST;0DOOR;0NO ENTRY SIGN;0SMOKING SYMBOL;0NO SMOKING SYMBOL;0PUT LITTER IN ITS PLACE SYMBOL;
0DO NOT LITTER SYMBOL;0POTABLE WATER SYMBOL;0NON-POTABLE WATER SYMBOL;0BICYCLE;0NO BICYCLES;0BICYCLIST;
0MOUNTAIN BICYCLIST;0PEDESTRIAN;0NO PEDESTRIANS;0CHILDREN CROSSING;0MENS SYMBOL;0WOMENS SYMBOL;0RESTROOM;0BABY SYMBOL;
0TOILET;0WATER CLOSET;0SHOWER;0BATH;4TUB;0PASSPORT CONTROL;0CUSTOMS;0BAGGAGE CLAIM;0LEFT LUGGAGE;
0TRIANGLE WITH ROUNDED CORNERS;0PROHIBITED SIGN;0CIRCLED INFORMATION SOURCE;0BOYS SYMBOL;0GIRLS SYMBOL;0COUCH AND LAMP;
0SLEEPING ACCOMMODATION;1HOPPING BAGS;0BELLHOP BELL;2D;0PLACE OF WORSHIP;0OCTAGONAL SIGN;0SHOPPING TROLLEY;1TUPA;
0PAGODA;0HINDU TEMPLE;1UT;0ELEVATOR;@1F6DD;0PLAYGROUND SLIDE;0WHEEL;0RING BUOY;0HAMMER AND WRENCH;0SHIELD;0OIL DRUM;
0MOTORWAY;0RAILWAY TRACK;0MOTOR BOAT;0UP-POINTING MILITARY AIRPLANE;CAIRPLANE;CSMALL AIRPLANE;0SMALL AIRPLANE;
0NORTHEAST-POINTING AIRPLANE;0AIRPLANE DEPARTURE;9ARRIVING;@1F6F0;0SATELLITE;0ONCOMING FIRE ENGINE;0DIESEL LOCOMOTIVE;
0PASSENGER SHIP;0SCOOTER;0MOTOR SCOOTER;0CANOE;0SLED;0FLYING SAUCER;0SKATEBOARD;0AUTO RICKSHAW;0PICKUP TRUCK;
0ROLLER SKATE;@1F700;0ALCHEMICAL SYMBOL FOR QUINTESSENCE;MAIR;MFIRE;MEARTH;MWATER;MAQUAFORTIS;Q REGIA;W-2;RVITAE;W-2;
MVINEGAR;T-2;U3;MSULFUR;MPHILOSOPHERS SULFUR;MBLACK SULFUR;MMERCURY SUBLIMATE;d-2;e3;MCINNABAR;MSALT;MNITRE;MVITRIOL;
T-2;MROCK SALT;V-2;MGOLD;MSILVER;MIRON ORE;U-2;MCROCUS OF IRON;MREGULUS OF IRON;MCOPPER ORE;MIRON-COPPER ORE;
MSUBLIMATE OF COPPER;MCROCUS OF COPPER;c-2;NOPPER ANTIMONIATE;MSALT OF COPPER ANTIMONIATE;NUBLIMATE OF SALT OF COPPER;
MVERDIGRIS;MTIN ORE;MLEAD ORE;MANTIMONY ORE;MSUBLIMATE OF ANTIMONY;NALT OF ANTIMONY;NUBLIMATE OF SALT OF ANTIMONY;
MVINEGAR OF ANTIMONY;MREGULUS OF ANTIMONY;f-2;T;T-2;U3;U4;MALKALI;S-2;MMARCASITE;MSAL-AMMONIAC;MARSENIC;MREALGAR;T-2;
MAURIPIGMENT;MBISMUTH ORE;MTARTAR;S-2;MQUICK LIME;MBORAX;R-2;S3;MALUM;MOIL;MSPIRIT;MTINCTURE;MGUM;MWAX;MPOWDER;MCALX;
MTUTTY;MCAPUT MORTUUM;MSCEPTER OF JOVE;MCADUCEUS;MTRIDENT;MSTARRED TRIDENT;MLODESTONE;MSOAP;MURINE;MHORSE DUNG;MASHES;
MPOT ASHES;MBRICK;MPOWDERED BRICK;MAMALGAM;MSTRATUM SUPER STRATUM;h-2;NUBLIMATION;MPRECIPITATE;MDISTILL;PSOLVE;U-2;
MPURIFY;OTREFACTION;MCRUCIBLE;U-2;V3;V4;V5;MALEMBIC;MBATH OF MARY;UVAPOURS;MRETORT;MHOUR;MNIGHT;MDAY-NIGHT;MMONTH;
MHALF DRAM;ROUNCE;@1F780;0BLACK LEFT-POINTING ISOSCELES RIGHT TRIANGLE;6UP-POINTING ISOSCELES RIGHT TRIANGLE;
6RIGHT-POINTING ISOSCELES RIGHT TRIANGLE;6DOWN-POINTING ISOSCELES RIGHT TRIANGLE;6SLIGHTLY SMALL CIRCLE;
0MEDIUM BOLD WHITE CIRCLE;0BOLD WHITE CIRCLE;0HEAVY WHITE CIRCLE;0VERY HEAVY WHITE CIRCLE;
0EXTREMELY HEAVY WHITE CIRCLE;0WHITE CIRCLE CONTAINING BLACK SMALL CIRCLE;0ROUND TARGET;0BLACK TINY SQUARE;
6SLIGHTLY SMALL SQUARE;0LIGHT WHITE SQUARE;0MEDIUM WHITE SQUARE;0BOLD WHITE SQUARE;0HEAVY WHITE SQUARE;
0VERY HEAVY WHITE SQUARE;0EXTREMELY HEAVY WHITE SQUARE;0WHITE SQUARE CONTAINING BLACK VERY SMALL SQUARE;UMEDIUM SQUARE;
0SQUARE TARGET;0BLACK TINY DIAMOND;6VERY SMALL DIAMOND;6MEDIUM SMALL DIAMOND;
0WHITE DIAMOND CONTAINING BLACK VERY SMALL DIAMOND;VMEDIUM DIAMOND;0DIAMOND TARGET;0BLACK TINY LOZENGE;
6VERY SMALL LOZENGE;6MEDIUM SMALL LOZENGE;0WHITE LOZENGE CONTAINING BLACK SMALL LOZENGE;0THIN GREEK CROSS;
0LIGHT GREEK CROSS;0MEDIUM GREEK CROSS;0BOLD GREEK CROSS;0VERY BOLD GREEK CROSS;5HEAVY GREEK CROSS;
0EXTREMELY HEAVY GREEK CROSS;0THIN SALTIRE;0LIGHT SALTIRE;0MEDIUM SALTIRE;0BOLD SALTIRE;0HEAVY SALTIRE;
0VERY HEAVY SALTIRE;0EXTREMELY HEAVY SALTIRE;0LIGHT FIVE SPOKED ASTERISK;0MEDIUM FIVE SPOKED ASTERISK;
0BOLD FIVE SPOKED ASTERISK;0HEAVY FIVE SPOKED ASTERISK;0VERY HEAVY FIVE SPOKED ASTERISK;
0EXTREMELY HEAVY FIVE SPOKED ASTERISK;0LIGHT SIX SPOKED ASTERISK;0MEDIUM SIX SPOKED ASTERISK;0BOLD SIX SPOKED ASTERISK;
0HEAVY SIX SPOKED ASTERISK;0VERY HEAVY SIX SPOKED ASTERISK;0EXTREMELY HEAVY SIX SPOKED ASTERISK;
0LIGHT EIGHT SPOKED ASTERISK;0MEDIUM EIGHT SPOKED ASTERISK;0BOLD EIGHT SPOKED ASTERISK;0HEAVY EIGHT SPOKED ASTERISK;
0VERY HEAVY EIGHT SPOKED ASTERISK;0LIGHT THREE POINTED BLACK STAR;0MEDIUM THREE POINTED BLACK STAR;
0THREE POINTED BLACK STAR;0MEDIUM THREE POINTED PINWHEEL STAR;0LIGHT FOUR POINTED BLACK STAR;
0MEDIUM FOUR POINTED BLACK STAR;0FOUR POINTED BLACK STAR;0MEDIUM FOUR POINTED PINWHEEL STAR;
0REVERSE LIGHT FOUR POINTED PINWHEEL STAR;0LIGHT FIVE POINTED BLACK STAR;0HEAVY FIVE POINTED BLACK STAR;
0MEDIUM SIX POINTED BLACK STAR;0HEAVY SIX POINTED BLACK STAR;0SIX POINTED PINWHEEL STAR;
0MEDIUM EIGHT POINTED BLACK STAR;0HEAVY EIGHT POINTED BLACK STAR;0VERY HEAVY EIGHT POINTED BLACK STAR;
0HEAVY EIGHT POINTED PINWHEEL STAR;0LIGHT TWELVE POINTED BLACK STAR;0HEAVY TWELVE POINTED BLACK STAR;LPINWHEEL STAR;
0CIRCLED TRIANGLE;0NEGATIVE CIRCLED TRIANGLE;0CIRCLED SQUARE;0NEGATIVE CIRCLED SQUARE;@1F7E0;0LARGE ORANGE CIRCLE;
6YELLOW CIRCLE;6GREEN CIRCLE;6PURPLE CIRCLE;6BROWN CIRCLE;6RED SQUARE;6BLUE SQUARE;6ORANGE SQUARE;6YELLOW SQUARE;
6GREEN SQUARE;6PURPLE SQUARE;6BROWN SQUARE;@1F7F0;0HEAVY EQUALS SIGN;@1F800;
0LEFTWARDS ARROW WITH SMALL TRIANGLE ARROWHEAD;0UPWARDS ARROW WITH SMALL TRIANGLE ARROWHEAD;
0RIGHTWARDS ARROW WITH SMALL TRIANGLE ARROWHEAD;0DOWNWARDS ARROW WITH SMALL TRIANGLE ARROWHEAD;
0LEFTWARDS ARROW WITH MEDIUM TRIANGLE ARROWHEAD;0UPWARDS ARROW WITH MEDIUM TRIANGLE ARROWHEAD;
0RIGHTWARDS ARROW WITH MEDIUM TRIANGLE ARROWHEAD;0DOWNWARDS ARROW WITH MEDIUM TRIANGLE ARROWHEAD;
0LEFTWARDS ARROW WITH LARGE TRIANGLE ARROWHEAD;0UPWARDS ARROW WITH LARGE TRIANGLE ARROWHEAD;
0RIGHTWARDS ARROW WITH LARGE TRIANGLE ARROWHEAD;0DOWNWARDS ARROW WITH LARGE TRIANGLE ARROWHEAD;@1F810;
0LEFTWARDS ARROW WITH SMALL EQUILATERAL ARROWHEAD;0UPWARDS ARROW WITH SMALL EQUILATERAL ARROWHEAD;
0RIGHTWARDS ARROW WITH SMALL EQUILATERAL ARROWHEAD;0DOWNWARDS ARROW WITH SMALL EQUILATERAL ARROWHEAD;
0LEFTWARDS ARROW WITH EQUILATERAL ARROWHEAD;0UPWARDS ARROW WITH EQUILATERAL ARROWHEAD;
0RIGHTWARDS ARROW WITH EQUILATERAL ARROWHEAD;0DOWNWARDS ARROW WITH EQUILATERAL ARROWHEAD;
0HEAVY LEFTWARDS ARROW WITH EQUILATERAL ARROWHEAD;6UPWARDS ARROW WITH EQUILATERAL ARROWHEAD;
6RIGHTWARDS ARROW WITH EQUILATERAL ARROWHEAD;6DOWNWARDS ARROW WITH EQUILATERAL ARROWHEAD;
6LEFTWARDS ARROW WITH LARGE EQUILATERAL ARROWHEAD;6UPWARDS ARROW WITH LARGE EQUILATERAL ARROWHEAD;
6RIGHTWARDS ARROW WITH LARGE EQUILATERAL ARROWHEAD;6DOWNWARDS ARROW WITH LARGE EQUILATERAL ARROWHEAD;
0LEFTWARDS TRIANGLE-HEADED ARROW WITH NARROW SHAFT;0UPWARDS TRIANGLE-HEADED ARROW WITH NARROW SHAFT;
0RIGHTWARDS TRIANGLE-HEADED ARROW WITH NARROW SHAFT;0DOWNWARDS TRIANGLE-HEADED ARROW WITH NARROW SHAFT;
0LEFTWARDS TRIANGLE-HEADED ARROW WITH MEDIUM SHAFT;0UPWARDS TRIANGLE-HEADED ARROW WITH MEDIUM SHAFT;
0RIGHTWARDS TRIANGLE-HEADED ARROW WITH MEDIUM SHAFT;0DOWNWARDS TRIANGLE-HEADED ARROW WITH MEDIUM SHAFT;
0LEFTWARDS TRIANGLE-HEADED ARROW WITH BOLD SHAFT;0UPWARDS TRIANGLE-HEADED ARROW WITH BOLD SHAFT;
0RIGHTWARDS TRIANGLE-HEADED ARROW WITH BOLD SHAFT;0DOWNWARDS TRIANGLE-HEADED ARROW WITH BOLD SHAFT;
0LEFTWARDS TRIANGLE-HEADED ARROW WITH HEAVY SHAFT;0UPWARDS TRIANGLE-HEADED ARROW WITH HEAVY SHAFT;
0RIGHTWARDS TRIANGLE-HEADED ARROW WITH HEAVY SHAFT;0DOWNWARDS TRIANGLE-HEADED ARROW WITH HEAVY SHAFT;
0LEFTWARDS TRIANGLE-HEADED ARROW WITH VERY HEAVY SHAFT;0UPWARDS TRIANGLE-HEADED ARROW WITH VERY HEAVY SHAFT;
0RIGHTWARDS TRIANGLE-HEADED ARROW WITH VERY HEAVY SHAFT;0DOWNWARDS TRIANGLE-HEADED ARROW WITH VERY HEAVY SHAFT;
0LEFTWARDS FINGER-POST ARROW;0UPWARDS FINGER-POST ARROW;0RIGHTWARDS FINGER-POST ARROW;0DOWNWARDS FINGER-POST ARROW;
0LEFTWARDS SQUARED ARROW;0UPWARDS SQUARED ARROW;0RIGHTWARDS SQUARED ARROW;0DOWNWARDS SQUARED ARROW;
0LEFTWARDS COMPRESSED ARROW;0UPWARDS COMPRESSED ARROW;0RIGHTWARDS COMPRESSED ARROW;0DOWNWARDS COMPRESSED ARROW;
0LEFTWARDS HEAVY COMPRESSED ARROW;0UPWARDS HEAVY COMPRESSED ARROW;0RIGHTWARDS HEAVY COMPRESSED ARROW;
0DOWNWARDS HEAVY COMPRESSED ARROW;0LEFTWARDS HEAVY ARROW;0UPWARDS HEAVY ARROW;0RIGHTWARDS HEAVY ARROW;
0DOWNWARDS HEAVY ARROW;@1F850;0LEFTWARDS SANS-SERIF ARROW;0UPWARDS SANS-SERIF ARROW;0RIGHTWARDS SANS-SERIF ARROW;
0DOWNWARDS SANS-SERIF ARROW;0NORTH WEST SANS-SERIF ARROW;6EAST SANS-SERIF ARROW;0SOUTH EAST SANS-SERIF ARROW;
6WEST SANS-SERIF ARROW;0LEFT RIGHT SANS-SERIF ARROW;0UP DOWN SANS-SERIF ARROW;@1F860;
0WIDE-HEADED LEFTWARDS LIGHT BARB ARROW;CUPWARDS LIGHT BARB ARROW;CRIGHTWARDS LIGHT BARB ARROW;
CDOWNWARDS LIGHT BARB ARROW;CNORTH WEST LIGHT BARB ARROW;IEAST LIGHT BARB ARROW;CSOUTH EAST LIGHT BARB ARROW;
IWEST LIGHT BARB ARROW;CLEFTWARDS BARB ARROW;CUPWARDS BARB ARROW;CRIGHTWARDS BARB ARROW;CDOWNWARDS BARB ARROW;
CNORTH WEST BARB ARROW;IEAST BARB ARROW;CSOUTH EAST BARB ARROW;IWEST BARB ARROW;CLEFTWARDS MEDIUM BARB ARROW;
CUPWARDS MEDIUM BARB ARROW;CRIGHTWARDS MEDIUM BARB ARROW;CDOWNWARDS MEDIUM BARB ARROW;CNORTH WEST MEDIUM BARB ARROW;
IEAST MEDIUM BARB ARROW;CSOUTH EAST MEDIUM BARB ARROW;IWEST MEDIUM BARB ARROW;CLEFTWARDS HEAVY BARB ARROW;
CUPWARDS HEAVY BARB ARROW;CRIGHTWARDS HEAVY BARB ARROW;CDOWNWARDS HEAVY BARB ARROW;CNORTH WEST HEAVY BARB ARROW;
IEAST HEAVY BARB ARROW;CSOUTH EAST HEAVY BARB ARROW;IWEST HEAVY BARB ARROW;CLEFTWARDS VERY HEAVY BARB ARROW;
CUPWARDS VERY HEAVY BARB ARROW;CRIGHTWARDS VERY HEAVY BARB ARROW;CDOWNWARDS VERY HEAVY BARB ARROW;
CNORTH WEST VERY HEAVY BARB ARROW;IEAST VERY HEAVY BARB ARROW;CSOUTH EAST VERY HEAVY BARB ARROW;
IWEST VERY HEAVY BARB ARROW;@1F890;0LEFTWARDS TRIANGLE ARROWHEAD;0UPWARDS TRIANGLE ARROWHEAD;
0RIGHTWARDS TRIANGLE ARROWHEAD;0DOWNWARDS TRIANGLE ARROWHEAD;0LEFTWARDS WHITE ARROW WITHIN TRIANGLE ARROWHEAD;
0UPWARDS WHITE ARROW WITHIN TRIANGLE ARROWHEAD;0RIGHTWARDS WHITE ARROW WITHIN TRIANGLE ARROWHEAD;
0DOWNWARDS WHITE ARROW WITHIN TRIANGLE ARROWHEAD;0LEFTWARDS ARROW WITH NOTCHED TAIL;0UPWARDS ARROW WITH NOTCHED TAIL;
0RIGHTWARDS ARROW WITH NOTCHED TAIL;0DOWNWARDS ARROW WITH NOTCHED TAIL;0HEAVY ARROW SHAFT WIDTH ONE;OTWO THIRDS;
OONE HALF;STHIRD;0LEFTWARDS BOTTOM-SHADED WHITE ARROW;0RIGHTWARDS BOTTOM SHADED WHITE ARROW;
0LEFTWARDS TOP SHADED WHITE ARROW;0RIGHTWARDS TOP SHADED WHITE ARROW;0LEFTWARDS LEFT-SHADED WHITE ARROW;
0RIGHTWARDS RIGHT-SHADED WHITE ARROW;0LEFTWARDS RIGHT-SHADED WHITE ARROW;0RIGHTWARDS LEFT-SHADED WHITE ARROW;
0LEFTWARDS BACK-TILTED SHADOWED WHITE ARROW;0RIGHTWARDS BACK-TILTED SHADOWED WHITE ARROW;
0LEFTWARDS FRONT-TILTED SHADOWED WHITE ARROW;0RIGHTWARDS FRONT-TILTED SHADOWED WHITE ARROW;
0WHITE ARROW SHAFT WIDTH ONE;OTWO THIRDS;@1F8B0;0ARROW POINTING UPWARDS THEN NORTH WEST;
FRIGHTWARDS THEN CURVING SOUTH WEST;@1F900;0CIRCLED CROSS FORMEE WITH FOUR DOTS;QTWO DOTS;K;
0LEFT HALF CIRCLE WITH FOUR DOTS;MTHREE DOTS;NWO DOTS;MDOT;G;0DOWNWARD FACING HOOK;GNOTCHED HOOK;GHOOK WITH DOT;
GNOTCHED HOOK WITH DOT;0PINCHED FINGERS;0WHITE HEART;0BROWN HEART;0PINCHING HAND;0ZIPPER-MOUTH FACE;0MONEY-MOUTH FACE;
0FACE WITH THERMOMETER;0NERD FACE;0THINKING FACE;0FACE WITH HEAD-BANDAGE;0ROBOT FACE;0HUGGING FACE;0SIGN OF THE HORNS;
0CALL ME HAND;0RAISED BACK OF HAND;0LEFT-FACING FIST;0RIGHT-FACING FIST;0HANDSHAKE;
4 WITH INDEX AND MIDDLE FINGERS CROSSED;0I LOVE YOU HAND SIGN;0FACE WITH COWBOY HAT;0CLOWN FACE;0NAUSEATED FACE;
0ROLLING ON THE FLOOR LAUGHING;0DROOLING FACE;0LYING FACE;0FACE PALM;0SNEEZING FACE;0FACE WITH ONE EYEBROW RAISED;
0GRINNING FACE WITH STAR EYES;JONE LARGE AND ONE SMALL EYE;0FACE WITH FINGER COVERING CLOSED LIPS;
0SERIOUS FACE WITH SYMBOLS COVERING MOUTH;1MILING FACE WITH SMILING EYES AND HAND COVERING MOUTH;
0FACE WITH OPEN MOUTH VOMITING;0SHOCKED FACE WITH EXPLODING HEAD;0PREGNANT WOMAN;0BREAST-FEEDING;0PALMS UP TOGETHER;
0SELFIE;0PRINCE;0MAN IN TUXEDO;1OTHER CHRISTMAS;0SHRUG;0PERSON DOING CARTWHEEL;0JUGGLING;0FENCER;0MODERN PENTATHLON;
0WRESTLERS;1ATER POLO;0HANDBALL;0DIVING MASK;0WILTED FLOWER;0DRUM WITH DRUMSTICKS;0CLINKING GLASSES;0TUMBLER GLASS;
0SPOON;0GOAL NET;0RIFLE;0FIRST PLACE MEDAL;0SECOND PLACE MEDAL;0THIRD PLACE MEDAL;0BOXING GLOVE;0MARTIAL ARTS UNIFORM;
0CURLING STONE;0LACROSSE STICK AND BALL;0SOFTBALL;0FLYING DISC;0CROISSANT;0AVOCADO;0CUCUMBER;0BACON;0POTATO;0CARROT;
0BAGUETTE BREAD;0GREEN SALAD;0SHALLOW PAN OF FOOD;1TUFFED FLATBREAD;0EGG;0GLASS OF MILK;0PEANUTS;0KIWIFRUIT;0PANCAKES;
0DUMPLING;0FORTUNE COOKIE;0TAKEOUT BOX;0CHOPSTICKS;0BOWL WITH SPOON;0CUP WITH STRAW;1OCONUT;0BROCCOLI;0PIE;1RETZEL;
0CUT OF MEAT;0SANDWICH;0CANNED FOOD;0LEAFY GREEN;0MANGO;1OON CAKE;0BAGEL;
0SMILING FACE WITH SMILING EYES AND THREE HEARTS;0YAWNING FACE;0SMILING FACE WITH TEAR;
0FACE WITH PARTY HORN AND PARTY HAT;AUNEVEN EYES AND WAVY MOUTH;0OVERHEATED FACE;0FREEZING FACE;0NINJA;0DISGUISED FACE;
0FACE HOLDING BACK TEARS;5WITH PLEADING EYES;0SARI;0LAB COAT;0GOGGLES;0HIKING BOOT;0FLAT SHOE;0CRAB;0LION FACE;
0SCORPION;0TURKEY;0UNICORN FACE;0EAGLE;0DUCK;0BAT;0SHARK;0OWL;0FOX FACE;0BUTTERFLY;0DEER;0GORILLA;0LIZARD;0RHINOCEROS;
0SHRIMP;1QUID;0GIRAFFE FACE;0ZEBRA FACE;0HEDGEHOG;0SAUROPOD;0T-REX;0CRICKET;0KANGAROO;0LLAMA;0PEACOCK;0HIPPOPOTAMUS;
0PARROT;0RACCOON;0LOBSTER;0MOSQUITO;1ICROBE;0BADGER;0SWAN;0MAMMOTH;0DODO;0SLOTH;0OTTER;1RANGUTAN;0SKUNK;0FLAMINGO;
0OYSTER;0BEAVER;1ISON;0SEAL;0GUIDE DOG;0PROBING CANE;0EMOJI COMPONENT RED HAIR;GCURLY HAIR;GBALD;GWHITE HAIR;0BONE;
0LEG;0FOOT;0TOOTH;0SUPERHERO;5VILLAIN;1AFETY VEST;0EAR WITH HEARING AID;0MOTORIZED WHEELCHAIR;1ANUAL WHEELCHAIR;
1ECHANICAL ARM;BLEG;0CHEESE WEDGE;1UPCAKE;0SALT SHAKER;0BEVERAGE BOX;0GARLIC;0ONION;0FALAFEL;0WAFFLE;0BUTTER;
0MATE DRINK;0ICE CUBE;0BUBBLE TEA;0TROLL;0STANDING PERSON;0KNEELING PERSON;0DEAF PERSON;0FACE WITH MONOCLE;0ADULT;
0CHILD;0OLDER ADULT;0BEARDED PERSON;0PERSON WITH HEADSCARF;7IN STEAMY ROOM;7CLIMBING;7IN LOTUS POSITION;0MAGE;0FAIRY;
0VAMPIRE;0MERPERSON;0ELF;0GENIE;0ZOMBIE;0BRAIN;0ORANGE HEART;0BILLED CAP;0SCARF;0GLOVES;0COAT;0SOCKS;
0RED GIFT ENVELOPE;0FIRECRACKER;0JIGSAW PUZZLE PIECE;0TEST TUBE;0PETRI DISH;0DNA DOUBLE HELIX;0COMPASS;0ABACUS;
0FIRE EXTINGUISHER;0TOOLBOX;0BRICK;0MAGNET;0LUGGAGE;1OTION BOTTLE;0SPOOL OF THREAD;0BALL OF YARN;0SAFETY PIN;
0TEDDY BEAR;0BROOM;1ASKET;0ROLL OF PAPER;0BAR OF SOAP;0SPONGE;0RECEIPT;0NAZAR AMULET;1EUTRAL CHESS KING;EQUEEN;EROOK;
EBISHOP;EKNIGHT;EPAWN;0WHITE CHESS KNIGHT ROTATED FORTY-FIVE DEGREES;0BLACK CHESS KNIGHT ROTATED FORTY-FIVE DEGREES;
0NEUTRAL CHESS KNIGHT ROTATED FORTY-FIVE DEGREES;0WHITE CHESS KING ROTATED NINETY DEGREES;
CQUEEN ROTATED NINETY DEGREES;CROOK ROTATED NINETY DEGREES;CBISHOP ROTATED NINETY DEGREES;
CKNIGHT ROTATED NINETY DEGREES;CPAWN ROTATED NINETY DEGREES;0BLACK CHESS KING ROTATED NINETY DEGREES;
CQUEEN ROTATED NINETY DEGREES;CROOK ROTATED NINETY DEGREES;CBISHOP ROTATED NINETY DEGREES;
CKNIGHT ROTATED NINETY DEGREES;CPAWN ROTATED NINETY DEGREES;0NEUTRAL CHESS KING ROTATED NINETY DEGREES;
EQUEEN ROTATED NINETY DEGREES;EROOK ROTATED NINETY DEGREES;EBISHOP ROTATED NINETY DEGREES;
EKNIGHT ROTATED NINETY DEGREES;EPAWN ROTATED NINETY DEGREES;
0WHITE CHESS KNIGHT ROTATED ONE HUNDRED THIRTY-FIVE DEGREES;
0BLACK CHESS KNIGHT ROTATED ONE HUNDRED THIRTY-FIVE DEGREES;
0NEUTRAL CHESS KNIGHT ROTATED ONE HUNDRED THIRTY-FIVE DEGREES;0WHITE CHESS TURNED KING;JQUEEN;JROOK;JBISHOP;JKNIGHT;
JPAWN;0BLACK CHESS TURNED KING;JQUEEN;JROOK;JBISHOP;JKNIGHT;JPAWN;0NEUTRAL CHESS TURNED KING;LQUEEN;LROOK;LBISHOP;
LKNIGHT;LPAWN;0WHITE CHESS KNIGHT ROTATED TWO HUNDRED TWENTY-FIVE DEGREES;
0BLACK CHESS KNIGHT ROTATED TWO HUNDRED TWENTY-FIVE DEGREES;
0NEUTRAL CHESS KNIGHT ROTATED TWO HUNDRED TWENTY-FIVE DEGREES;0WHITE CHESS KING ROTATED TWO HUNDRED SEVENTY DEGREES;
CQUEEN ROTATED TWO HUNDRED SEVENTY DEGREES;CROOK ROTATED TWO HUNDRED SEVENTY DEGREES;
CBISHOP ROTATED TWO HUNDRED SEVENTY DEGREES;CKNIGHT ROTATED TWO HUNDRED SEVENTY DEGREES;
CPAWN ROTATED TWO HUNDRED SEVENTY DEGREES;0BLACK CHESS KING ROTATED TWO HUNDRED SEVENTY DEGREES;
CQUEEN ROTATED TWO HUNDRED SEVENTY DEGREES;CROOK ROTATED TWO HUNDRED SEVENTY DEGREES;
CBISHOP ROTATED TWO HUNDRED SEVENTY DEGREES;CKNIGHT ROTATED TWO HUNDRED SEVENTY DEGREES;
CPAWN ROTATED TWO HUNDRED SEVENTY DEGREES;0NEUTRAL CHESS KING ROTATED TWO HUNDRED SEVENTY DEGREES;
EQUEEN ROTATED TWO HUNDRED SEVENTY DEGREES;EROOK ROTATED TWO HUNDRED SEVENTY DEGREES;
EBISHOP ROTATED TWO HUNDRED SEVENTY DEGREES;EKNIGHT ROTATED TWO HUNDRED SEVENTY DEGREES;
EPAWN ROTATED TWO HUNDRED SEVENTY DEGREES;0WHITE CHESS KNIGHT ROTATED THREE HUNDRED FIFTEEN DEGREES;
0BLACK CHESS KNIGHT ROTATED THREE HUNDRED FIFTEEN DEGREES;0NEUTRAL CHESS KNIGHT ROTATED THREE HUNDRED FIFTEEN DEGREES;
0WHITE CHESS EQUIHOPPER;0BLACK CHESS EQUIHOPPER;0NEUTRAL CHESS EQUIHOPPER;
0WHITE CHESS EQUIHOPPER ROTATED NINETY DEGREES;0BLACK CHESS EQUIHOPPER ROTATED NINETY DEGREES;
0NEUTRAL CHESS EQUIHOPPER ROTATED NINETY DEGREES;0WHITE CHESS KNIGHT-QUEEN;JROOK;JBISHOP;0BLACK CHESS KNIGHT-QUEEN;
JROOK;JBISHOP;@1FA60;0XIANGQI RED GENERAL;CMANDARIN;CELEPHANT;CHORSE;CCHARIOT;DANNON;CSOLDIER;8BLACK GENERAL;EMANDARIN;
EELEPHANT;EHORSE;ECHARIOT;FANNON;ESOLDIER;@1FA70;0BALLET SHOES;0ONE-PIECE SWIMSUIT;0BRIEFS;0SHORTS;0THONG SANDAL;
@1FA78;0DROP OF BLOOD;0ADHESIVE BANDAGE;0STETHOSCOPE;0X-RAY;0CRUTCH;@1FA80;0YO-YO;0KITE;0PARACHUTE;0BOOMERANG;
0MAGIC WAND;0PINATA;0NESTING DOLLS;@1FA90;0RINGED PLANET;0CHAIR;0RAZOR;0AXE;0DIYA LAMP;0BANJO;0MILITARY HELMET;
0ACCORDION;0LONG DRUM;0COIN;1ARPENTRY SAW;0SCREWDRIVER;0LADDER;0HOOK;0MIRROR;0WINDOW;0PLUNGER;0SEWING NEEDLE;0KNOT;
0BUCKET;0MOUSE TRAP;0TOOTHBRUSH;0HEADSTONE;0PLACARD;0ROCK;0MIRROR BALL;0IDENTIFICATION CARD;0LOW BATTERY;0HAMSA;@1FAB0;
0FLY;0WORM;0BEETLE;0COCKROACH;0POTTED PLANT;0WOOD;0FEATHER;0LOTUS;0CORAL;0EMPTY NEST;0NEST WITH EGGS;@1FAC0;
0ANATOMICAL HEART;0LUNGS;0PEOPLE HUGGING;1REGNANT MAN;9PERSON;1ERSON WITH CROWN;@1FAD0;0BLUEBERRIES;1ELL PEPPER;0OLIVE;
0FLATBREAD;0TAMALE;0FONDUE;0TEAPOT;0POURING LIQUID;0BEANS;0JAR;@1FAE0;0MELTING FACE;0SALUTING FACE;
0FACE WITH OPEN EYES AND HAND OVER MOUTH;APEEKING EYE;ADIAGONAL MOUTH;0DOTTED LINE FACE;0BITING LIP;1UBBLES;@1FAF0;
0HAND WITH INDEX FINGER AND THUMB CROSSED;0RIGHTWARDS HAND;0LEFTWARDS HAND;0PALM DOWN HAND;5UP HAND;
0INDEX POINTING AT THE VIEWER;0HEART HANDS;@1FB00;0BLOCK SEXTANT-1;E2;E12;E3;E13;E23;E123;E4;E14;E24;E124;E34;E134;
E234;E1234;E5;E15;E25;E125;E35;E235;E1235;E45;E145;E245;E1245;E345;E1345;E2345;E12345;E6;E16;E26;E126;E36;E136;E236;
E1236;E46;E146;F246;E346;E1346;E2346;E12346;E56;E156;E256;E1256;E356;E1356;E2356;E12356;E456;E1456;E2456;E12456;E3456;
E13456;E23456;0LOWER LEFT BLOCK DIAGONAL LOWER MIDDLE LEFT TO LOWER CENTRE;rRIGHT;QUPPER MIDDLE LEFT TO LOWER CENTRE;
rRIGHT;WLEFT TO LOWER CENTRE;6RIGHT BLOCK DIAGONAL UPPER MIDDLE LEFT TO UPPER CENTRE;sRIGHT;
RLOWER MIDDLE LEFT TO UPPER CENTRE;sRIGHT;XLEFT TO UPPER CENTRE;XMIDDLE LEFT TO UPPER MIDDLE RIGHT;
XCENTRE TO LOWER MIDDLE RIGHT;XLEFT TO LOWER MIDDLE RIGHT;XCENTRE TO UPPER MIDDLE RIGHT;XLEFT TO UPPER MIDDLE RIGHT;
XCENTRE TO UPPER RIGHT;6LEFT BLOCK DIAGONAL UPPER CENTRE TO UPPER MIDDLE RIGHT;WLEFT TO UPPER MIDDLE RIGHT;
WCENTRE TO LOWER MIDDLE RIGHT;WLEFT TO LOWER MIDDLE RIGHT;WCENTRE TO LOWER RIGHT;WMIDDLE LEFT TO LOWER MIDDLE RIGHT;
0UPPER RIGHT BLOCK DIAGONAL LOWER MIDDLE LEFT TO LOWER CENTRE;sRIGHT;RUPPER MIDDLE LEFT TO LOWER CENTRE;sRIGHT;
XLEFT TO LOWER CENTRE;6LEFT BLOCK DIAGONAL UPPER MIDDLE LEFT TO UPPER CENTRE;rRIGHT;QLOWER MIDDLE LEFT TO UPPER CENTRE;
rRIGHT;WLEFT TO UPPER CENTRE;WMIDDLE LEFT TO UPPER MIDDLE RIGHT;WCENTRE TO LOWER MIDDLE RIGHT;
WLEFT TO LOWER MIDDLE RIGHT;WCENTRE TO UPPER MIDDLE RIGHT;WLEFT TO UPPER MIDDLE RIGHT;WCENTRE TO UPPER RIGHT;
6RIGHT BLOCK DIAGONAL UPPER CENTRE TO UPPER MIDDLE RIGHT;XLEFT TO UPPER MIDDLE RIGHT;XCENTRE TO LOWER MIDDLE RIGHT;
XLEFT TO LOWER MIDDLE RIGHT;XCENTRE TO LOWER RIGHT;XMIDDLE LEFT TO LOWER MIDDLE RIGHT;
6AND RIGHT AND LOWER TRIANGULAR THREE QUARTERS BLOCK;0LEFT AND LOWER AND RIGHT TRIANGULAR THREE QUARTERS BLOCK;
0UPPER AND LEFT AND LOWER TRIANGULAR THREE QUARTERS BLOCK;0LEFT AND UPPER AND RIGHT TRIANGULAR THREE QUARTERS BLOCK;
5TRIANGULAR ONE QUARTER BLOCK;0UPPER TRIANGULAR ONE QUARTER BLOCK;0RIGHT TRIANGULAR ONE QUARTER BLOCK;
0LOWER TRIANGULAR ONE QUARTER BLOCK;0VERTICAL ONE EIGHTH BLOCK-2;Q3;Q4;Q5;Q6;Q7;0HORIZONTAL ONE EIGHTH BLOCK-2;S3;S4;
S5;S6;S7;0LEFT AND LOWER ONE EIGHTH BLOCK;9UPPER ONE EIGHTH BLOCK;0RIGHT AND UPPER ONE EIGHTH BLOCK;
ALOWER ONE EIGHTH BLOCK;0UPPER AND LOWER ONE EIGHTH BLOCK;0HORIZONTAL ONE EIGHTH BLOCK-1358;0UPPER ONE QUARTER BLOCK;
6THREE EIGHTHS BLOCK;6FIVE EIGHTHS BLOCK;6THREE QUARTERS BLOCK;6SEVEN EIGHTHS BLOCK;0RIGHT ONE QUARTER BLOCK;
6THREE EIGHTHS BLOCK;6FIVE EIGHTHS BLOCK;6THREE QUARTERS BLOCK;6SEVEN EIGHTHS BLOCK;0LEFT HALF MEDIUM SHADE;
0RIGHT HALF MEDIUM SHADE;0UPPER HALF MEDIUM SHADE;0LOWER HALF MEDIUM SHADE;0INVERSE MEDIUM SHADE;
0UPPER HALF BLOCK AND LOWER HALF INVERSE MEDIUM SHADE;BINVERSE MEDIUM SHADE AND LOWER HALF BLOCK;@1FB94;
0LEFT HALF INVERSE MEDIUM SHADE AND RIGHT HALF BLOCK;0CHECKER BOARD FILL;0INVERSE CHECKER BOARD FILL;
0HEAVY HORIZONTAL FILL;0UPPER LEFT TO LOWER RIGHT FILL;6RIGHT TO LOWER LEFT FILL;6AND LOWER TRIANGULAR HALF BLOCK;
0LEFT AND RIGHT TRIANGULAR HALF BLOCK;0UPPER LEFT TRIANGULAR MEDIUM SHADE;6RIGHT TRIANGULAR MEDIUM SHADE;
0LOWER RIGHT TRIANGULAR MEDIUM SHADE;6LEFT TRIANGULAR MEDIUM SHADE;
0BOX DRAWINGS LIGHT DIAGONAL UPPER CENTRE TO MIDDLE LEFT;pRIGHT;SMIDDLE LEFT TO LOWER CENTRE;ZRIGHT TO LOWER CENTRE;
SUPPER CENTRE TO MIDDLE LEFT TO LOWER CENTRE;pRIGHT TO LOWER CENTRE;SMIDDLE LEFT TO LOWER CENTRE TO MIDDLE RIGHT;
hUPPER CENTRE TO MIDDLE RIGHT;SUPPER CENTRE TO MIDDLE LEFT AND MIDDLE RIGHT TO LOWER CENTRE;
pRIGHT AND MIDDLE LEFT TO LOWER CENTRE;vTO LOWER CENTRE TO MIDDLE LEFT;pLEFT TO LOWER CENTRE TO MIDDLE RIGHT;
SMIDDLE LEFT TO UPPER CENTRE TO MIDDLE RIGHT TO LOWER CENTRE;ZRIGHT TO UPPER CENTRE TO MIDDLE LEFT TO LOWER CENTRE;
SDIAMOND;JHORIZONTAL WITH VERTICAL STROKE;0ARROWHEAD-SHAPED POINTER;0INVERSE CHECK MARK;0LEFT HALF RUNNING MAN;
0RIGHT HALF RUNNING MAN;0INVERSE DOWNWARDS ARROW WITH TIP LEFTWARDS;
0LEFTWARDS ARROW AND UPPER AND LOWER ONE EIGHTH BLOCK;0RIGHTWARDS ARROW AND UPPER AND LOWER ONE EIGHTH BLOCK;
0DOWNWARDS ARROW AND RIGHT ONE EIGHTH BLOCK;0UPWARDS ARROW AND RIGHT ONE EIGHTH BLOCK;0LEFT HALF FOLDER;
0RIGHT HALF FOLDER;0VOIDED GREEK CROSS;0RIGHT OPEN SQUARED DOT;0NEGATIVE DIAGONAL CROSS;IMIDDLE RIGHT TO LOWER CENTRE;
IDIAMOND;0WHITE HEAVY SALTIRE WITH ROUNDED CORNERS;0LEFT THIRD WHITE RIGHT POINTING INDEX;
0MIDDLE THIRD WHITE RIGHT POINTING INDEX;0RIGHT THIRD WHITE RIGHT POINTING INDEX;0NEGATIVE SQUARED QUESTION MARK;
0STICK FIGURE;C WITH ARMS RAISED;DLEANING LEFT;LRIGHT;DWITH DRESS;0WHITE UP-POINTING CHEVRON;@1FBF0;
0SEGMENTED DIGIT ZERO;GONE;GTWO;HHREE;GFOUR;HIVE;GSIX;HEVEN;GEIGHT;GNINE;@E0001;0LANGUAGE TAG;@E0020;0TAG SPACE;
4EXCLAMATION MARK;4QUOTATION MARK;4NUMBER SIGN;4DOLLAR SIGN;4PERCENT SIGN;4AMPERSAND;5POSTROPHE;4LEFT PARENTHESIS;
4RIGHT PARENTHESIS;4ASTERISK;4PLUS SIGN;4COMMA;4HYPHEN-MINUS;4FULL STOP;4SOLIDUS;4DIGIT ZERO;AONE;ATWO;BHREE;AFOUR;
BIVE;ASIX;BEVEN;AEIGHT;ANINE;4COLON;4SEMICOLON;4LESS-THAN SIGN;4EQUALS SIGN;4GREATER-THAN SIGN;4QUESTION MARK;
4COMMERCIAL AT;4LATIN CAPITAL LETTER A;PB;PC;PD;PE;PF;PG;PH;PI;PJ;PK;PL;PM;PN;PO;PP;PQ;PR;PS;PT;PU;PV;PW;PX;PY;PZ;
5EFT SQUARE BRACKET;4REVERSE SOLIDUS;5IGHT SQUARE BRACKET;4CIRCUMFLEX ACCENT;4LOW LINE;4GRAVE ACCENT;
4LATIN SMALL LETTER A;NB;NC;ND;NE;NF;NG;NH;NI;NJ;NK;NL;NM;NN;NO;NP;NQ;NR;NS;NT;NU;NV;NW;NX;NY;NZ;5EFT CURLY BRACKET;
4VERTICAL LINE;4RIGHT CURLY BRACKET;4TILDE;0CANCEL TAG;@E0100;0VARIATION SELECTOR-17;K8;K9;J20;K1;K2;K3;K4;K5;K6;K7;K8;
K9;J30;K1;K2;K3;K4;K5;K6;K7;K8;K9;J40;K1;K2;K3;K4;K5;K6;K7;K8;K9;J50;K1;K2;K3;K4;K5;K6;K7;K8;K9;J60;K1;K2;K3;K4;K5;K6;
K7;K8;K9;J70;K1;K2;K3;K4;K5;K6;K7;K8;K9;J80;K1;K2;K3;K4;K5;K6;K7;K8;K9;J90;K1;K2;K3;K4;K5;K6;K7;K8;K9;J100;L1;L2;L3;L4;
L5;L6;L7;L8;L9;K10;L1;L2;L3;L4;L5;L6;L7;L8;L9;K20;L1;L2;L3;L4;L5;L6;L7;L8;L9;K30;L1;L2;L3;L4;L5;L6;L7;L8;L9;K40;L1;L2;
L3;L4;L5;L6;L7;L8;L9;K50;L1;L2;L3;L4;L5;L6;L7;L8;L9;K60;L1;L2;L3;L4;L5;L6;L7;L8;L9;K70;L1;L2;L3;L4;L5;L6;L7;L8;L9;K80;
L1;L2;L3;L4;L5;L6;L7;L8;L9;K90;L1;L2;L3;L4;L5;L6;L7;L8;L9;J200;L1;L2;L3;L4;L5;L6;L7;L8;L9;K10;L1;L2;L3;L4;L5;L6;L7;L8;
L9;K20;L1;L2;L3;L4;L5;L6;L7;L8;L9;K30;L1;L2;L3;L4;L5;L6;L7;L8;L9;K40;L1;L2;L3;L4;L5;L6;L7;L8;L9;K50;L1;L2;L3;L4;L5;L6;
@0;0NULL;@0;3;0START OF HEADING;@1;1OH;1TART OF TEXT;@2;2X;0END OF TEXT;@3;1TX;1ND OF TRANSMISSION;@4;1OT;1NQUIRY;@5;3;
0ACKNOWLEDGE;@6;3;1LERT;@7;0BEL;1ACKSPACE;@8;1S;0CHARACTER TABULATION;@9;0TAB;@9;0HT;@9;1ORIZONTAL TABULATION;
0LINE FEED;@A;1F;@A;0NEW LINE;@A;0END OF LINE;@A;0NL;@A;0EOL;0LINE TABULATION;@B;0VT;@B;1ERTICAL TABULATION;0FORM FEED;
@C;1F;0CARRIAGE RETURN;@D;1R;0SHIFT OUT;@E;1O;@E;0LOCKING-SHIFT ONE;0SHIFT IN;@F;1I;@F;0LOCKING-SHIFT ZERO;
0DATA LINK ESCAPE;@10;1LE;1EVICE CONTROL ONE;@11;1C1;1EVICE CONTROL TWO;@12;1C2;1EVICE CONTROL THREE;@13;1C3;
1EVICE CONTROL FOUR;@14;1C4;0NEGATIVE ACKNOWLEDGE;@15;1AK;0SYNCHRONOUS IDLE;@16;3;0END OF TRANSMISSION BLOCK;@17;1TB;
0CANCEL;@18;3;0END OF MEDIUM;@19;1OM;0SUBSTITUTE;@1A;3;0ESCAPE;@1B;3;0INFORMATION SEPARATOR FOUR;@1C;0FS;@1C;
1ILE SEPARATOR;0INFORMATION SEPARATOR THREE;@1D;0GS;@1D;1ROUP SEPARATOR;0INFORMATION SEPARATOR TWO;@1E;0RS;@1E;
1ECORD SEPARATOR;0INFORMATION SEPARATOR ONE;@1F;0US;@1F;1NIT SEPARATOR;0SP;@7F;0DELETE;@7F;3;0PADDING CHARACTER;@80;3;
0HIGH OCTET PRESET;@81;1OP;0BREAK PERMITTED HERE;@82;1PH;0NO BREAK HERE;@83;1BH;0INDEX;@84;3;0NEXT LINE;@85;2L;
0START OF SELECTED AREA;@86;1SA;0END OF SELECTED AREA;@87;1SA;0CHARACTER TABULATION SET;@88;0HORIZONTAL TABULATION SET;
@88;1TS;0CHARACTER TABULATION WITH JUSTIFICATION;@89;0HORIZONTAL TABULATION WITH JUSTIFICATION;@89;1TJ;
0LINE TABULATION SET;@8A;0VERTICAL TABULATION SET;@8A;1TS;0PARTIAL LINE FORWARD;@8B;DDOWN;@8B;1LD;
1ARTIAL LINE BACKWARD;@8C;DUP;@8C;1LU;0REVERSE LINE FEED;@8D;8INDEX;@8D;1I;0SINGLE SHIFT TWO;@8E;6-SHIFT-2;@8E;1S2;
1INGLE SHIFT THREE;@8F;6-SHIFT-3;@8F;1S3;0DEVICE CONTROL STRING;@90;1CS;0PRIVATE USE ONE;@91;B-1;@91;1U1;
1RIVATE USE TWO;@92;B-2;@92;1U2;0SET TRANSMIT STATE;@93;1TS;0CANCEL CHARACTER;@94;1CH;0MESSAGE WAITING;@95;1W;
0START OF GUARDED AREA;@96;9PROTECTED AREA;@96;1PA;0END OF GUARDED AREA;@97;7PROTECTED AREA;@97;1PA;0START OF STRING;
@98;1OS;1INGLE GRAPHIC CHARACTER INTRODUCER;@99;1GC;1INGLE CHARACTER INTRODUCER;@9A;1CI;0CONTROL SEQUENCE INTRODUCER;
@9B;1SI;0STRING TERMINATOR;@9C;2;0OPERATING SYSTEM COMMAND;@9D;1SC;0PRIVACY MESSAGE;@9E;1M;
0APPLICATION PROGRAM COMMAND;@9F;2C;0NBSP;@AD;0SHY;@1A2;0LATIN CAPITAL LETTER GHA;6SMALL LETTER GHA;@34F;0CGJ;@61C;
0ALM;@709;0SYRIAC SUBLINEAR COLON SKEWED LEFT;@CDE;0KANNADA LETTER LLLA;@E9D;0LAO LETTER FO FON;@E9F;FAY;@EA3;BRO;@EA5;
BLO;@11EC;0HANGUL JONGSEONG YESIEUNG-KIYEOK;@180B;0FVS1;32;33;0MVS;0FVS4;@200B;0ZWSP;2NJ;2J;0LRM;0RLM;@202A;0LRE;0RLE;
0PDF;0LRO;0RLO;0NNBSP;@205F;0MMSP;0WJ;@2066;0LRI;0RLI;0FSI;0PDI;@2118;0WEIERSTRASS ELLIPTIC FUNCTION;@2448;
0MICR ON US SYMBOL;5DASH SYMBOL;@2B7A;0LEFTWARDS TRIANGLE-HEADED ARROW WITH DOUBLE VERTICAL STROKE;@2B7C;
0RIGHTWARDS TRIANGLE-HEADED ARROW WITH DOUBLE VERTICAL STROKE;@A015;0YI SYLLABLE ITERATION MARK;@FE00;0VS1;22;23;24;25;
26;27;28;29;210;31;32;33;34;35;36;@FE18;0PRESENTATION FORM FOR VERTICAL RIGHT WHITE LENTICULAR BRACKET;@FEFF;0BOM;
@FEFF;0ZWNBSP;@FEFF;0BYTE ORDER MARK;@122D4;0CUNEIFORM SIGN NU11 TENU;KOVER NU11 BUR OVER BUR;@16E56;
0MEDEFAIDRIN CAPITAL LETTER H;RNG;@16E76;CSMALL LETTER H;PNG;@1D0C5;
0BYZANTINE MUSICAL SYMBOL FTHORA SKLIRON CHROMA VASIS;@E0100;0VS17;38;39;220;31;32;33;34;35;36;37;38;39;230;31;32;33;
34;35;36;37;38;39;240;31;32;33;34;35;36;37;38;39;250;31;32;33;34;35;36;37;38;39;260;31;32;33;34;35;36;37;38;39;270;31;
32;33;34;35;36;37;38;39;280;31;32;33;34;35;36;37;38;39;290;31;32;33;34;35;36;37;38;39;2100;41;42;43;44;45;46;47;48;49;
310;41;42;43;44;45;46;47;48;49;320;41;42;43;44;45;46;47;48;49;330;41;42;43;44;45;46;47;48;49;340;41;42;43;44;45;46;47;
48;49;350;41;42;43;44;45;46;47;48;49;360;41;42;43;44;45;46;47;48;49;370;41;42;43;44;45;46;47;48;49;380;41;42;43;44;45;
46;47;48;49;390;41;42;43;44;45;46;47;48;49;2200;41;42;43;44;45;46;47;48;49;310;41;42;43;44;45;46;47;48;49;320;41;42;43;
44;45;46;47;48;49;330;41;42;43;44;45;46;47;48;49;340;41;42;43;44;45;46;47;48;49;350;41;42;43;44;45;46"

/-- The value of a digit in base 62. -/
def digit62 (c : Char) : Nat :=
  if isAsciiDigit c then c.toNat - 48 else if 'A' ≤ c && c ≤ 'Z' then c.toNat - 55 else c.toNat - 61

/-- The value of uppercase hexadecimal digits, if they are such digits. -/
def upperHex? (cs : List Char) : Option Nat :=
  cs.foldl (fun n c => do
    let total ← n
    if isAsciiDigit c then some (16 * total + (c.toNat - 48))
    else if 'A' ≤ c && c ≤ 'F' then some (16 * total + (c.toNat - 55))
    else none) (some 0)

/-- A search through the table: the code point of the next entry, the name before it in reverse, the characters of the
present entry in reverse, and the code point found. -/
structure NameSearch where
  next : Nat := 0
  last : List Char := []
  entry : List Char := []
  found : Option Nat := none

/-- End an entry of the table and compare it with the name sought, given in reverse. -/
def NameSearch.close (target : List Char) (s : NameSearch) : NameSearch :=
  match s.entry.reverse with
  | '@' :: code => { s with next := (upperHex? code).getD 0, entry := [] }
  | shared :: rest =>
    let name := rest.reverse ++ s.last.drop (s.last.length - digit62 shared)
    { next := s.next + 1, last := name, entry := [], found := if name == target then some s.next else s.found }
  | [] => s

/-- One character of the table. -/
def NameSearch.step (target : List Char) (s : NameSearch) (c : Char) : NameSearch :=
  if s.found.isSome || c == '\n' then s
  else if c == ';' then s.close target
  else { s with entry := c :: s.entry }

/-- The code point under a name of the table; letters of either case are alike. -/
def tabledName? (name : List Char) : Option Nat :=
  let target := (name.map Char.toUpper).reverse
  (((nameTable.toList.foldl (NameSearch.step target) {}).close target).found)

/-- The first consonants, vowels and last consonants of Hangul syllables. -/
def hangulParts : List (List String) :=
  [["G", "GG", "N", "D", "DD", "R", "M", "B", "BB", "S", "SS", "", "J", "JJ", "C", "K", "T", "P", "H"],
    ["A", "AE", "YA", "YAE", "EO", "E", "YEO", "YE", "O", "WA", "WAE", "OE", "YO", "U", "WEO", "WE", "WI", "YU", "EU",
      "YI", "I"],
    ["", "G", "GG", "GS", "N", "NJ", "NH", "D", "L", "LG", "LM", "LB", "LS", "LT", "LP", "LH", "M", "B", "BS", "S", "SS",
      "NG", "J", "C", "K", "T", "P", "H"]]

/-- The longest of some parts at the beginning of a text, with its number and the rest of the text. -/
def longestPart? (parts : List String) (cs : List Char) : Option (Nat × List Char) :=
  let fitting := (parts.zipIdx.filter fun (part, _) => part.toList.isPrefixOf cs)
  (fitting.foldl (fun best (part, i) => match best with
    | some (size, j) => if size < part.length then some (part.length, i) else some (size, j)
    | none => some (part.length, i)) none).map fun (size, i) => (i, cs.drop size)

/-- The Hangul syllable of three parts, each the longest that fits. -/
def hangulSyllable? (cs : List Char) : Option Nat := do
  let (first, rest) ← longestPart? (hangulParts.getD 0 []) cs
  let (vowel, rest) ← longestPart? (hangulParts.getD 1 []) rest
  let (last, rest) ← longestPart? (hangulParts.getD 2 []) rest
  if rest.isEmpty then some (0xAC00 + (first * 21 + vowel) * 28 + last) else none

/-- The ranges of ideographs that are named by their code points. -/
def ideographRanges : List (Nat × Nat) :=
  [(0x3400, 0x4DBF), (0x4E00, 0x9FFF), (0x20000, 0x2A6DF), (0x2A700, 0x2B738), (0x2B740, 0x2B81D), (0x2B820, 0x2CEA1),
    (0x2CEB0, 0x2EBE0), (0x30000, 0x3134A)]

/-- The ranges of compatibility ideographs, which are named by their code points too. -/
def compatibilityRanges : List (Nat × Nat) := [(0xF900, 0xFA6D), (0xFA70, 0xFAD9), (0x2F800, 0x2FA1D)]

/-- The code point of four or five hexadecimal digits, if it lies in one of the ranges. -/
def codeWithin? (ranges : List (Nat × Nat)) (digits : List Char) : Option Nat :=
  if digits.length = 4 || digits.length = 5 then
    (upperHex? digits).filter fun code => ranges.any fun (first, last) => first ≤ code && code ≤ last
  else none

/-- The rest of a name after the given words. -/
def nameAfter? (words : String) (cs : List Char) : Option (List Char) :=
  if words.toList.isPrefixOf cs then some (cs.drop words.length) else none

/-- The code point of the character with a name. -/
def characterNamed? (name : String) : Option Nat :=
  let cs := name.toList
  match nameAfter? "HANGUL SYLLABLE " cs, nameAfter? "CJK UNIFIED IDEOGRAPH-" cs with
  | some rest, _ => hangulSyllable? rest
  | _, some rest => codeWithin? ideographRanges rest
  | none, none =>
    match nameAfter? "CJK COMPATIBILITY IDEOGRAPH-" (cs.map Char.toUpper) with
    | some rest => if rest.head? == some '0' then none else codeWithin? compatibilityRanges rest
    | none => tabledName? cs

end RegulatoryTrees.Text
