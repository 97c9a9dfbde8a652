/-!
# Character names

Unicode 14.0 gives most characters a name, written in capitals, digits, blanks and hyphens, and
some a second name, an *alias*: a correction, a control name, an abbreviation such as `NBSP`. A
listed name or alias is found whatever the case of its letters. Two families are named by rule
instead, and only in capitals:

* `CJK UNIFIED IDEOGRAPH-` and four or five capital hexadecimal digits, for the unified
  ideographs;
* `HANGUL SYLLABLE ` and the short names of an initial, a medial and a final jamo (the final may
  be empty), each the longest that fits where it stands.

A name with a character outside ASCII names nothing.

The listed names are stored front-coded in code point order: each name is a character
`U+0100 + k`, saying that it shares its first `k` characters with the name before, followed by
the rest of it; a name whose code point does not follow that of the name before is preceded by
`@` and its code point in hexadecimal.
-/

namespace AccessLog.Text

/-- The listed names of Unicode 14.0, front-coded in code point order. -/
def nameData : String :=
  String.join [
  String.join [
    "@20ĀSPACEĀEXCLAMATION MARKĀQUOTATION MARKĀNUMBER SIGNĀDOLLAR SIGNĀPERCENT SIGNĀAMPERSANDāPOSTROP",
    "HEĀLEFT PARENTHESISĀRIGHT PARENTHESISĀASTERISKĀPLUS SIGNĀCOMMAĀHYPHEN-MINUSĀFULL STOPĀSOLIDUSĀDI",
    "GIT ZEROĆONEĆTWOćHREEĆFOURćIVEĆSIXćEVENĆEIGHTĆNINEĀCOLONĀSEMICOLONĀLESS-THAN SIGNĀEQUALS SIGNĀGR",
    "EATER-THAN SIGNĀQUESTION MARKĀCOMMERCIAL ATĀLATIN CAPITAL LETTER AĕBĕCĕDĕEĕFĕGĕHĕIĕJĕKĕLĕMĕNĕOĕP",
    "ĕQĕRĕSĕTĕUĕVĕWĕXĕYĕZāEFT SQUARE BRACKETĀREVERSE SOLIDUSāIGHT SQUARE BRACKETĀCIRCUMFLEX ACCENTĀLO",
    "W LINEĀGRAVE ACCENTĀLATIN SMALL LETTER AēBēCēDēEēFēGēHēIēJēKēLēMēNēOēPēQēRēSēTēUēVēWēXēYēZāEFT C",
    "URLY BRACKETĀVERTICAL LINEĀRIGHT CURLY BRACKETĀTILDE@A0ĀNO-BREAK SPACEĀINVERTED EXCLAMATION MARK",
    "ĀCENT SIGNĀPOUND SIGNĀCURRENCY SIGNĀYEN SIGNĀBROKEN BARĀSECTION SIGNĀDIAERESISĀCOPYRIGHT SIGNĀFE",
    "MININE ORDINAL INDICATORĀLEFT-POINTING DOUBLE ANGLE QUOTATION MARKĀNOT SIGNĀSOFT HYPHENĀREGISTER",
    "ED SIGNĀMACRONĀDEGREE SIGNĀPLUS-MINUS SIGNĀSUPERSCRIPT TWOčHREEĀACUTE ACCENTĀMICRO SIGNĀPILCROW ",
    "SIGNĀMIDDLE DOTĀCEDILLAĀSUPERSCRIPT ONEĀMASCULINE ORDINAL INDICATORĀRIGHT-POINTING DOUBLE ANGLE ",
    "QUOTATION MARKĀVULGAR FRACTION ONE QUARTERĔHALFĐTHREE QUARTERSĀINVERTED QUESTION MARKĀLATIN CAPI",
    "TAL LETTER A WITH GRAVEĜACUTEĜCIRCUMFLEXĜTILDEĜDIAERESISĜRING ABOVEĖEĕC WITH CEDILLAĕE WITH GRAV",
    "EĜACUTEĜCIRCUMFLEXĜDIAERESISĕI WITH GRAVEĜACUTEĜCIRCUMFLEXĜDIAERESISĕETHĕN WITH TILDEĕO WITH GRA",
    "VEĜACUTEĜCIRCUMFLEXĜTILDEĜDIAERESISĀMULTIPLICATION SIGNĀLATIN CAPITAL LETTER O WITH STROKEĕU WIT",
    "H GRAVEĜACUTEĜCIRCUMFLEXĜDIAERESISĕY WITH ACUTEĕTHORNĆSMALL LETTER SHARP SēA WITH GRAVEĚACUTEĚCI",
    "RCUMFLEXĚTILDEĚDIAERESISĚRING ABOVEĔEēC WITH CEDILLAēE WITH GRAVEĚACUTEĚCIRCUMFLEXĚDIAERESISēI W",
    "ITH GRAVEĚACUTEĚCIRCUMFLEXĚDIAERESISēETHēN WITH TILDEēO WITH GRAVEĚACUTEĚCIRCUMFLEXĚTILDEĚDIAERE",
    "SISĀDIVISION SIGNĀLATIN SMALL LETTER O WITH STROKEēU WITH GRAVEĚACUTEĚCIRCUMFLEXĚDIAERESISēY WIT",
    "H ACUTEēTHORNēY WITH DIAERESISĆCAPITAL LETTER A WITH MACRONĆSMALL LETTER A WITH MACRONĆCAPITAL L",
    "ETTER A WITH BREVEĆSMALL LETTER A WITH BREVEĆCAPITAL LETTER A WITH OGONEKĆSMALL LETTER A WITH OG",
    "ONEKĆCAPITAL LETTER C WITH ACUTEĆSMALL LETTER C WITH ACUTEĆCAPITAL LETTER C WITH CIRCUMFLEXĆSMAL",
    "L LETTER C WITH CIRCUMFLEXĆCAPITAL LETTER C WITH DOT ABOVEĆSMALL LETTER C WITH DOT ABOVEĆCAPITAL",
    " LETTER C WITH CARONĆSMALL LETTER C WITH CARONĆCAPITAL LETTER D WITH CARONĆSMALL LETTER D WITH C",
    "ARONĆCAPITAL LETTER D WITH STROKEĆSMALL LETTER D WITH STROKEĆCAPITAL LETTER E WITH MACRONĆSMALL ",
    "LETTER E WITH MACRONĆCAPITAL LETTER E WITH BREVEĆSMALL LETTER E WITH BREVEĆCAPITAL LETTER E WITH",
    " DOT ABOVEĆSMALL LETTER E WITH DOT ABOVEĆCAPITAL LETTER E WITH OGONEKĆSMALL LETTER E WITH OGONEK",
    "ĆCAPITAL LETTER E WITH CARONĆSMALL LETTER E WITH CARONĆCAPITAL LETTER G WITH CIRCUMFLEXĆSMALL LE",
    "TTER G WITH CIRCUMFLEXĆCAPITAL LETTER G WITH BREVEĆSMALL LETTER G WITH BREVEĆCAPITAL LETTER G WI",
    "TH DOT ABOVEĆSMALL LETTER G WITH DOT ABOVEĆCAPITAL LETTER G WITH CEDILLAĆSMALL LETTER G WITH CED",
    "ILLAĆCAPITAL LETTER H WITH CIRCUMFLEXĆSMALL LETTER H WITH CIRCUMFLEXĆCAPITAL LETTER H WITH STROK",
    "EĆSMALL LETTER H WITH STROKEĆCAPITAL LETTER I WITH TILDEĆSMALL LETTER I WITH TILDEĆCAPITAL LETTE",
    "R I WITH MACRONĆSMALL LETTER I WITH MACRONĆCAPITAL LETTER I WITH BREVEĆSMALL LETTER I WITH BREVE",
    "ĆCAPITAL LETTER I WITH OGONEKĆSMALL LETTER I WITH OGONEKĆCAPITAL LETTER I WITH DOT ABOVEĆSMALL L",
    "ETTER DOTLESS IĆCAPITAL LIGATURE IJĆSMALL LIGATURE IJĆCAPITAL LETTER J WITH CIRCUMFLEXĆSMALL LET",
    "TER J WITH CIRCUMFLEXĆCAPITAL LETTER K WITH CEDILLAĆSMALL LETTER K WITH CEDILLAĔRAĆCAPITAL LETTE",
    "R L WITH ACUTEĆSMALL LETTER L WITH ACUTEĆCAPITAL LETTER L WITH CEDILLAĆSMALL LETTER L WITH CEDIL",
    "LAĆCAPITAL LETTER L WITH CARONĆSMALL LETTER L WITH CARONĆCAPITAL LETTER L WITH MIDDLE DOTĆSMALL ",
    "LETTER L WITH MIDDLE DOTĆCAPITAL LETTER L WITH STROKEĆSMALL LETTER L WITH STROKEĆCAPITAL LETTER ",
    "N WITH ACUTEĆSMALL LETTER N WITH ACUTEĆCAPITAL LETTER N WITH CEDILLAĆSMALL LETTER N WITH CEDILLA",
    "ĆCAPITAL LETTER N WITH CARONĆSMALL LETTER N WITH CARONĕPRECEDED BY APOSTROPHEĆCAPITAL LETTER ENG",
    "ĆSMALL LETTER ENGĆCAPITAL LETTER O WITH MACRONĆSMALL LETTER O WITH MACRONĆCAPITAL LETTER O WITH ",
    "BREVEĆSMALL LETTER O WITH BREVEĆCAPITAL LETTER O WITH DOUBLE ACUTEĆSMALL LETTER O WITH DOUBLE AC",
    "UTEĆCAPITAL LIGATURE OEĆSMALL LIGATURE OEĆCAPITAL LETTER R WITH ACUTEĆSMALL LETTER R WITH ACUTEĆ",
    "CAPITAL LETTER R WITH CEDILLAĆSMALL LETTER R WITH CEDILLAĆCAPITAL LETTER R WITH CARONĆSMALL LETT",
    "ER R WITH CARONĆCAPITAL LETTER S WITH ACUTEĆSMALL LETTER S WITH ACUTEĆCAPITAL LETTER S WITH CIRC",
    "UMFLEXĆSMALL LETTER S WITH CIRCUMFLEXĆCAPITAL LETTER S WITH CEDILLAĆSMALL LETTER S WITH CEDILLAĆ",
    "CAPITAL LETTER S WITH CARONĆSMALL LETTER S WITH CARONĆCAPITAL LETTER T WITH CEDILLAĆSMALL LETTER",
    " T WITH CEDILLAĆCAPITAL LETTER T WITH CARONĆSMALL LETTER T WITH CARONĆCAPITAL LETTER T WITH STRO",
    "KEĆSMALL LETTER T WITH STROKEĆCAPITAL LETTER U WITH TILDEĆSMALL LETTER U WITH TILDEĆCAPITAL LETT",
    "ER U WITH MACRONĆSMALL LETTER U WITH MACRONĆCAPITAL LETTER U WITH BREVEĆSMALL LETTER U WITH BREV",
    "EĆCAPITAL LETTER U WITH RING ABOVEĆSMALL LETTER U WITH RING ABOVEĆCAPITAL LETTER U WITH DOUBLE A",
    "CUTEĆSMALL LETTER U WITH DOUBLE ACUTEĆCAPITAL LETTER U WITH OGONEKĆSMALL LETTER U WITH OGONEKĆCA",
    "PITAL LETTER W WITH CIRCUMFLEXĆSMALL LETTER W WITH CIRCUMFLEXĆCAPITAL LETTER Y WITH CIRCUMFLEXĆS",
    "MALL LETTER Y WITH CIRCUMFLEXĆCAPITAL LETTER Y WITH DIAERESISĕZ WITH ACUTEĆSMALL LETTER Z WITH A",
    "CUTEĆCAPITAL LETTER Z WITH DOT ABOVEĆSMALL LETTER Z WITH DOT ABOVEĆCAPITAL LETTER Z WITH CARONĆS",
    "MALL LETTER Z WITH CARONēLONG SēB WITH STROKEĆCAPITAL LETTER B WITH HOOKĜTOPBARĆSMALL LETTER B W",
    "ITH TOPBARĆCAPITAL LETTER TONE SIXĆSMALL LETTER TONE SIXĆCAPITAL LETTER OPEN OĕC WITH HOOKĆSMALL",
    " LETTER C WITH HOOKĆCAPITAL LETTER AFRICAN DĕD WITH HOOKĜTOPBARĆSMALL LETTER D WITH TOPBARēTURNE",
    "D DELTAĆCAPITAL LETTER REVERSED EĕSCHWAĕOPEN EĕF WITH HOOKĆSMALL LETTER F WITH HOOKĆCAPITAL LETT",
    "ER G WITH HOOKĖAMMAĆSMALL LETTER HVĆCAPITAL LETTER IOTAĖ WITH STROKEĕK WITH HOOKĆSMALL LETTER K ",
    "WITH HOOKēL WITH BARĔAMBDA WITH STROKEĆCAPITAL LETTER TURNED MĕN WITH LEFT HOOKĆSMALL LETTER N W",
    "ITH LONG RIGHT LEGĆCAPITAL LETTER O WITH MIDDLE TILDEĜHORNĆSMALL LETTER O WITH HORNĆCAPITAL LETT",
    "ER OIĆSMALL LETTER OIĆCAPITAL LETTER P WITH HOOKĆSMALL LETTER P WITH HOOKĆLETTER YRĆCAPITAL LETT",
    "ER TONE TWOĆSMALL LETTER TONE TWOĆCAPITAL LETTER ESHĆLETTER REVERSED ESH LOOPĆSMALL LETTER T WIT",
    "H PALATAL HOOKĆCAPITAL LETTER T WITH HOOKĆSMALL LETTER T WITH HOOKĆCAPITAL LETTER T WITH RETROFL",
    "EX HOOKĕU WITH HORNĆSMALL LETTER U WITH HORNĆCAPITAL LETTER UPSILONĕV WITH HOOKĕY WITH HOOKĆSMAL",
    "L LETTER Y WITH HOOKĆCAPITAL LETTER Z WITH STROKEĆSMALL LETTER Z WITH STROKEĆCAPITAL LETTER EZHĘ",
    " REVERSEDĆSMALL LETTER EZH REVERSEDėWITH TAILĆLETTER TWO WITH STROKEĆCAPITAL LETTER TONE FIVEĆSM",
    "ALL LETTER TONE FIVEĆLETTER INVERTED GLOTTAL STOP WITH STROKEčWYNNčDENTAL CLICKčLATERAL CLICKčAL",
    "VEOLAR CLICKčRETROFLEX CLICKĆCAPITAL LETTER DZ WITH CARONĖ WITH SMALL LETTER Z WITH CARONĆSMALL ",
    "LETTER DZ WITH CARONĆCAPITAL LETTER LJĖ WITH SMALL LETTER JĆSMALL LETTER LJĆCAPITAL LETTER NJĖ W",
    "ITH SMALL LETTER JĆSMALL LETTER NJĆCAPITAL LETTER A WITH CARONĆSMALL LETTER A WITH CARONĆCAPITAL",
    " LETTER I WITH CARONĆSMALL LETTER I WITH CARONĆCAPITAL LETTER O WITH CARONĆSMALL LETTER O WITH C",
    "ARONĆCAPITAL LETTER U WITH CARONĆSMALL LETTER U WITH CARONĆCAPITAL LETTER U WITH DIAERESIS AND M",
    "ACRONĆSMALL LETTER U WITH DIAERESIS AND MACRONĆCAPITAL LETTER U WITH DIAERESIS AND ACUTEĆSMALL L",
    "ETTER U WITH DIAERESIS AND ACUTEĆCAPITAL LETTER U WITH DIAERESIS AND CARONĆSMALL LETTER U WITH D",
    "IAERESIS AND CARONĆCAPITAL LETTER U WITH DIAERESIS AND GRAVEĆSMALL LETTER U WITH DIAERESIS AND G",
    "RAVEēTURNED EĆCAPITAL LETTER A WITH DIAERESIS AND MACRONĆSMALL LETTER A WITH DIAERESIS AND MACRO",
    "NĆCAPITAL LETTER A WITH DOT ABOVE AND MACRONĆSMALL LETTER A WITH DOT ABOVE AND MACRONĆCAPITAL LE",
    "TTER AE WITH MACRONĆSMALL LETTER AE WITH MACRONĆCAPITAL LETTER G WITH STROKEĆSMALL LETTER G WITH",
    " STROKEĆCAPITAL LETTER G WITH CARONĆSMALL LETTER G WITH CARONĆCAPITAL LETTER K WITH CARONĆSMALL ",
    "LETTER K WITH CARONĆCAPITAL LETTER O WITH OGONEKĆSMALL LETTER O WITH OGONEKĆCAPITAL LETTER O WIT",
    "H OGONEK AND MACRONĆSMALL LETTER O WITH OGONEK AND MACRONĆCAPITAL LETTER EZH WITH CARONĆSMALL LE",
    "TTER EZH WITH CARONēJ WITH CARONĆCAPITAL LETTER DZĖ WITH SMALL LETTER ZĆSMALL LETTER DZĆCAPITAL ",
    "LETTER G WITH ACUTEĆSMALL LETTER G WITH ACUTEĆCAPITAL LETTER HWAIRĕWYNNĕN WITH GRAVEĆSMALL LETTE",
    "R N WITH GRAVEĆCAPITAL LETTER A WITH RING ABOVE AND ACUTEĆSMALL LETTER A WITH RING ABOVE AND ACU",
    "TEĆCAPITAL LETTER AE WITH ACUTEĆSMALL LETTER AE WITH ACUTEĆCAPITAL LETTER O WITH STROKE AND ACUT",
    "EĆSMALL LETTER O WITH STROKE AND ACUTEĆCAPITAL LETTER A WITH DOUBLE GRAVEĆSMALL LETTER A WITH DO",
    "UBLE GRAVEĆCAPITAL LETTER A WITH INVERTED BREVEĆSMALL LETTER A WITH INVERTED BREVEĆCAPITAL LETTE",
    "R E WITH DOUBLE GRAVEĆSMALL LETTER E WITH DOUBLE GRAVEĆCAPITAL LETTER E WITH INVERTED BREVEĆSMAL",
    "L LETTER E WITH INVERTED BREVEĆCAPITAL LETTER I WITH DOUBLE GRAVEĆSMALL LETTER I WITH DOUBLE GRA",
    "VEĆCAPITAL LETTER I WITH INVERTED BREVEĆSMALL LETTER I WITH INVERTED BREVEĆCAPITAL LETTER O WITH",
    " DOUBLE GRAVEĆSMALL LETTER O WITH DOUBLE GRAVEĆCAPITAL LETTER O WITH INVERTED BREVEĆSMALL LETTER",
    " O WITH INVERTED BREVEĆCAPITAL LETTER R WITH DOUBLE GRAVEĆSMALL LETTER R WITH DOUBLE GRAVEĆCAPIT",
    "AL LETTER R WITH INVERTED BREVEĆSMALL LETTER R WITH INVERTED BREVEĆCAPITAL LETTER U WITH DOUBLE ",
    "GRAVEĆSMALL LETTER U WITH DOUBLE GRAVEĆCAPITAL LETTER U WITH INVERTED BREVEĆSMALL LETTER U WITH ",
    "INVERTED BREVEĆCAPITAL LETTER S WITH COMMA BELOWĆSMALL LETTER S WITH COMMA BELOWĆCAPITAL LETTER ",
    "T WITH COMMA BELOWĆSMALL LETTER T WITH COMMA BELOWĆCAPITAL LETTER YOGHĆSMALL LETTER YOGHĆCAPITAL",
    " LETTER H WITH CARONĆSMALL LETTER H WITH CARONĆCAPITAL LETTER N WITH LONG RIGHT LEGĆSMALL LETTER"],
  String.join [
    " D WITH CURLĆCAPITAL LETTER OUĆSMALL LETTER OUĆCAPITAL LETTER Z WITH HOOKĆSMALL LETTER Z WITH HO",
    "OKĆCAPITAL LETTER A WITH DOT ABOVEĆSMALL LETTER A WITH DOT ABOVEĆCAPITAL LETTER E WITH CEDILLAĆS",
    "MALL LETTER E WITH CEDILLAĆCAPITAL LETTER O WITH DIAERESIS AND MACRONĆSMALL LETTER O WITH DIAERE",
    "SIS AND MACRONĆCAPITAL LETTER O WITH TILDE AND MACRONĆSMALL LETTER O WITH TILDE AND MACRONĆCAPIT",
    "AL LETTER O WITH DOT ABOVEĆSMALL LETTER O WITH DOT ABOVEĆCAPITAL LETTER O WITH DOT ABOVE AND MAC",
    "RONĆSMALL LETTER O WITH DOT ABOVE AND MACRONĆCAPITAL LETTER Y WITH MACRONĆSMALL LETTER Y WITH MA",
    "CRONēL WITH CURLēN WITH CURLēT WITH CURLēDOTLESS JĔB DIGRAPHēQP DIGRAPHĆCAPITAL LETTER A WITH ST",
    "ROKEĕC WITH STROKEĆSMALL LETTER C WITH STROKEĆCAPITAL LETTER L WITH BARĕT WITH DIAGONAL STROKEĆS",
    "MALL LETTER S WITH SWASH TAILēZ WITH SWASH TAILĆCAPITAL LETTER GLOTTAL STOPĆSMALL LETTER GLOTTAL",
    " STOPĆCAPITAL LETTER B WITH STROKEĕU BARĕTURNED VĕE WITH STROKEĆSMALL LETTER E WITH STROKEĆCAPIT",
    "AL LETTER J WITH STROKEĆSMALL LETTER J WITH STROKEĆCAPITAL LETTER SMALL Q WITH HOOK TAILĆSMALL L",
    "ETTER Q WITH HOOK TAILĆCAPITAL LETTER R WITH STROKEĆSMALL LETTER R WITH STROKEĆCAPITAL LETTER Y ",
    "WITH STROKEĆSMALL LETTER Y WITH STROKEēTURNED AēALPHAēTURNED ALPHAēB WITH HOOKēOPEN OēC WITH CUR",
    "LēD WITH TAILĚHOOKēREVERSED EēSCHWAĘ WITH HOOKēOPEN EēREVERSED OPEN EĢ WITH HOOKēCLOSED REVERSED",
    " OPEN EēDOTLESS J WITH STROKEēG WITH HOOKēSCRIPT GĆLETTER SMALL CAPITAL GĆSMALL LETTER GAMMAēRAM",
    "S HORNēTURNED HēH WITH HOOKĔENG WITH HOOKēI WITH STROKEĔOTAĆLETTER SMALL CAPITAL IĆSMALL LETTER ",
    "L WITH MIDDLE TILDEĚBELTĚRETROFLEX HOOKĔEZHēTURNED Mě WITH LONG LEGēM WITH HOOKēN WITH LEFT HOOK",
    "ĚRETROFLEX HOOKĆLETTER SMALL CAPITAL NĆSMALL LETTER BARRED OĆLETTER SMALL CAPITAL OEĆSMALL LETTE",
    "R CLOSED OMEGAēPHIēTURNED Rě WITH LONG LEGġHOOKēR WITH LONG LEGĚTAILĚFISHHOOKĔEVERSED R WITH FIS",
    "HHOOKĆLETTER SMALL CAPITAL RěINVERTED RĆSMALL LETTER S WITH HOOKēESHēDOTLESS J WITH STROKE AND H",
    "OOKēSQUAT REVERSED ESHēESH WITH CURLēTURNED TĔ WITH RETROFLEX HOOKēU BARĔPSILONēV WITH HOOKēTURN",
    "ED VĚWĚYĆLETTER SMALL CAPITAL YĆSMALL LETTER Z WITH RETROFLEX HOOKĚCURLēEZHĖ WITH CURLĆLETTER GL",
    "OTTAL STOPčPHARYNGEAL VOICED FRICATIVEčINVERTED GLOTTAL STOPčSTRETCHED CčBILABIAL CLICKčSMALL CA",
    "PITAL BĆSMALL LETTER CLOSED OPEN EĆLETTER SMALL CAPITAL G WITH HOOKěHĆSMALL LETTER J WITH CROSSE",
    "D-TAILēTURNED KĆLETTER SMALL CAPITAL LĆSMALL LETTER Q WITH HOOKĆLETTER GLOTTAL STOP WITH STROKEč",
    "REVERSED GLOTTAL STOP WITH STROKEĆSMALL LETTER DZ DIGRAPHĔEZH DIGRAPHĔZ DIGRAPH WITH CURLēTS DIG",
    "RAPHĔESH DIGRAPHĔC DIGRAPH WITH CURLēFENG DIGRAPHēLS DIGRAPHĔZ DIGRAPHĆLETTER BILABIAL PERCUSSIV",
    "EďDENTAL PERCUSSIVEĆSMALL LETTER TURNED H WITH FISHHOOKĩ AND TAILĀMODIFIER LETTER SMALL Hė WITH ",
    "HOOKĖJĖRĖTURNED RĞ WITH HOOKĖCAPITAL INVERTED RĖWĖYĐPRIMEĐDOUBLE PRIMEĐTURNED COMMAĐAPOSTROPHEĐR",
    "EVERSED COMMAđIGHT HALF RINGĐLEFT HALF RINGĐGLOTTAL STOPĐREVERSED GLOTTAL STOPĐLEFT ARROWHEADĐRI",
    "GHT ARROWHEADĐUP ARROWHEADĐDOWN ARROWHEADĐCIRCUMFLEX ACCENTĀCARONĀMODIFIER LETTER VERTICAL LINEĐ",
    "MACRONĐACUTE ACCENTĐGRAVE ACCENTĐLOW VERTICAL LINEĔMACRONĔGRAVE ACCENTĔACUTE ACCENTĐTRIANGULAR C",
    "OLONĐHALF TRIANGULAR COLONĐCENTRED RIGHT HALF RINGĘLEFT HALF RINGĐUP TACKĐDOWN TACKĐPLUS SIGNĐMI",
    "NUS SIGNĀBREVEĀDOT ABOVEĀRING ABOVEĀOGONEKĀSMALL TILDEĀDOUBLE ACUTE ACCENTĀMODIFIER LETTER RHOTI",
    "C HOOKĐCROSS ACCENTĐSMALL GAMMAĖLĖSĖXĖREVERSED GLOTTAL STOPĐEXTRA-HIGH TONE BARĐHIGH TONE BARĐMI",
    "D TONE BARĐLOW TONE BARĐEXTRA-LOW TONE BARĐYIN DEPARTING TONE MARKđANG DEPARTING TONE MARKĐVOICI",
    "NGĐUNASPIRATEDĐDOUBLE APOSTROPHEĐLOW DOWN ARROWHEADĔUP ARROWHEADĔLEFT ARROWHEADĔRIGHT ARROWHEADĖ",
    "NGĐMIDDLE GRAVE ACCENTėDOUBLE GRAVE ACCENTĞACUTE ACCENTĐLOW TILDEĐRAISED COLONĐBEGIN HIGH TONEĐE",
    "ND HIGH TONEĐBEGIN LOW TONEĐEND LOW TONEĐSHELFĐOPEN SHELFĐLOW LEFT ARROWĀCOMBINING GRAVE ACCENTĊ",
    "ACUTE ACCENTĊCIRCUMFLEX ACCENTĊTILDEĊMACRONĊOVERLINEĊBREVEĊDOT ABOVEċIAERESISĊHOOK ABOVEĊRING AB",
    "OVEĊDOUBLE ACUTE ACCENTĊCARONĊVERTICAL LINE ABOVEĊDOUBLE VERTICAL LINE ABOVEđGRAVE ACCENTĊCANDRA",
    "BINDUĊINVERTED BREVEĊTURNED COMMA ABOVEĊCOMMA ABOVEĊREVERSED COMMA ABOVEĊCOMMA ABOVE RIGHTĊGRAVE",
    " ACCENT BELOWĊACUTE ACCENT BELOWĊLEFT TACK BELOWĊRIGHT TACK BELOWĊLEFT ANGLE ABOVEĊHORNĊLEFT HAL",
    "F RING BELOWĊUP TACK BELOWĊDOWN TACK BELOWĊPLUS SIGN BELOWĊMINUS SIGN BELOWĊPALATALIZED HOOK BEL",
    "OWĊRETROFLEX HOOK BELOWĊDOT BELOWċIAERESIS BELOWĊRING BELOWĊCOMMA BELOWċEDILLAĊOGONEKĊVERTICAL L",
    "INE BELOWĊBRIDGE BELOWĊINVERTED DOUBLE ARCH BELOWĊCARON BELOWċIRCUMFLEX ACCENT BELOWĊBREVE BELOW",
    "ĊINVERTED BREVE BELOWĊTILDE BELOWĊMACRON BELOWĊLOW LINEĊDOUBLE LOW LINEĊTILDE OVERLAYĊSHORT STRO",
    "KE OVERLAYĊLONG STROKE OVERLAYĊSHORT SOLIDUS OVERLAYĊLONG SOLIDUS OVERLAYĊRIGHT HALF RING BELOWĊ",
    "INVERTED BRIDGE BELOWĊSQUARE BELOWċEAGULL BELOWĊX ABOVEĊVERTICAL TILDEĊDOUBLE OVERLINEĊGRAVE TON",
    "E MARKĊACUTE TONE MARKĊGREEK PERISPOMENIĐKORONISĐDIALYTIKA TONOSĐYPOGEGRAMMENIĊBRIDGE ABOVEĊEQUA",
    "LS SIGN BELOWĊDOUBLE VERTICAL LINE BELOWĊLEFT ANGLE BELOWĊNOT TILDE ABOVEĊHOMOTHETIC ABOVEĊALMOS",
    "T EQUAL TO ABOVEĊLEFT RIGHT ARROW BELOWĊUPWARDS ARROW BELOWĊGRAPHEME JOINERĊRIGHT ARROWHEAD ABOV",
    "EĊLEFT HALF RING ABOVEĊFERMATAĊX BELOWĊLEFT ARROWHEAD BELOWĊRIGHT ARROWHEAD BELOWĚAND UP ARROWHE",
    "AD BELOWĐHALF RING ABOVEĊDOT ABOVE RIGHTĊASTERISK BELOWĊDOUBLE RING BELOWĊZIGZAG ABOVEĊDOUBLE BR",
    "EVE BELOWĖđMACRONė BELOWđTILDEđINVERTED BREVEđRIGHTWARDS ARROW BELOWĊLATIN SMALL LETTER AĝEĝIĝOĝ",
    "UĝCĝDĝHĝMĝRĝTĝVĝXĀGREEK CAPITAL LETTER HETAĆSMALL LETTER HETAĆCAPITAL LETTER ARCHAIC SAMPIĆSMALL",
    " LETTER ARCHAIC SAMPIĆNUMERAL SIGNĆLOWER NUMERAL SIGNĆCAPITAL LETTER PAMPHYLIAN DIGAMMAĆSMALL LE",
    "TTER PAMPHYLIAN DIGAMMA@37AĆYPOGEGRAMMENIĆSMALL REVERSED LUNATE SIGMA SYMBOLČDOTTED LUNATE SIGMA",
    " SYMBOLČREVERSED DOTTED LUNATE SIGMA SYMBOLĆQUESTION MARKĆCAPITAL LETTER YOT@384ĆTONOSĆDIALYTIKA",
    " TONOSĆCAPITAL LETTER ALPHA WITH TONOSĆANO TELEIAĆCAPITAL LETTER EPSILON WITH TONOSĖTA WITH TONO",
    "SĕIOTA WITH TONOS@38CĕOMICRON WITH TONOS@38EĕUPSILON WITH TONOSĕOMEGA WITH TONOSĆSMALL LETTER IO",
    "TA WITH DIALYTIKA AND TONOSĆCAPITAL LETTER ALPHAĕBETAĕGAMMAĕDELTAĕEPSILONĕZETAĕETAĕTHETAĕIOTAĕKA",
    "PPAĕLAMDAĕMUĕNUĕXIĕOMICRONĕPIĕRHO@3A3ĕSIGMAĕTAUĕUPSILONĕPHIĕCHIĕPSIĕOMEGAĕIOTA WITH DIALYTIKAĕUP",
    "SILON WITH DIALYTIKAĆSMALL LETTER ALPHA WITH TONOSēEPSILON WITH TONOSĔTA WITH TONOSēIOTA WITH TO",
    "NOSēUPSILON WITH DIALYTIKA AND TONOSēALPHAēBETAēGAMMAēDELTAēEPSILONēZETAēETAēTHETAēIOTAēKAPPAēLA",
    "MDAēMUēNUēXIēOMICRONēPIēRHOēFINAL SIGMAēSIGMAēTAUēUPSILONēPHIēCHIēPSIēOMEGAēIOTA WITH DIALYTIKAē",
    "UPSILON WITH DIALYTIKAēOMICRON WITH TONOSēUPSILON WITH TONOSēOMEGA WITH TONOSĆCAPITAL KAI SYMBOL",
    "ĆBETA SYMBOLĆTHETA SYMBOLĆUPSILON WITH HOOK SYMBOLēACUTE AND HOOK SYMBOLēDIAERESIS AND HOOK SYMB",
    "OLĆPHI SYMBOLćI SYMBOLĆKAI SYMBOLĆLETTER ARCHAIC KOPPAĆSMALL LETTER ARCHAIC KOPPAĆLETTER STIGMAĆ",
    "SMALL LETTER STIGMAĆLETTER DIGAMMAĆSMALL LETTER DIGAMMAĆLETTER KOPPAĆSMALL LETTER KOPPAĆLETTER S",
    "AMPIĆSMALL LETTER SAMPIĀCOPTIC CAPITAL LETTER SHEIćSMALL LETTER SHEIćCAPITAL LETTER FEIćSMALL LE",
    "TTER FEIćCAPITAL LETTER KHEIćSMALL LETTER KHEIćCAPITAL LETTER HORIćSMALL LETTER HORIćCAPITAL LET",
    "TER GANGIAćSMALL LETTER GANGIAćCAPITAL LETTER SHIMAćSMALL LETTER SHIMAćCAPITAL LETTER DEIćSMALL ",
    "LETTER DEIĀGREEK KAPPA SYMBOLĆRHO SYMBOLĆLUNATE SIGMA SYMBOLćETTER YOTĆCAPITAL THETA SYMBOLĆLUNA",
    "TE EPSILON SYMBOLĆREVERSED LUNATE EPSILON SYMBOLĆCAPITAL LETTER SHOĆSMALL LETTER SHOĆCAPITAL LUN",
    "ATE SIGMA SYMBOLďETTER SANĆSMALL LETTER SANĆRHO WITH STROKE SYMBOLĆCAPITAL REVERSED LUNATE SIGMA",
    " SYMBOLĎDOTTED LUNATE SIGMA SYMBOLĎREVERSED DOTTED LUNATE SIGMA SYMBOLĀCYRILLIC CAPITAL LETTER I",
    "E WITH GRAVEęOĘDJEĘGJEĘUKRAINIAN IEĘDZEĘBYELORUSSIAN-UKRAINIAN IĘYIĘJEĘLJEĘNJEĘTSHEĘKJEĘI WITH G",
    "RAVEĘSHORT UĘDZHEĘAĘBEĘVEĘGHEĘDEĘIEĘZHEęEĘIĘSHORT IĘKAĘELęMęNĘOĘPEĘERęSĘTEĘUĘEFĘHAĘTSEĘCHEĘSHAĚC",
    "HAĘHARD SIGNĘYERUĘSOFT SIGNĘEĘYUęAĉSMALL LETTER AĖBEĖVEĖGHEĖDEĖIEĖZHEėEĖIĖSHORT IĖKAĖELėMėNĖOĖPE",
    "ĖERėSĖTEĖUĖEFĖHAĖTSEĖCHEĖSHAĘCHAĖHARD SIGNĖYERUĖSOFT SIGNĖEĖYUėAĖIE WITH GRAVEėOĖDJEĖGJEĖUKRAINI",
    "AN IEĖDZEĖBYELORUSSIAN-UKRAINIAN IĖYIĖJEĖLJEĖNJEĖTSHEĖKJEĖI WITH GRAVEĖSHORT UĖDZHEĉCAPITAL LETT",
    "ER OMEGAĉSMALL LETTER OMEGAĉCAPITAL LETTER YATĉSMALL LETTER YATĉCAPITAL LETTER IOTIFIED EĉSMALL ",
    "LETTER IOTIFIED EĉCAPITAL LETTER LITTLE YUSĉSMALL LETTER LITTLE YUSĉCAPITAL LETTER IOTIFIED LITT",
    "LE YUSĉSMALL LETTER IOTIFIED LITTLE YUSĉCAPITAL LETTER BIG YUSĉSMALL LETTER BIG YUSĉCAPITAL LETT",
    "ER IOTIFIED BIG YUSĉSMALL LETTER IOTIFIED BIG YUSĉCAPITAL LETTER KSIĉSMALL LETTER KSIĉCAPITAL LE",
    "TTER PSIĉSMALL LETTER PSIĉCAPITAL LETTER FITAĉSMALL LETTER FITAĉCAPITAL LETTER IZHITSAĉSMALL LET",
    "TER IZHITSAĉCAPITAL LETTER IZHITSA WITH DOUBLE GRAVE ACCENTĉSMALL LETTER IZHITSA WITH DOUBLE GRA",
    "VE ACCENTĉCAPITAL LETTER UKĉSMALL LETTER UKĉCAPITAL LETTER ROUND OMEGAĉSMALL LETTER ROUND OMEGAĉ",
    "CAPITAL LETTER OMEGA WITH TITLOĉSMALL LETTER OMEGA WITH TITLOĉCAPITAL LETTER OTĉSMALL LETTER OTĉ",
    "CAPITAL LETTER KOPPAĉSMALL LETTER KOPPAĉTHOUSANDS SIGNāOMBINING CYRILLIC TITLOēPALATALIZATIONēDA",
    "SIA PNEUMATAēPSILI PNEUMATAĔOKRYTIEēHUNDRED THOUSANDS SIGNēMILLIONS SIGNāYRILLIC CAPITAL LETTER ",
    "SHORT I WITH TAILĉSMALL LETTER SHORT I WITH TAILĉCAPITAL LETTER SEMISOFT SIGNĉSMALL LETTER SEMIS",
    "OFT SIGNĉCAPITAL LETTER ER WITH TICKĉSMALL LETTER ER WITH TICKĉCAPITAL LETTER GHE WITH UPTURNĉSM",
    "ALL LETTER GHE WITH UPTURNĉCAPITAL LETTER GHE WITH STROKEĉSMALL LETTER GHE WITH STROKEĉCAPITAL L",
    "ETTER GHE WITH MIDDLE HOOKĉSMALL LETTER GHE WITH MIDDLE HOOKĉCAPITAL LETTER ZHE WITH DESCENDERĉS",
    "MALL LETTER ZHE WITH DESCENDERĉCAPITAL LETTER ZE WITH DESCENDERĉSMALL LETTER ZE WITH DESCENDERĉC",
    "APITAL LETTER KA WITH DESCENDERĉSMALL LETTER KA WITH DESCENDERĉCAPITAL LETTER KA WITH VERTICAL S",
    "TROKEĉSMALL LETTER KA WITH VERTICAL STROKEĉCAPITAL LETTER KA WITH STROKEĉSMALL LETTER KA WITH ST",
    "ROKEĉCAPITAL LETTER BASHKIR KAĉSMALL LETTER BASHKIR KAĉCAPITAL LETTER EN WITH DESCENDERĉSMALL LE"],
  String.join [
    "TTER EN WITH DESCENDERĉCAPITAL LIGATURE EN GHEĉSMALL LIGATURE EN GHEĉCAPITAL LETTER PE WITH MIDD",
    "LE HOOKĉSMALL LETTER PE WITH MIDDLE HOOKĉCAPITAL LETTER ABKHASIAN HAĉSMALL LETTER ABKHASIAN HAĉC",
    "APITAL LETTER ES WITH DESCENDERĉSMALL LETTER ES WITH DESCENDERĉCAPITAL LETTER TE WITH DESCENDERĉ",
    "SMALL LETTER TE WITH DESCENDERĉCAPITAL LETTER STRAIGHT UĉSMALL LETTER STRAIGHT UĉCAPITAL LETTER ",
    "STRAIGHT U WITH STROKEĉSMALL LETTER STRAIGHT U WITH STROKEĉCAPITAL LETTER HA WITH DESCENDERĉSMAL",
    "L LETTER HA WITH DESCENDERĉCAPITAL LIGATURE TE TSEĉSMALL LIGATURE TE TSEĉCAPITAL LETTER CHE WITH",
    " DESCENDERĉSMALL LETTER CHE WITH DESCENDERĉCAPITAL LETTER CHE WITH VERTICAL STROKEĉSMALL LETTER ",
    "CHE WITH VERTICAL STROKEĉCAPITAL LETTER SHHAĉSMALL LETTER SHHAĉCAPITAL LETTER ABKHASIAN CHEĉSMAL",
    "L LETTER ABKHASIAN CHEĉCAPITAL LETTER ABKHASIAN CHE WITH DESCENDERĉSMALL LETTER ABKHASIAN CHE WI",
    "TH DESCENDERĉLETTER PALOCHKAĉCAPITAL LETTER ZHE WITH BREVEĉSMALL LETTER ZHE WITH BREVEĉCAPITAL L",
    "ETTER KA WITH HOOKĉSMALL LETTER KA WITH HOOKĉCAPITAL LETTER EL WITH TAILĉSMALL LETTER EL WITH TA",
    "ILĉCAPITAL LETTER EN WITH HOOKĉSMALL LETTER EN WITH HOOKĉCAPITAL LETTER EN WITH TAILĉSMALL LETTE",
    "R EN WITH TAILĉCAPITAL LETTER KHAKASSIAN CHEĉSMALL LETTER KHAKASSIAN CHEĉCAPITAL LETTER EM WITH ",
    "TAILĉSMALL LETTER EM WITH TAILĖPALOCHKAĉCAPITAL LETTER A WITH BREVEĉSMALL LETTER A WITH BREVEĉCA",
    "PITAL LETTER A WITH DIAERESISĉSMALL LETTER A WITH DIAERESISĉCAPITAL LIGATURE A IEĉSMALL LIGATURE",
    " A IEĉCAPITAL LETTER IE WITH BREVEĉSMALL LETTER IE WITH BREVEĉCAPITAL LETTER SCHWAĉSMALL LETTER ",
    "SCHWAĉCAPITAL LETTER SCHWA WITH DIAERESISĉSMALL LETTER SCHWA WITH DIAERESISĉCAPITAL LETTER ZHE W",
    "ITH DIAERESISĉSMALL LETTER ZHE WITH DIAERESISĉCAPITAL LETTER ZE WITH DIAERESISĉSMALL LETTER ZE W",
    "ITH DIAERESISĉCAPITAL LETTER ABKHASIAN DZEĉSMALL LETTER ABKHASIAN DZEĉCAPITAL LETTER I WITH MACR",
    "ONĉSMALL LETTER I WITH MACRONĉCAPITAL LETTER I WITH DIAERESISĉSMALL LETTER I WITH DIAERESISĉCAPI",
    "TAL LETTER O WITH DIAERESISĉSMALL LETTER O WITH DIAERESISĉCAPITAL LETTER BARRED OĉSMALL LETTER B",
    "ARRED OĉCAPITAL LETTER BARRED O WITH DIAERESISĉSMALL LETTER BARRED O WITH DIAERESISĉCAPITAL LETT",
    "ER E WITH DIAERESISĉSMALL LETTER E WITH DIAERESISĉCAPITAL LETTER U WITH MACRONĉSMALL LETTER U WI",
    "TH MACRONĉCAPITAL LETTER U WITH DIAERESISĉSMALL LETTER U WITH DIAERESISĉCAPITAL LETTER U WITH DO",
    "UBLE ACUTEĉSMALL LETTER U WITH DOUBLE ACUTEĉCAPITAL LETTER CHE WITH DIAERESISĉSMALL LETTER CHE W",
    "ITH DIAERESISĉCAPITAL LETTER GHE WITH DESCENDERĉSMALL LETTER GHE WITH DESCENDERĉCAPITAL LETTER Y",
    "ERU WITH DIAERESISĉSMALL LETTER YERU WITH DIAERESISĉCAPITAL LETTER GHE WITH STROKE AND HOOKĉSMAL",
    "L LETTER GHE WITH STROKE AND HOOKĉCAPITAL LETTER HA WITH HOOKĉSMALL LETTER HA WITH HOOKĉCAPITAL ",
    "LETTER HA WITH STROKEĉSMALL LETTER HA WITH STROKEĉCAPITAL LETTER KOMI DEĉSMALL LETTER KOMI DEĉCA",
    "PITAL LETTER KOMI DJEĉSMALL LETTER KOMI DJEĉCAPITAL LETTER KOMI ZJEĉSMALL LETTER KOMI ZJEĉCAPITA",
    "L LETTER KOMI DZJEĉSMALL LETTER KOMI DZJEĉCAPITAL LETTER KOMI LJEĉSMALL LETTER KOMI LJEĉCAPITAL ",
    "LETTER KOMI NJEĉSMALL LETTER KOMI NJEĉCAPITAL LETTER KOMI SJEĉSMALL LETTER KOMI SJEĉCAPITAL LETT",
    "ER KOMI TJEĉSMALL LETTER KOMI TJEĉCAPITAL LETTER REVERSED ZEĉSMALL LETTER REVERSED ZEĉCAPITAL LE",
    "TTER EL WITH HOOKĉSMALL LETTER EL WITH HOOKĉCAPITAL LETTER LHAĉSMALL LETTER LHAĉCAPITAL LETTER R",
    "HAĉSMALL LETTER RHAĉCAPITAL LETTER YAEĉSMALL LETTER YAEĉCAPITAL LETTER QAĉSMALL LETTER QAĉCAPITA",
    "L LETTER WEĉSMALL LETTER WEĉCAPITAL LETTER ALEUT KAĉSMALL LETTER ALEUT KAĉCAPITAL LETTER EL WITH",
    " MIDDLE HOOKĉSMALL LETTER EL WITH MIDDLE HOOKĉCAPITAL LETTER EN WITH MIDDLE HOOKĉSMALL LETTER EN",
    " WITH MIDDLE HOOKĉCAPITAL LETTER PE WITH DESCENDERĉSMALL LETTER PE WITH DESCENDERĉCAPITAL LETTER",
    " SHHA WITH DESCENDERĉSMALL LETTER SHHA WITH DESCENDERĉCAPITAL LETTER EN WITH LEFT HOOKĉSMALL LET",
    "TER EN WITH LEFT HOOKĉCAPITAL LETTER DZZHEĉSMALL LETTER DZZHEĉCAPITAL LETTER DCHEĉSMALL LETTER D",
    "CHEĉCAPITAL LETTER EL WITH DESCENDERĉSMALL LETTER EL WITH DESCENDER@531ĀARMENIAN CAPITAL LETTER ",
    "AYBĘBENĘGIMĘDAĘECHĘZAĘEHęTĘTOĘZHEĘINIĘLIWNĘXEHĘCAĘKENĘHOĘJAĘGHADĘCHEHĘMENĘYIĘNOWĘSHAĘVOĘCHAĘPEHĘ",
    "JHEHĘRAĘSEHĘVEWĘTIWNĘREHĘCOĘYIWNĘPIWRĘKEHĘOHĘFEH@559ĉMODIFIER LETTER LEFT HALF RINGĉAPOSTROPHEĉE",
    "MPHASIS MARKĊXCLAMATION MARKĉCOMMAĉQUESTION MARKĉABBREVIATION MARKĉSMALL LETTER TURNED AYBĖAYBĖB",
    "ENĖGIMĖDAĖECHĖZAĖEHėTĖTOĖZHEĖINIĖLIWNĖXEHĖCAĖKENĖHOĖJAĖGHADĖCHEHĖMENĖYIĖNOWĖSHAĖVOĖCHAĖPEHĖJHEHĖ",
    "RAĖSEHĖVEWĖTIWNĖREHĖCOĖYIWNĖPIWRĖKEHĖOHĖFEHĐIGATURE ECH YIWNĐETTER YI WITH STROKEĉFULL STOPĉHYPH",
    "EN@58DĀRIGHT-FACING ARMENIAN ETERNITY SIGNĀLEFT-FACING ARMENIAN ETERNITY SIGNĀARMENIAN DRAM SIGN",
    "@591ĀHEBREW ACCENT ETNAHTAĎSEGOLďHALSHELETĎZAQEF QATANĔGADOLĎTIPEHAĎREVIAĎZARQAĎPASHTAĎYETIVĎTEV",
    "IRĎGERESHĔ MUQDAMđSHAYIMĎQARNEY PARAĎTELISHA GEDOLAĎPAZERĎATNAH HAFUKHĎMUNAHďAHAPAKHďERKHAĔ KEFU",
    "LAĎDARGAĎQADMAĎTELISHA QETANAĎYERAH BEN YOMOĎOLEĎILUYĎDEHIĎZINORćMARK MASORA CIRCLEćPOINT SHEVAč",
    "HATAF SEGOLēPATAHēQAMATSĎIRIQčTSEREčSEGOLčPATAHčQAMATSčHOLAMĒ HASER FOR VAVčQUBUTSčDAGESH OR MAP",
    "IQčMETEGĈUNCTUATION MAQAFĈOINT RAFEĈUNCTUATION PASEQĈOINT SHIN DOTĎIN DOTĈUNCTUATION SOF PASUQćM",
    "ARK UPPER DOTČLOWER DOTćPUNCTUATION NUN HAFUKHAĈOINT QAMATS QATAN@5D0ćLETTER ALEFĎBETĎGIMELĎDALE",
    "TĎHEĎVAVĎZAYINĎHETĎTETĎYODĎFINAL KAFĎKAFĎLAMEDĎFINAL MEMĎMEMĎFINAL NUNĎNUNĎSAMEKHĎAYINĎFINAL PEĎ",
    "PEĎFINAL TSADIĎTSADIĎQOFĎRESHĎSHINĎTAV@5EFćYOD TRIANGLEćLIGATURE YIDDISH DOUBLE VAVĘVAV YODĘDOUB",
    "LE YODćPUNCTUATION GERESHĖSHAYIM@600ĀARABIC NUMBER SIGNćSIGN SANAHćFOOTNOTE MARKERćSIGN SAFHAĎMV",
    "ATćNUMBER MARK ABOVEĆ-INDIC CUBE ROOTčFOURTH ROOTĆ RAYĆ-INDIC PER MILLE SIGNđTEN THOUSAND SIGNāF",
    "GHANI SIGNāRABIC COMMAćDATE SEPARATORćPOETIC VERSE SIGNćSIGN MISRAČSALLALLAHOU ALAYHE WASSALLAMČ",
    "ALAYHE ASSALLAMČRAHMATULLAH ALAYHEĎDI ALLAHOU ANHUČTAKHALLUSĈMALL HIGH TAHĒLIGATURE ALEF WITH LA",
    "M WITH YEHĒZAINčFATHAčDAMMAčKASRAĈEMICOLONćLETTER MARKćEND OF TEXT MARKćTRIPLE DOT PUNCTUATION M",
    "ARKćQUESTION MARKćLETTER KASHMIRI YEHĎHAMZAĎALEF WITH MADDA ABOVEĘHAMZA ABOVEĎWAW WITH HAMZA ABO",
    "VEĎALEF WITH HAMZA BELOWĎYEH WITH HAMZA ABOVEĎALEFĎBEHĎTEH MARBUTAđďHEHĎJEEMĎHAHĎKHAHĎDALĎTHALĎR",
    "EHĎZAINĎSEENďHEENďADĎDADĎTAHĎZAHĎAINĎGHAINĎKEHEH WITH TWO DOTS ABOVEĚHREE DOTS BELOWĎFARSI YEH W",
    "ITH INVERTED VĝTWO DOTS ABOVEĞHREE DOTS ABOVEćTATWEELćLETTER FEHĎQAFĎKAFĎLAMĎMEEMĎNOONĎHEHĎWAWĎA",
    "LEF MAKSURAĎYEHćFATHATANćDAMMATANćKASRATANćFATHAćDAMMAćKASRAćSHADDAĈUKUNćMADDAH ABOVEćHAMZA ABOV",
    "EčBELOWćSUBSCRIPT ALEFćINVERTED DAMMAćMARK NOON GHUNNAćZWARAKAYćVOWEL SIGN SMALL V ABOVEĒINVERTE",
    "D SMALL V ABOVEĒDOT BELOWćREVERSED DAMMAćFATHA WITH TWO DOTSćWAVY HAMZA BELOWĆ-INDIC DIGIT ZEROē",
    "ONEēTWOĔHREEēFOURĔIVEēSIXĔEVENēEIGHTēNINEĆ PERCENT SIGNćDECIMAL SEPARATORćTHOUSANDS SEPARATORćFI",
    "VE POINTED STARćLETTER DOTLESS BEHĖQAFĎSUPERSCRIPT ALEFĎALEF WASLAĔITH WAVY HAMZA ABOVEģBELOWĎHI",
    "GH HAMZAĘ ALEFęWAWĎU WITH HAMZA ABOVEĎHIGH HAMZA YEHĎTTEHĒEHĎBEEHĎTEH WITH RINGėTHREE DOTS ABOVE",
    " DOWNWARDSĎPEHĎTEHEHĎBEHEHĎHAH WITH HAMZA ABOVEėTWO DOTS VERTICAL ABOVEĎNYEHĎDYEHĎHAH WITH THREE",
    " DOTS ABOVEĎTCHEHēEHĎDDALďAL WITH RINGėDOT BELOWĠ AND SMALL TAHĐHALďDAHALďULďAL WITH THREE DOTS ",
    "ABOVE DOWNWARDSėFOUR DOTS ABOVEĎRREHďEH WITH SMALL VėRINGėDOT BELOWėSMALL V BELOWėDOT BELOW AND ",
    "DOT ABOVEėTWO DOTS ABOVEĎJEHĎREH WITH FOUR DOTS ABOVEĎSEEN WITH DOT BELOW AND DOT ABOVEĘTHREE DO",
    "TS BELOWĨ AND THREE DOTS ABOVEďAD WITH TWO DOTS BELOWĘHREE DOTS ABOVEĎTAH WITH THREE DOTS ABOVEĎ",
    "AIN WITH THREE DOTS ABOVEĎDOTLESS FEHĎFEH WITH DOT MOVED BELOWěBELOWĎVEHĎFEH WITH THREE DOTS BEL",
    "OWĎPEHEHĎQAF WITH DOT ABOVEėTHREE DOTS ABOVEĎKEHEHĎSWASH KAFĎKAF WITH RINGėDOT ABOVEĎNGĎKAF WITH",
    " THREE DOTS BELOWĎGAFđ WITH RINGĎNGOEHĎGAF WITH TWO DOTS BELOWďUEHďAF WITH THREE DOTS ABOVEĎLAM ",
    "WITH SMALL VėDOT ABOVEėTHREE DOTS ABOVEĢBELOWĎNOON WITH DOT BELOWēGHUNNAĎRNOONĎNOON WITH RINGĘTH",
    "REE DOTS ABOVEĎHEH DOACHASHMEEĎTCHEH WITH DOT ABOVEĎHEH WITH YEH ABOVEĒGOALĖ WITH HAMZA ABOVEĎTE",
    "H MARBUTA GOALĎWAW WITH RINGĎKIRGHIZ OEĎOEĎUĎYUĎKIRGHIZ YUĎWAW WITH TWO DOTS ABOVEĎVEĎFARSI YEHĎ",
    "YEH WITH TAILėSMALL VĎWAW WITH DOT ABOVEĎEĎYEH WITH THREE DOTS BELOWĒBARREEĘ WITH HAMZA ABOVEćFU",
    "LL STOPćLETTER AEćSMALL HIGH LIGATURE SAD WITH LAM WITH ALEF MAKSURAěQAF WITH LAM WITH ALEF MAKS",
    "URAĒMEEM INITIAL FORMĒLAM ALEFĒJEEMĒTHREE DOTSĒSEENćEND OF AYAHćSTART OF RUB EL HIZBĈMALL HIGH R",
    "OUNDED ZEROĒUPRIGHT RECTANGULAR ZEROĒDOTLESS HEAD OF KHAHĒMEEM ISOLATED FORMčLOW SEENčHIGH MADDA",
    "čWAWčYEHčHIGH YEHĒNOONćPLACE OF SAJDAHćEMPTY CENTRE LOW STOPĔHIGH STOPćROUNDED HIGH STOP WITH FI",
    "LLED CENTREćSMALL LOW MEEMćLETTER DAL WITH INVERTED VĎREH WITH INVERTED VĀEXTENDED ARABIC-INDIC ",
    "DIGIT ZEROĜONEĜTWOĝHREEĜFOURĝIVEĜSIXĝEVENĜEIGHTĜNINEĀARABIC LETTER SHEEN WITH DOT BELOWĎDAD WITH",
    " DOT BELOWĎGHAIN WITH DOT BELOWćSIGN SINDHI AMPERSANDēPOSTPOSITION MENćLETTER HEH WITH INVERTED ",
    "VĀSYRIAC END OF PARAGRAPHćSUPRALINEAR FULL STOPĉBLINEAR FULL STOPĉPRALINEAR COLONĉBLINEAR COLONć",
    "HORIZONTAL COLONćCOLON SKEWED LEFTĔRIGHTćSUPRALINEAR COLON SKEWED LEFTĉBLINEAR COLON SKEWED RIGH",
    "TćCONTRACTIONćHARKLEAN OBELUSĐMETOBELUSĐASTERISCUS@70FćABBREVIATION MARKćLETTER ALAPHĎSUPERSCRIP",
    "T ALAPHĎBETHĎGAMALē GARSHUNIĎDALATHďOTLESS DALATH RISHĎHEĎWAWĎZAINĎHETHĎTETHĒ GARSHUNIĎYUDHĒ HEĎ",
    "KAPHĎLAMADHĎMIMĎNUNĎSEMKATHĎFINAL SEMKATHĎEĎPEĎREVERSED PEĎSADHEĎQAPHĎRISHĎSHINĎTAWĎPERSIAN BHET",
    "HĖGHAMALĖDHALATHćPTHAHA ABOVEĎBELOWĎDOTTEDćZQAPHA ABOVEĎBELOWĎDOTTEDćRBASA ABOVEčBELOWćDOTTED ZL",
    "AMA HORIZONTALĔANGULARćHBASA ABOVEčBELOWČ-ESASA DOTTEDćESASA ABOVEčBELOWćRWAHAćFEMININE DOTćQUSH",
    "SHAYAćRUKKAKHAćTWO VERTICAL DOTS ABOVEęBELOWĈHREE DOTS ABOVEĒBELOWćOBLIQUE LINE ABOVEĔBELOWćMUSI",
    "CćBARREKH@74DćLETTER SOGDIAN ZHAINĖKHAPHĖFEĀARABIC LETTER BEH WITH THREE DOTS HORIZONTALLY BELOW",
    "ėDOT BELOW AND THREE DOTS ABOVEėTHREE DOTS POINTING UPWARDS BELOWĸ AND TWO DOTS ABOVEĘWO DOTS BE",
    "LOW AND DOT ABOVEėINVERTED SMALL V BELOWėSMALL VĎHAH WITH TWO DOTS ABOVEĘHREE DOTS POINTING UPWA"],
  String.join [
    "RDS BELOWĎDAL WITH TWO DOTS VERTICALLY BELOW AND SMALL TAHėINVERTED SMALL V BELOWĎREH WITH STROK",
    "EĎSEEN WITH FOUR DOTS ABOVEĎAIN WITH TWO DOTS ABOVEĘHREE DOTS POINTING DOWNWARDS ABOVEĘWO DOTS V",
    "ERTICALLY ABOVEĎFEH WITH TWO DOTS BELOWĘHREE DOTS POINTING UPWARDS BELOWĎKEHEH WITH DOT ABOVEęTH",
    "REE DOTS ABOVEĤPOINTING UPWARDS BELOWĎMEEM WITH DOT ABOVEĜBELOWĎNOON WITH TWO DOTS BELOWĘSMALL T",
    "AHĞVĎLAM WITH BARĎREH WITH TWO DOTS VERTICALLY ABOVEėHAMZA ABOVEĎSEEN WITH TWO DOTS VERTICALLY A",
    "BOVEĎHAH WITH SMALL ARABIC LETTER TAH BELOWįAND TWO DOTSĎSEEN WITH SMALL ARABIC LETTER TAH AND T",
    "WO DOTSĎREH WITH SMALL ARABIC LETTER TAH AND TWO DOTSĎHAH WITH SMALL ARABIC LETTER TAH ABOVEĎALE",
    "F WITH EXTENDED ARABIC-INDIC DIGIT TWO ABOVEĵHREE ABOVEĎFARSI YEH WITH EXTENDED ARABIC-INDIC DIG",
    "IT TWO ABOVEĺHREE ABOVEĹFOUR BELOWĎWAW WITH EXTENDED ARABIC-INDIC DIGIT TWO ABOVEĴHREE ABOVEĎYEH",
    " BARREE WITH EXTENDED ARABIC-INDIC DIGIT TWO ABOVEĻHREE ABOVEĎHAH WITH EXTENDED ARABIC-INDIC DIG",
    "IT FOUR BELOWĎSEEN WITH EXTENDED ARABIC-INDIC DIGIT FOUR ABOVEĘINVERTED VĎKAF WITH TWO DOTS ABOV",
    "EĀTHAANA LETTER HAAĎSHAVIYANIĎNOONUĎRAAĎBAAĎLHAVIYANIĎKAAFUĎALIFUĎVAAVUĎMEEMUĎFAAFUĎDHAALUĎTHAAĎ",
    "LAAMUĎGAAFUďNAVIYANIĎSEENUĎDAVIYANIĎZAVIYANIĎTAVIYANIĎYAAĎPAVIYANIĎJAVIYANIĎCHAVIYANIĎTTAAĎHHAAĎ",
    "KHAAĎTHAALUĎZAAĎSHEENUďAADHUĎDAADHUĎTOĎZOĎAINUĎGHAINUĎQAAFUĎWAAVUćABAFILIĈABAAFILIćIBIFILIćEEBEE",
    "FILIćUBUFILIćOOBOOFILIćEBEFILIĈYBEYFILIćOBOFILIĈABOAFILIćSUKUNćLETTER NAA@7C0ĀNKO DIGIT ZEROĊONE",
    "ĊTWOċHREEĊFOURċIVEĊSIXċEVENĊEIGHTĊNINEĄLETTER AċEEċIċEċUċOOČċDAGBASINNAċNċBAċPAċTAċJAċCHAċDAċRAČ",
    "RAċSAċGBAċFAċKAċLAċNA WOLOSOċMAċNYAČAċHAċWAċYAċNYA WOLOSOċJONA JAĐCHAĐRAĄCOMBINING SHORT HIGH TO",
    "NEĔLOW TONEĔRISING TONEĎLONG DESCENDING TONEēHIGH TONEēLOW TONEēRISING TONEĎNASALIZATION MARKĎDO",
    "UBLE DOT ABOVEĄHIGH TONE APOSTROPHEĄLOW TONE APOSTROPHEĄSYMBOL OO DENNENċGBAKURUNENĄCOMMAĄEXCLAM",
    "ATION MARKĄLAJANYALAN@7FDĄDANTAYALANąOROME SIGNĄTAMAN SIGNĀSAMARITAN LETTER ALAFđBITđGAMANđDALAT",
    "đIYđBAAđZENđITđTITđYUTđKAAFđLABATđMIMđNUNđSINGAATđINđFIđTSAADIYđQUFđRISHđSHANđTAAFĊMARK INđ-ALAF",
    "ďOCCLUSIONďDAGESHċODIFIER LETTER EPENTHETIC YUTċARK EPENTHETIC YUTĊVOWEL SIGN LONG EĕEĕOVERLONG ",
    "AAĕLONG AAĕAAĕOVERLONG AĕLONG AĕAĊMODIFIER LETTER SHORT AĊVOWEL SIGN SHORT AĕLONG UĕUĊMODIFIER L",
    "ETTER IĊVOWEL SIGN LONG IĕIĕOĕSUKUNĊMARK NEQUDAA@830ĊPUNCTUATION NEQUDAAĖAFSAAQėNGEDĖBAUĖATMAAUĖ",
    "SHIYYAALAAĊABBREVIATION MARKĊPUNCTUATION MELODIC QITSAĖZIQAAĖQITSAĖZAEFĖTURUĖARKAANUĖSOF MASHFAA",
    "TĖANNAAU@840ĀMANDAIC LETTER HALQAďABĐGĐDĐHďUSHENNAďAZďITďATTĐKSAđĐLĐMĐNĐSďINďAPĐSZĐQĐRĐSHĐTďDUSH",
    "ENNAďKADďAINĈAFFRICATION MARKĈVOCALIZATION MARKĈGEMINATION MARK@85EĈPUNCTUATION@860ĀSYRIAC LETTE",
    "R MALAYALAM NGAĘJAĘNYAĘTTAĘNNAĚNAĘBHAĘRAĘLLAĚLAĘSSA@870ĀARABIC LETTER ALEF WITH ATTACHED FATHAġT",
    "OP RIGHT FATHAĘRIGHT MIDDLE STROKEĘLEFT MIDDLE STROKEĘATTACHED KASRAġBOTTOM RIGHT KASRAġROUND DO",
    "T ABOVEĢIGHT ROUND DOTġLEFT ROUND DOTġROUND DOT BELOWĘDOT ABOVEĘATTACHED TOP RIGHT FATHA AND DOT",
    " ABOVEĘRIGHT MIDDLE STROKE AND DOT ABOVEĘATTACHED BOTTOM RIGHT KASRA AND DOT ABOVEġTOP RIGHT FAT",
    "HA AND LEFT RINGĘRIGHT MIDDLE STROKE AND LEFT RINGĘATTACHED BOTTOM RIGHT KASRA AND LEFT RINGġRIG",
    "HT HAMZAġLEFT HAMZAćTATWEEL WITH OVERSTRUCK HAMZAğWAWĔTWO DOTS BELOWćLETTER THIN YEHćBASELINE RO",
    "UND DOTćRAISED ROUND DOTćLETTER NOON WITH INVERTED SMALL VĎHAH WITH INVERTED SMALL V BELOWĎTAH W",
    "ITH DOT BELOWėTHREE DOTS BELOWĎKEHEH WITH TWO DOTS VERTICALLY BELOWćVERTICAL TAIL@890ćPOUND MARK",
    " ABOVEĈIASTRE MARK ABOVE@898ćSMALL HIGH WORD AL-JUZčLOW WORD ISHMAAMėMAALAĖTASHEELćMADDA WAAJIBć",
    "SUPERSCRIPT ALEF MOKHASSASćDOUBLED MADDAćHALF MADDA OVER MADDAćLETTER BEH WITH SMALL V BELOWėHAM",
    "ZA ABOVEĎJEEM WITH TWO DOTS ABOVEĎTAH WITH TWO DOTS ABOVEĎFEH WITH DOT BELOW AND THREE DOTS ABOV",
    "EĎQAF WITH DOT BELOWĎLAM WITH DOUBLE BARĎMEEM WITH THREE DOTS ABOVEĎYEH WITH TWO DOTS BELOW AND ",
    "HAMZA ABOVEĪDOT ABOVEĎREH WITH LOOPĎWAW WITH DOT WITHINĎROHINGYA YEHĎLOW ALEFĎDAL WITH THREE DOT",
    "S BELOWĎSAD WITH THREE DOTS BELOWĎGAF WITH INVERTED STROKEĎSTRAIGHT WAWĎZAIN WITH INVERTED V ABO",
    "VEĎAIN WITH THREE DOTS BELOWĎKAF WITH DOT BELOWĎQAF WITH DOT BELOW AND NO DOTS ABOVEĎBEH WITH SM",
    "ALL MEEM ABOVEĎPEH WITH SMALL MEEM ABOVEĎTEH WITH SMALL TEH ABOVEĎREH WITH SMALL NOON ABOVEĎYEH ",
    "WITH TWO DOTS BELOW AND SMALL NOON ABOVEĎAFRICAN FEHĖQAFĖNOONĎPEH WITH SMALL VĎTEH WITH SMALL Vď",
    "TEH WITH SMALL VďCHEH WITH SMALL VĎKEHEH WITH SMALL VĎGHAIN WITH THREE DOTS ABOVEĎAFRICAN QAF WI",
    "TH THREE DOTS ABOVEĎJEEM WITH THREE DOTS ABOVEģBELOWĎLAM WITH SMALL ARABIC LETTER TAH ABOVEĎGRAF",
    "ćSMALL FARSI YEHčHIGH FARSI YEHĒYEH BARREE WITH TWO DOTS BELOWĒWORD SAHĒZAHćLARGE ROUND DOT ABOV",
    "EėBELOWćSUKUN BELOWćLARGE CIRCLE BELOWčROUND DOT INSIDE CIRCLE BELOWćSMALL LOW WAWčHIGH WORD AR-",
    "RUBĒSADĒAINĒQAFĒNOON WITH KASRAčLOW NOON WITH KASRAčHIGH WORD ATH-THALATHAĘS-SAJDAĘN-NISFėSAKTAė",
    "QIFėWAQFAĒFOOTNOTE MARKERĒSIGN SAFHAćDISPUTED END OF AYAHćTURNED DAMMA BELOWćCURLY FATHAčDAMMAčK",
    "ASRAčFATHATANčDAMMATANčKASRATANćTONE ONE DOT ABOVEČTWO DOTS ABOVEČLOOP ABOVEČONE DOT BELOWČTWO D",
    "OTS BELOWČLOOP BELOWćOPEN FATHATANČDAMMATANČKASRATANćSMALL HIGH WAWćFATHA WITH RINGĒDOT ABOVEćKA",
    "SRA WITH DOT BELOWćLEFT ARROWHEAD ABOVEćRIGHT ARROWHEAD ABOVEćLEFT ARROWHEAD BELOWćRIGHT ARROWHE",
    "AD BELOWćDOUBLE RIGHT ARROWHEAD ABOVEģ WITH DOTćRIGHT ARROWHEAD ABOVE WITH DOTćDAMMA WITH DOTćMA",
    "RK SIDEWAYS NOON GHUNNAĀDEVANAGARI SIGN INVERTED CANDRABINDUĐCANDRABINDUĐANUSVARAĐVISARGAċLETTER",
    " SHORT AĒAēAĒIēIĒUēUĒVOCALIC RĚLĒCANDRA EĒSHORT EĒEĒAIĒCANDRA OĒSHORT OĒOĒAUĒKAēHAĒGAēHAĒNGAĒCAē",
    "HAĒJAēHAĒNYAĒTTAĔHAĒDDAĔHAĒNNAĒTAēHAĒDAēHAĒNAēNNAĒPAēHAĒBAēHAĒMAĒYAĒRAēRAĒLAēLAĔLAĒVAĒSHAēSAēAĒH",
    "AċVOWEL SIGN OEėOEċSIGN NUKTAĐAVAGRAHAċVOWEL SIGN AAĖIėIĖUėUĖVOCALIC RğRĖCANDRA EĖSHORT EĖEĖAIĖC",
    "ANDRA OĖSHORT OĖOĖAUċSIGN VIRAMAċVOWEL SIGN PRISHTHAMATRA EĖAWċOMċSTRESS SIGN UDATTAėANUDATTAċGR",
    "AVE ACCENTċACUTE ACCENTċVOWEL SIGN CANDRA LONG EĖUEėUEċLETTER QAĒKHHAĒGHHAĒZAĒDDDHAĒRHAĒFAĒYYAĒV",
    "OCALIC RRĚLLċVOWEL SIGN VOCALIC LğLċDANDAČOUBLE DANDAČIGIT ZEROđONEđTWOĒHREEđFOURĒIVEđSIXĒEVENđE",
    "IGHTđNINEċABBREVIATION SIGNċSIGN HIGH SPACING DOTċLETTER CANDRA AĒOEēOEĒAWĒUEēUEĒMARWARI DDAĒZHA",
    "ĒHEAVY YAĒGGAĒJJAĒGLOTTAL STOPĒDDDAĒBBAĀBENGALI ANJIĈSIGN CANDRABINDUčANUSVARAčVISARGA@985ĈLETTE",
    "R AĐAďIĐIďUĐUďVOCALIC RėL@98FďEďAI@993ďOďAUďKAĐHAďGAĐHAďNGAďCAĐHAďJAĐHAďNYAďTTAđHAďDDAđHAďNNAďTA",
    "ĐHAďDAĐHAďNA@9AAďPAĐHAďBAĐHAďMAďYAďRA@9B2ďLA@9B6ďSHAĐSAĐAďHA@9BCĈSIGN NUKTAčAVAGRAHAĈVOWEL SIGN ",
    "AAēIĔIēUĔUēVOCALIC RĜR@9C7ēEēAI@9CBēOēAUĈSIGN VIRAMAĈLETTER KHANDA TA@9D7ĈAU LENGTH MARK@9DCĈLET",
    "TER RRAĐHA@9DFďYYAďVOCALIC RRėLLĈVOWEL SIGN VOCALIC LĜL@9E6ĈDIGIT ZEROĎONEĎTWOďHREEĎFOURďIVEĎSIX",
    "ďEVENĎEIGHTĎNINEĈLETTER RA WITH MIDDLE DIAGONALėLOWER DIAGONALĈRUPEE MARKĎSIGNĈCURRENCY NUMERATO",
    "R ONEěTWOĜHREEěFOURěONE LESS THAN THE DENOMINATORđDENOMINATOR SIXTEENĈISSHARĈGANDA MARKĈLETTER V",
    "EDIC ANUSVARAĈABBREVIATION SIGNĈSANDHI MARK@A01ĀGURMUKHI SIGN ADAK BINDIĎBINDIĎVISARGA@A05ĉLETTE",
    "R AđAĐIđIĐUđU@A0FĐEEĐAI@A13ĐOOĐAUĐKAđHAĐGAđHAĐNGAĐCAđHAĐJAđHAĐNYAĐTTAĒHAĐDDAĒHAĐNNAĐTAđHAĐDAđHAĐ",
    "NA@A2AĐPAđHAĐBAđHAĐMAĐYAĐRA@A32ĐLAđLA@A35ĐVAĐSHA@A38đAĐHA@A3CĉSIGN NUKTA@A3EĉVOWEL SIGN AAĔIĕIĔU",
    "ĕU@A47ĔEEĔAI@A4BĔOOĔAUĉSIGN VIRAMA@A51ĎUDAAT@A59ĉLETTER KHHAĐGHHAĐZAĐRRA@A5EĐFA@A66ĉDIGIT ZEROďO",
    "NEďTWOĐHREEďFOURĐIVEďSIXĐEVENďEIGHTďNINEĉTIPPIĉADDAKĉIRIĉURAĉEK ONKARĉSIGN YAKASHĉABBREVIATION S",
    "IGN@A81ĂJARATI SIGN CANDRABINDUĎANUSVARAĎVISARGA@A85ĉLETTER AđAĐIđIĐUđUĐVOCALIC RĘLĉVOWEL CANDRA",
    " E@A8FĉLETTER EĐAIĉVOWEL CANDRA O@A93ĉLETTER OĐAUĐKAđHAĐGAđHAĐNGAĐCAđHAĐJAđHAĐNYAĐTTAĒHAĐDDAĒHAĐ",
    "NNAĐTAđHAĐDAđHAĐNA@AAAĐPAđHAĐBAđHAĐMAĐYAĐRA@AB2ĐLAđLA@AB5ĐVAĐSHAđSAđAĐHA@ABCĉSIGN NUKTAĎAVAGRAHA",
    "ĉVOWEL SIGN AAĔIĕIĔUĕUĔVOCALIC RĝRĔCANDRA E@AC7ĔEĔAIĔCANDRA O@ACBĔOĔAUĉSIGN VIRAMA@AD0ĉOM@AE0ĉLE",
    "TTER VOCALIC RRĘLLĉVOWEL SIGN VOCALIC LĝL@AE6ĉDIGIT ZEROďONEďTWOĐHREEďFOURĐIVEďSIXĐEVENďEIGHTďNI",
    "NEĉABBREVIATION SIGNĉRUPEE SIGN@AF9ĉLETTER ZHAĉSIGN SUKUNďHADDAĎMADDAHĎTHREE-DOT NUKTA ABOVEĎCIR",
    "CLE NUKTA ABOVEĎTWO-CIRCLE NUKTA ABOVE@B01ĀORIYA SIGN CANDRABINDUċANUSVARAċVISARGA@B05ĆLETTER AĎ",
    "AčIĎIčUĎUčVOCALIC RĕL@B0FčEčAI@B13čOčAUčKAĎHAčGAĎHAčNGAčCAĎHAčJAĎHAčNYAčTTAďHAčDDAďHAčNNAčTAĎHAč",
    "DAĎHAčNA@B2AčPAĎHAčBAĎHAčMAčYAčRA@B32čLAĎLA@B35čVAčSHAĎSAĎAčHA@B3CĆSIGN NUKTAċAVAGRAHAĆVOWEL SIG",
    "N AAđIĒIđUĒUđVOCALIC RĚR@B47đEđAI@B4BđOđAUĆSIGN VIRAMA@B55ċOVERLINEĆAI LENGTH MARKćU LENGTH MARK",
    "@B5CĆLETTER RRAĎHA@B5FčYYAčVOCALIC RRĕLLĆVOWEL SIGN VOCALIC LĚL@B66ĆDIGIT ZEROČONEČTWOčHREEČFOUR",
    "čIVEČSIXčEVENČEIGHTČNINEĆISSHARĆLETTER WAĆFRACTION ONE QUARTERēHALFďTHREE QUARTERSďONE SIXTEENTH",
    "ēEIGHTHďTHREE SIXTEENTHS@B82ĀTAMIL SIGN ANUSVARAċVISARGA@B85ĆLETTER AĎAčIĎIčUĎU@B8EčEĎEčAI@B92čO",
    "ĎOčAUčKA@B99čNGAčCA@B9CčJA@B9EčNYAčTTA@BA3čNNAčTA@BA8čNAĎNNAčPA@BAEčMAčYAčRAĎRAčLAĎLAďLAčVAčSHAĎ",
    "SAĎAčHA@BBEĆVOWEL SIGN AAđIĒIđUĒU@BC6đEĒEđAI@BCAđOĒOđAUĆSIGN VIRAMA@BD0ĆOM@BD7ĆAU LENGTH MARK@BE",
    "6ĆDIGIT ZEROČONEČTWOčHREEČFOURčIVEČSIXčEVENČEIGHTČNINEĆNUMBER TENčONE HUNDREDđTHOUSANDĆDAY SIGNĆ",
    "MONTH SIGNĆYEAR SIGNĆDEBIT SIGNĆCREDIT SIGNĆAS ABOVE SIGNĆRUPEE SIGNĆNUMBER SIGN@C00āELUGU SIGN ",
    "COMBINING CANDRABINDU ABOVEčANDRABINDUČANUSVARAČVISARGAČCOMBINING ANUSVARA ABOVEćLETTER AďAĎIďIĎ",
    "UďUĎVOCALIC RĖL@C0EĎEďEĎAI@C12ĎOďOĎAUĎKAďHAĎGAďHAĎNGAĎCAďHAĎJAďHAĎNYAĎTTAĐHAĎDDAĐHAĎNNAĎTAďHAĎDA",
    "ďHAĎNA@C2AĎPAďHAĎBAďHAĎMAĎYAĎRAďRAĎLAďLAĐLAĎVAĎSHAďSAďAĎHA@C3CćSIGN NUKTAČAVAGRAHAćVOWEL SIGN AA",
    "ĒIēIĒUēUĒVOCALIC RěR@C46ĒEēEĒAI@C4AĒOēOĒAUćSIGN VIRAMA@C55ćLENGTH MARKćAI LENGTH MARK@C58ćLETTER",
    " TSAĎDZAĎRRRA@C5DĎNAKAARA POLLU@C60ĎVOCALIC RRĖLLćVOWEL SIGN VOCALIC LěL@C66ćDIGIT ZEROčONEčTWOĎ",
    "HREEčFOURĎIVEčSIXĎEVENčEIGHTčNINE@C77ćSIGN SIDDHAMćFRACTION DIGIT ZERO FOR ODD POWERS OF FOURĖON",
    "E FOR ODD POWERS OF FOURĖTWO FOR ODD POWERS OF FOURėHREE FOR ODD POWERS OF FOURĖONE FOR EVEN POW",
    "ERS OF FOURĖTWO FOR EVEN POWERS OF FOURėHREE FOR EVEN POWERS OF FOURćSIGN TUUMUĀKANNADA SIGN SPA",
    "CING CANDRABINDUčCANDRABINDUčANUSVARAčVISARGAčSIDDHAMĈLETTER AĐAďIĐIďUĐUďVOCALIC RėL@C8EďEĐEďAI@"],
  String.join [
    "C92ďOĐOďAUďKAĐHAďGAĐHAďNGAďCAĐHAďJAĐHAďNYAďTTAđHAďDDAđHAďNNAďTAĐHAďDAĐHAďNA@CAAďPAĐHAďBAĐHAďMAďY",
    "AďRAĐRAďLAĐLA@CB5ďVAďSHAĐSAĐAďHA@CBCĈSIGN NUKTAčAVAGRAHAĈVOWEL SIGN AAēIĔIēUĔUēVOCALIC RĜR@CC6ēE",
    "ĔEēAI@CCAēOĔOēAUĈSIGN VIRAMA@CD5ĈLENGTH MARKĈAI LENGTH MARK@CDDĈLETTER NAKAARA POLLUďFA@CE0ďVOCA",
    "LIC RRėLLĈVOWEL SIGN VOCALIC LĜL@CE6ĈDIGIT ZEROĎONEĎTWOďHREEĎFOURďIVEĎSIXďEVENĎEIGHTĎNINE@CF1ĈSI",
    "GN JIHVAMULIYAčUPADHMANIYA@D00ĀMALAYALAM SIGN COMBINING ANUSVARA ABOVEĐANDRABINDUďANUSVARAďVISAR",
    "GAĊLETTER VEDIC ANUSVARAđAĒAđIĒIđUĒUđVOCALIC RęL@D0EđEĒEđAI@D12đOĒOđAUđKAĒHAđGAĒHAđNGAđCAĒHAđJAĒ",
    "HAđNYAđTTAēHAđDDAēHAđNNAđTAĒHAđDAĒHAđNAĒNNAđPAĒHAđBAĒHAđMAđYAđRAĒRAđLAĒLAēLAđVAđSHAĒSAĒAđHAđTTTA",
    "ĊSIGN VERTICAL BAR VIRAMAďCIRCULAR VIRAMAďAVAGRAHAĊVOWEL SIGN AAĕIĖIĕUĖUĕVOCALIC RĞR@D46ĕEĖEĕAI@",
    "D4AĕOĖOĕAUĊSIGN VIRAMAĊLETTER DOT REPHĊSIGN PARA@D54ĊLETTER CHILLU MĘYĘLLLĊAU LENGTH MARKĊFRACTI",
    "ON ONE ONE-HUNDRED-AND-SIXTIETHėFORTIETHēTHREE EIGHTIETHSēONE TWENTIETHĘENTHēTHREE TWENTIETHSēON",
    "E FIFTHĊLETTER ARCHAIC IIđVOCALIC RRęLLĊVOWEL SIGN VOCALIC LĞL@D66ĊDIGIT ZEROĐONEĐTWOđHREEĐFOURđ",
    "IVEĐSIXđEVENĐEIGHTĐNINEĊNUMBER TENđONE HUNDREDĕTHOUSANDĊFRACTION ONE QUARTERėHALFēTHREE QUARTERS",
    "ēONE SIXTEENTHėEIGHTHēTHREE SIXTEENTHSĊDATE MARKĊLETTER CHILLU NNęĘRRĘLęLĘK@D81ĀSINHALA SIGN CAN",
    "DRABINDUčANUSVARAYAčVISARGAYA@D85ĈLETTER AYANNAĐAYANNAĐEYANNAđEYANNAďIYANNAĐIYANNAďUYANNAĐUYANNA",
    "ďIRUYANNAĒUYANNAĐLUYANNAĒUYANNAďEYANNAĐEYANNAďAIYANNAďOYANNAĐOYANNAďAUYANNA@D9AĐLPAPRAANA KAYANN",
    "AďMAHAAPRAANA KAYANNAďALPAPRAANA GAYANNAďMAHAAPRAANA GAYANNAďKANTAJA NAASIKYAYAďSANYAKA GAYANNAď",
    "ALPAPRAANA CAYANNAďMAHAAPRAANA CAYANNAďALPAPRAANA JAYANNAďMAHAAPRAANA JAYANNAďTAALUJA NAASIKYAYA",
    "ėSANYOOGA NAAKSIKYAYAďSANYAKA JAYANNAďALPAPRAANA TTAYANNAďMAHAAPRAANA TTAYANNAďALPAPRAANA DDAYAN",
    "NAďMAHAAPRAANA DDAYANNAĐUURDHAJA NAYANNAďSANYAKA DDAYANNAďALPAPRAANA TAYANNAďMAHAAPRAANA TAYANNA",
    "ďALPAPRAANA DAYANNAďMAHAAPRAANA DAYANNAďDANTAJA NAYANNA@DB3ďSANYAKA DAYANNAďALPAPRAANA PAYANNAďM",
    "AHAAPRAANA PAYANNAďALPAPRAANA BAYANNAďMAHAAPRAANA BAYANNAđYANNAďAMBA BAYANNAďYAYANNAďRAYANNA@DBD",
    "ďDANTAJA LAYANNA@DC0ďVAYANNAďTAALUJA SAYANNAďMUURDHAJA SAYANNAďDANTAJA SAYANNAďHAYANNAďMUURDHAJA",
    " LAYANNAďFAYANNA@DCAĈSIGN AL-LAKUNA@DCFĈVOWEL SIGN AELA-PILLAēKETTI AEDA-PILLAēDIGA AEDA-PILLAēK",
    "ETTI IS-PILLAēDIGA IS-PILLAēKETTI PAA-PILLA@DD6ēDIGA PAA-PILLA@DD8ēGAETTA-PILLAēKOMBUVAēDIGA KOM",
    "BUVAēKOMBU DEKAĘVA HAA AELA-PILLAğDIGA AELA-PILLAğGAYANUKITTAēGAYANUKITTA@DE6ĈLITH DIGIT ZEROēON",
    "EēTWOĔHREEēFOURĔIVEēSIXĔEVENēEIGHTēNINE@DF2ĈVOWEL SIGN DIGA GAETTA-PILLAĚYANUKITTAĈPUNCTUATION K",
    "UNDDALIYA@E01ĀTHAI CHARACTER KO KAIĐHO KHAIĕUATĕWAIĕONēRAKHANGďNGO NGUďCHO CHANĕINGĕANGďSO SOďCH",
    "O CHOEďYO YINGďDO CHADAďTO PATAKĐHO THANēNANGMONTHOēPHUTHAOďNO NENďDO DEKďTO TAOĐHO THUNGĕAHANĕO",
    "NGďNO NUďBO BAIMAIďPO PLAĐHO PHUNGďFO FAďPHO PHANďFO FANďPHO SAMPHAOďMO MAďYO YAKďRO RUAĐUďLO LI",
    "NGĐUďWO WAENďSO SALAĒRUSIĒSUAďHO HIPďLO CHULAďO ANGďHO NOKHUKďPAIYANNOIďSARA AďMAI HAN-AKATďSARA",
    " AAĕMĔIĕIĔUEĖEĕĕUďPHINTHU@E3FĆURRENCY SYMBOL BAHTĆHARACTER SARA EĔAEĔOĔAI MAIMUANěALAIďLAKKHANGY",
    "AOďMAIYAMOKĒTAIKHUĒ EKēTHOĔRIēCHATTAWAďTHANTHAKHATďNIKHAHITďYAMAKKANďFONGMANąDIGIT ZEROċONEċTWOČ",
    "HREEċFOURČIVEċSIXČEVENċEIGHTċNINEąCHARACTER ANGKHANKHUďKHOMUT@E81ĀLAO LETTER KOČHO SUNG@E84ďTAM@",
    "E86ċPALI GHAċNGOċCOċPALI CHAċSO TAM@E8CċPALI JHAċNYOċPALI NYAĐTTAĒHAĐDDAĒHAĐNNAċDOċTOČHO SUNGďTA",
    "MċPALI DHAċNOċBOċPOČHO SUNGċFO TAMċPHO TAMċFO SUNGċPALI BHAċMOċYOċLO LING@EA5ďOOT@EA7ċWOċSANSKRI",
    "T SHAĕSAČO SUNGċHO SUNGċPALI LLAċOċHO TAMĄELLIPSISĄVOWEL SIGN AďMAI KANďAAĐMďIĐIďYĐYďUĐUĄSIGN PA",
    "LI VIRAMAĄVOWEL SIGN MAI KONĄSEMIVOWEL SIGN LOēNYO@EC0ĄVOWEL SIGN EĐIďOďAYĐI@EC6ĄKO LA@EC8ĄTONE ",
    "MAI EKčTHOĎIčCATAWAĄCANCELLATION MARKĄNIGGAHITA@ED0ĄDIGIT ZEROĊONEĊTWOċHREEĊFOURċIVEĊSIXċEVENĊEI",
    "GHTĊNINE@EDCĄHO NOćMOĄLETTER KHMU GOĐNYO@F00ĀTIBETAN SYLLABLE OMĈMARK GTER YIG MGO TRUNCATED AĚ-",
    "UM RNAM BCAD MAĞGTER TSHEG MAčINITIAL YIG MGO MDUN MAčCLOSING YIG MGO SGAB MAĎARET YIG MGO PHUR ",
    "SHAD MAčYIG MGO TSHEG SHAD MAčSBRUL SHADčBSKUR YIG MGOĎKA- SHOG YIG MGOčINTERSYLLABIC TSHEGčDELI",
    "MITER TSHEG BSTARčSHADčNYIS SHADčTSHEG SHADčNYIS TSHEG SHADčRIN CHEN SPUNGS SHADĎGYA GRAM SHADčC",
    "ARET -DZUD RTAGS ME LONG CANčGTER TSHEGĈLOGOTYPE SIGN CHAD RTAGSĖLHAG RTAGSĈASTROLOGICAL SIGN SG",
    "RA GCAN -CHAR RTAGSĚ-KHYUD PAĚSDONG TSHUGSĈSIGN RDEL DKAR GCIGĘNYISĘSUMĒNAG GCIGėNYISĒDKAR RDEL ",
    "NAGĈDIGIT ZEROĎONEĎTWOďHREEĎFOURďIVEĎSIXďEVENĎEIGHTĎNINEĎHALF ONEēTWOĔHREEēFOURĔIVEēSIXĔEVENēEIG",
    "HTēNINEēZEROĈMARK BSDUS RTAGSčNGAS BZUNG NYI ZLAčCARET -DZUD RTAGS BZHI MIG CANčNGAS BZUNG SGOR ",
    "RTAGSčCHE MGOčTSA -PHRUčGUG RTAGS GYONęASčANG KHANG GYONęASĈSIGN YAR TSHESčMAR TSHESĈLETTER KAĐH",
    "AďGAĐHAďNGAďCAĐHAďJA@F49ďNYAďTTAđHAďDDAđHAďNNAďTAĐHAďDAĐHAďNAďPAĐHAďBAĐHAďMAďTSAđHAďDZAđHAďWAďZH",
    "AĐAď-AďYAďRAďLAďSHAĐSAĐAďHAďAďKSSAďFIXED-FORM RAďKKAďRRA@F71ĈVOWEL SIGN AAēIĔIēUĔUēVOCALIC RĜRěL",
    "ĜLēEĔEēOĔOĈSIGN RJES SU NGA ROĎNAM BCADĈVOWEL SIGN REVERSED IĝIĈSIGN NYI ZLA NAA DAčSNA LDANĈMAR",
    "K HALANTAčPALUTAĈSIGN LCI RTAGSčYANG RTAGSčLCE TSA CANčMCHU CANčGRU CAN RGYINGSđMED RGYINGSčINVE",
    "RTED MCHU CANĉUBJOINED SIGN LCE TSA CANėMCHU CANėINVERTED MCHU CANĒLETTER KAĚHAęGAĚHAęNGAęCAĚHAę",
    "JA@F99ęNYAęTTAěHAęDDAěHAęNNAęTAĚHAęDAĚHAęNAęPAĚHAęBAĚHAęMAęTSAěHAęDZAěHAęWAęZHAĚAę-AęYAęRAęLAęSH",
    "AĚSAĚAęHAęAęKSSAęFIXED-FORM WAĤYAĤRA@FBEĈKU RU KHAđ BZHI MIG CANĈCANTILLATION SIGN HEAVY BEATĚLI",
    "GHT BEATĚCANG TE-UĚSBUB -CHALĈSYMBOL DRIL BUďRDO RJEďPADMA GDANďRDO RJE RGYA GRAMďPHUR PAďNOR BU",
    "ĕ NYIS -KHYILĖGSUM -KHYILĖBZHI -KHYIL@FCEĉIGN RDEL NAG RDEL DKARĖGSUMĈMARK BSKA- SHOG GI MGO RGY",
    "ANčMNYAM YIG GI MGO RGYANčNYIS TSHEGčINITIAL BRDA RNYING YIG MGO MDUN MAčCLOSING BRDA RNYING YIG",
    " MGO SGAB MAĀRIGHT-FACING SVASTI SIGNĀLEFT-FACING SVASTI SIGNĀRIGHT-FACING SVASTI SIGN WITH DOTS",
    "ĀLEFT-FACING SVASTI SIGN WITH DOTSĀTIBETAN MARK LEADING MCHAN RTAGSčTRAILING MCHAN RTAGS@1000ĀMY",
    "ANMAR LETTER KAĐHAďGAĐHAďNGAďCAĐHAďJAĐHAďNYAĐNYAďTTAđHAďDDAđHAďNNAďTAĐHAďDAĐHAďNAďPAĐHAďBAĐHAďMA",
    "ďYAďRAďLAďWAďSAďHAďLLAďAďSHAN AďIĐIďUĐUďEďMON EďOďAUĈVOWEL SIGN TALL AAēAAēIĔIēUĔUēEēAIēMON IIėO",
    "ēE ABOVEĈSIGN ANUSVARAčDOT BELOWčVISARGAďRAMAčASATĈCONSONANT SIGN MEDIAL YAĞRAĞWAĞHAĈLETTER GREA",
    "T SAĈDIGIT ZEROĎONEĎTWOďHREEĎFOURďIVEĎSIXďEVENĎEIGHTĎNINEĈSIGN LITTLE SECTIONčSECTIONĉYMBOL LOCA",
    "TIVEďCOMPLETEDďAFOREMENTIONEDďGENITIVEĈLETTER SHAĐSAďVOCALIC RĘRėLĘLĈVOWEL SIGN VOCALIC RĜRěLĜLĈ",
    "LETTER MON NGAēJHAēBBAĕEĈCONSONANT SIGN MON MEDIAL NAĢMAĢLAĈLETTER SGAW KAREN SHAĈVOWEL SIGN SGA",
    "W KAREN EUĈTONE MARK SGAW KAREN HATHIĝKE PHOĈLETTER WESTERN PWO KAREN THAġPWAĈVOWEL SIGN WESTERN",
    " PWO KAREN EUĥUEĈSIGN WESTERN PWO KAREN TONE-1Ĥ2Ĥ3Ĥ4Ĥ5ĈLETTER EASTERN PWO KAREN NNAġYWAġGHWAĈVOW",
    "EL SIGN GEBA KAREN IēKAYAH OEęUęEEĈLETTER SHAN KAĕHAĔGAĔCAĔZAĔNYAĔDAĔNAĔPHAĔFAĔBAĔTHAĔHAĈCONSONA",
    "NT SIGN SHAN MEDIAL WAĈVOWEL SIGN SHAN AAĘEę ABOVEĘFINAL YĈSIGN SHAN TONE-2ė3ė5ė6ĒCOUNCIL TONE-2",
    "ğ3ĚEMPHATIC TONEĈLETTER RUMAI PALAUNG FAĈSIGN RUMAI PALAUNG TONE-5ĉHAN DIGIT ZEROēONEēTWOĔHREEēF",
    "OURĔIVEēSIXĔEVENēEIGHTēNINEĉIGN KHAMTI TONE-1ę3ĈVOWEL SIGN AITON AĚIĈSYMBOL SHAN ONEĔEXCLAMATION",
    "ĀGEORGIAN CAPITAL LETTER ANĘBANĘGANĘDONĘENĘVINĘZENĘTANĘINĘKANĘLASĘMANĘNARĘONĘPARĘZHARĘRAEĘSANĘTA",
    "RĘUNĘPHARĘKHARĘGHANĘQARĘSHINĘCHINęANĘJILĘCILęHARĘXANĘJHANĘHAEęEęIEĘWEĘHARęOE@10C7ĘYN@10CDĘAEN@10",
    "D0ĉLETTER ANĐBANĐGANĐDONĐENĐVINĐZENĐTANĐINĐKANĐLASĐMANĐNARĐONĐPARĐZHARĐRAEĐSANĐTARĐUNĐPHARĐKHARĐ",
    "GHANĐQARĐSHINĐCHINđANĐJILĐCILđHARĐXANĐJHANĐHAEđEđIEĐWEĐHARđOEĐFIĐYNĐELIFIĐTURNED GANĐAINĉPARAGRA",
    "PH SEPARATORĀMODIFIER LETTER GEORGIAN NARĀGEORGIAN LETTER AENĐHARD SIGNĐLABIAL SIGNĀHANGUL CHOSE",
    "ONG KIYEOKĐSSANGKIYEOKĐNIEUNĐTIKEUTĐSSANGTIKEUTĐRIEULĐMIEUMĐPIEUPĐSSANGPIEUPđIOSđSANGSIOSĐIEUNGĐ",
    "CIEUCĐSSANGCIEUCĐCHIEUCHĐKHIEUKHĐTHIEUTHĐPHIEUPHĐHIEUHĐNIEUN-KIYEOKĐSSANGNIEUNĐNIEUN-TIKEUTĖPIEU",
    "PĐTIKEUT-KIYEOKĐRIEUL-NIEUNĐSSANGRIEULĐRIEUL-HIEUHĐKAPYEOUNRIEULĐMIEUM-PIEUPĐKAPYEOUNMIEUMĐPIEUP",
    "-KIYEOKĖNIEUNĖTIKEUTĖSIOSĚ-KIYEOKěTIKEUTěPIEUPėSANGSIOSėIOS-CIEUCĖCIEUCėHIEUCHĖTHIEUTHĖPHIEUPHĐK",
    "APYEOUNPIEUPĘSSANGPIEUPĐSIOS-KIYEOKĕNIEUNĕTIKEUTĕRIEULĕMIEUMĕPIEUPĚ-KIYEOKĕSSANGSIOSĕIEUNGĕCIEUC",
    "ĖHIEUCHĕKHIEUKHĕTHIEUTHĕPHIEUPHĕHIEUHĐCHITUEUMSIOSęSANGSIOSđEONGCHIEUMSIOSĜSANGSIOSĐPANSIOSĐIEUN",
    "G-KIYEOKĖTIKEUTĖMIEUMĖPIEUPĖSIOSĖPANSIOSĐSSANGIEUNGĐIEUNG-CIEUCėHIEUCHĖTHIEUTHĖPHIEUPHĐYESIEUNGĐ",
    "CIEUC-IEUNGđHITUEUMCIEUCĘSSANGCIEUCđEONGCHIEUMCIEUCěSSANGCIEUCđHIEUCH-KHIEUKHĘHIEUHēTUEUMCHIEUCH",
    "đEONGCHIEUMCHIEUCHĐPHIEUPH-PIEUPĐKAPYEOUNPHIEUPHĐSSANGHIEUHĐYEORINHIEUHĐKIYEOK-TIKEUTĐNIEUN-SIOS",
    "ĖCIEUCĖHIEUHĐTIKEUT-RIEULĐFILLERćJUNGSEONG FILLERđAĒEđYAēEđEOĒđYEOēđOđWAēEđOEđYOđUđWEOēĒIđYUđEUđ",
    "YIđIđA-OēUđYA-OĔYOđEO-OĔUĔEUđYEO-OĕUđO-EOĔēYEēOēUđYO-YAĖEĕEOĔOĔIđU-AĔEēEO-EUēYEēUđYU-AĔEOĕĔYEOĖĔ",
    "UĔIđEU-UĔEUđYI-UđI-AēYAēOēUēEUēARAEAđARAEAĖ-EOėUėIđSSANGARAEAđA-EUđYA-UĒEO-YAđO-YAĕEĈONGSEONG KI",
    "YEOKđSSANGKIYEOKđKIYEOK-SIOSđNIEUNĖ-CIEUCėHIEUHđTIKEUTđRIEULĖ-KIYEOKėMIEUMėPIEUPėSIOSėTHIEUTHėPH",
    "IEUPHėHIEUHđMIEUMđPIEUPĖ-SIOSđSIOSĒSANGSIOSđIEUNGđCIEUCĒHIEUCHđKHIEUKHđTHIEUTHđPHIEUPHđHIEUHđKIY",
    "EOK-RIEULĘSIOS-KIYEOKđNIEUN-KIYEOKėTIKEUTėSIOSėPANSIOSėTHIEUTHđTIKEUT-KIYEOKĘRIEULđRIEUL-KIYEOK-",
    "SIOSėNIEUNėTIKEUTĝ-HIEUHđSSANGRIEULđRIEUL-MIEUM-KIYEOKĝSIOSėPIEUP-SIOSĝHIEUHėKAPYEOUNPIEUPėSSANG",
    "SIOSėPANSIOSėKHIEUKHėYEORINHIEUHđMIEUM-KIYEOKėRIEULėPIEUPėSIOSĘSANGSIOSėPANSIOSėCHIEUCHėHIEUHđKA",
    "PYEOUNMIEUMđPIEUP-RIEULėPHIEUPHėHIEUHđKAPYEOUNPIEUPđSIOS-KIYEOKĖTIKEUTĖRIEULĖPIEUPđPANSIOSđIEUNG",
    "-KIYEOKėSSANGKIYEOKđSSANGIEUNGđIEUNG-KHIEUKHđYESIEUNGę-SIOSĚPANSIOSđPHIEUPH-PIEUPđKAPYEOUNPHIEUP",
    "HđHIEUH-NIEUNėRIEULėMIEUMėPIEUPđYEORINHIEUHđKIYEOK-NIEUNĘPIEUPĘCHIEUCHĘKHIEUKHĘHIEUHđSSANGNIEUNĀ",
    "ETHIOPIC SYLLABLE HAēUēIēAAēEEĔēOĔAĒLAēUēIēAAēEEĔēOēWAĒHHAĔUĔIĔAAĔEEĕĔOĔWAĒMAēUēIēAAēEEĔēOēWAĒSZ",
    "AĔUĔIĔAAĔEEĕĔOĔWAĒRAēUēIēAAēEEĔēOēWAĒSAēUēIēAAēEEĔēOēWAēHAĔUĔIĔAAĔEEĕĔOĔWAĒQAēUēIēAAēEEĔēOĔAēWA@",
    "124AĔIĔAAĔEEĕ@1250ēHAĔUĔIĔAAĔEEĕĔO@1258ĔWA@125AĕIĕAAĕEEĖ@1260ĒBAēUēIēAAēEEĔēOēWAĒVAēUēIēAAēEEĔēO",
    "ēWAĒTAēUēIēAAēEEĔēOēWAĒCAēUēIēAAēEEĔēOēWAĒXAēUēIēAAēEEĔēOĔAēWA@128AĔIĔAAĔEEĕ@1290ĒNAēUēIēAAēEEĔē"],
  String.join [
    "OēWAēYAĔUĔIĔAAĔEEĕĔOĔWAĒGLOTTAL AĚUĚIĚAAĚEEěĚOĚWAĒKAēUēIēAAēEEĔēOĔAēWA@12B2ĔIĔAAĔEEĕ@12B8ēXAĔUĔI",
    "ĔAAĔEEĕĔO@12C0ĔWA@12C2ĕIĕAAĕEEĖ@12C8ĒWAēUēIēAAēEEĔēOĔAĒPHARYNGEAL AĝUĝIĝAAĝEEĞĝO@12D8ĒZAēUēIēAAē",
    "EEĔēOēWAēHAĔUĔIĔAAĔEEĕĔOĔWAĒYAēUēIēAAēEEĔēOĔAĒDAēUēIēAAēEEĔēOēWAēDAĔUĔIĔAAĔEEĕĔOĔWAĒJAēUēIēAAēEE",
    "ĔēOēWAĒGAēUēIēAAēEEĔēOĔAēWA@1312ĔIĔAAĔEEĕ@1318ēGAĔUĔIĔAAĔEEĕĔOĔWAAĒTHAĔUĔIĔAAĔEEĕĔOĔWAĒCHAĔUĔIĔA",
    "AĔEEĕĔOĔWAĒPHAĔUĔIĔAAĔEEĕĔOĔWAĒTSAĔUĔIĔAAĔEEĕĔOĔWAēZAĔUĔIĔAAĔEEĕĔOĕAĒFAēUēIēAAēEEĔēOēWAĒPAēUēIēA",
    "AēEEĔēOēWAĒRYAĒMYAĒFYA@135DĉCOMBINING GEMINATION AND VOWEL LENGTH MARKēVOWEL LENGTH MARKēGEMINAT",
    "ION MARKĉSECTION MARKĉWORDSPACEĉFULL STOPĉCOMMAĉSEMICOLONĉCOLONĉPREFACE COLONĉQUESTION MARKĉPARA",
    "GRAPH SEPARATORĉDIGIT ONEďTWOĐHREEďFOURĐIVEďSIXĐEVENďEIGHTďNINEĉNUMBER TENđWENTYđHIRTYĐFORTYđIFT",
    "YĐSIXTYđEVENTYĐEIGHTYĐNINETYĐHUNDREDĐTEN THOUSAND@1380ĉSYLLABLE SEBATBEIT MWAĒMWIĔEEĕĒSEBATBEIT ",
    "BWAĒBWIĔEEĕĒSEBATBEIT FWAĒFWIĔEEĕĒSEBATBEIT PWAĒPWIĔEEĕĉTONAL MARK YIZETĔDERETĔRIKRIKĔSHORT RIKR",
    "IKĔDIFATĔKENATĔCHIRETĔHIDETĔDERET-HIDETĔKURT@13A0ĀCHEROKEE LETTER AĐEĐIĐOĐUĐVĐGAĐKAĐGEđIđOđUđVĐH",
    "AđEđIđOđUđVĐLAđEđIđOđUđVĐMAđEđIđOđUĐNAĐHNAĐNAHđEđIđOđUđVĐQUAĒEĒIĒOĒUĒVĐSAđđEđIđOđUđVĐDAĐTAĐDEĐTE",
    "ĐDIĐTIĐDOđUđVđLAĐTLAĒEĒIĒOĒUĒVđSAĒEĒIĒOĒUĒVĐWAđEđIđOđUđVĐYAđEđIđOđUđVĐMV@13F8ĉSMALL LETTER YEėIė",
    "OėUėVĖMV@1400āANADIAN SYLLABICS HYPHENēEēAAIēIĔIēOĔOēY-CREE OOēCARRIER EEěIēAĔAēWEĕST-CREE WEĔIĔ",
    "EST-CREE WIĔIIĔEST-CREE WIIĔOĔEST-CREE WOĔOOĔEST-CREE WOOēNASKAPI WOOēWAĔEST-CREE WAĔAAĔEST-CREE",
    " WAAēNASKAPI WAAēAIēY-CREE WēGLOTTAL STOPēFINAL ACUTEęGRAVEęBOTTOM HALF RINGęTOP HALF RINGęRIGHT",
    " HALF RINGěNGęDOUBLE ACUTEĠSHORT VERTICAL STROKESęMIDDLE DOTęSHORT HORIZONTAL STROKEęPLUSęDOWN T",
    "ACKēENēINēONēANēPEĔAAIĔIĕIĔOĕOēY-CREE POOēCARRIER HEEĜIēPAĕAĔWEēWEST-CREE PWEēPWIēWEST-CREE PWIē",
    "PWIIēWEST-CREE PWIIēPWOēWEST-CREE PWOēPWOOēWEST-CREE PWOOēPWAēWEST-CREE PWAēPWAAēWEST-CREE PWAAē",
    "Y-CREE PWAAēPēWEST-CREE PēCARRIER HēTEĔAAIĔIĕIĔOĕOēY-CREE TOOēCARRIER DEEĜIēTAĕAĔWEēWEST-CREE TW",
    "EēTWIēWEST-CREE TWIēTWIIēWEST-CREE TWIIēTWOēWEST-CREE TWOēTWOOēWEST-CREE TWOOēTWAēWEST-CREE TWAē",
    "TWAAēWEST-CREE TWAAēNASKAPI TWAAēTĔTEĕIĕOĕAēKEĔAAIĔIĕIĔOĕOēY-CREE KOOēKAĕAĔWEēWEST-CREE KWEēKWIē",
    "WEST-CREE KWIēKWIIēWEST-CREE KWIIēKWOēWEST-CREE KWOēKWOOēWEST-CREE KWOOēKWAēWEST-CREE KWAēKWAAēW",
    "EST-CREE KWAAēNASKAPI KWAAēKĔWēSOUTH-SLAVEY KEHġIHġOHġAHēCEĔAAIĔIĕIĔOĕOēY-CREE COOēCAĕAĔWEēWEST-",
    "CREE CWEēCWIēWEST-CREE CWIēCWIIēWEST-CREE CWIIēCWOēWEST-CREE CWOēCWOOēWEST-CREE CWOOēCWAēWEST-CR",
    "EE CWAēCWAAēWEST-CREE CWAAēNASKAPI CWAAēCēSAYISI THēMEĔAAIĔIĕIĔOĕOēY-CREE MOOēMAĕAĔWEēWEST-CREE ",
    "MWEēMWIēWEST-CREE MWIēMWIIēWEST-CREE MWIIēMWOēWEST-CREE MWOēMWOOēWEST-CREE MWOOēMWAēWEST-CREE MW",
    "AēMWAAēWEST-CREE MWAAēNASKAPI MWAAēMēWEST-CREE MēMHēATHAPASCAN MēSAYISI MēNEĔAAIĔIĕIĔOĕOēY-CREE ",
    "NOOēNAĕAĔWEēWEST-CREE NWEēNWAēWEST-CREE NWAēNWAAēWEST-CREE NWAAēNASKAPI NWAAĔēCARRIER NGēNHēLEĔA",
    "AIĔIĕIĔOĕOēY-CREE LOOēLAĕAĔWEēWEST-CREE LWEēLWIēWEST-CREE LWIēLWIIēWEST-CREE LWIIēLWOēWEST-CREE ",
    "LWOēLWOOēWEST-CREE LWOOēLWAēWEST-CREE LWAēLWAAēWEST-CREE LWAAēLēWEST-CREE LēMEDIAL LēSEĔAAIĔIĕIĔ",
    "OĕOēY-CREE SOOēSAĕAĔWEēWEST-CREE SWEēSWIēWEST-CREE SWIēSWIIēWEST-CREE SWIIēSWOēWEST-CREE SWOēSWO",
    "OēWEST-CREE SWOOēSWAēWEST-CREE SWAēSWAAēWEST-CREE SWAAēNASKAPI SWAAēSēATHAPASCAN SēSWēBLACKFOOT ",
    "SēMOOSE-CREE SKēNASKAPI SKWĜ-WĜPWAĜTWAĜKWAĜCWAēSHEĕIĖIĕOĖOĕAĖAĕWEēWEST-CREE SHWEēSHWIēWEST-CREE ",
    "SHWIēSHWIIēWEST-CREE SHWIIēSHWOēWEST-CREE SHWOēSHWOOēWEST-CREE SHWOOēSHWAēWEST-CREE SHWAēSHWAAēW",
    "EST-CREE SHWAAēSHēYEĔAAIĔIĕIĔOĕOĔ-CREE YOOĔAĕAĔWEēWEST-CREE YWEēYWIēWEST-CREE YWIēYWIIēWEST-CREE",
    " YWIIēYWOēWEST-CREE YWOēYWOOēWEST-CREE YWOOēYWAēWEST-CREE YWAēYWAAēWEST-CREE YWAAēNASKAPI YWAAēY",
    "ēBIBLE-CREE YēWEST-CREE YēSAYISI YIēREĔ-CREE REēWEST-CREE LEēRAAIĔIĕIĔOĕOēWEST-CREE LOēRAĕAēWEST",
    "-CREE LAēRWAAēWEST-CREE RWAAēRēWEST-CREE RēMEDIAL RēFEĔAAIĔIĕIĔOĕOĔAĕAĔWAAēWEST-CREE FWAAēFēTHEē",
    "N-CREE THEēTHIēN-CREE THIēTHIIēN-CREE THIIēTHOĖOĕAĖAĕWAAēWEST-CREE THWAAēTHĔTHEĖIĖOĖAĖĔYEĕIĕOĕAē",
    "NUNAVIK HEĜIĝIĜOĝOĜAĝAĜĘUT HēHKēQAAIĔIĕIĔOĕOĔAĕAĔēTLHEĖIĖOĖAēWEST-CREE REĞIĞOĞAēNGAAIĕIĖIĕOĖOĕAĖ",
    "AĕĔNGēSAYISI SHEĜIĜOĜAēWOODS-CREE THEĠIĠOĠAĠēLHIĖIĕOĖOĕAĖAĕēTH-CREE THEĝIĞIĝOĞOĝAĞAĝēAIVILIK BēB",
    "LACKFOOT EĝIĝOĝAĝWEĞIĞOĞAĝNEĞIĞOĞAĝKEĞIĞOĞAēSAYISI HEěIěOěAēCARRIER GHUĝOĝEĞEĝIĝAěRUĜOĜEĝEĜIĜAěW",
    "UĜOĜEĝEĜIĜAěHWUĝOĝEĞEĝIĝAěTHUĝOĝEĞEĝIĝAĜTUĝOĝEĞEĝIĝAěPUĜOĜEĝEĜIĜAĜěGUĜOĜEĝEĜIĜAěKHUĝOĝEĞEĝIĝAĜKU",
    "ĝOĝEĞEĝIĝAĝěNUĜOĜEĝEĜIĜAěMUĜOĜEĝEĜIĜAěYUĜOĜEĝEĜIĜAěJUēSAYISI JUēCARRIER JOĜEĝEĜIēSAYISI JIēCARRI",
    "ER JAĜJUĝOĝEĞEĝIĝAěLUĜOĜEĝEĜIĜAěDLUĝOĝEĞEĝIĝAěLHUĝOĝEĞEĝIĝAěTLHUĞOĞEğEĞIĞAĝUĝOĝEĞEĝIĝAěZUĜOĜEĝEĜ",
    "IĜAĜěINITIAL ZěDZUĝOĝEĞEĝIĝAěSUĜOĜEĝEĜIĜAĜHUĝOĝEĞEĝIĝAĝěTSUĝOĝEĞEĝIĝAěCHUĝOĝEĞEĝIĝAěTTSUĞOĞEğEĞI",
    "ĞAĔHI SIGNēFULL STOPēQAIēNGAIĔNGIėIĖOėOĖAėAēWOODS-CREE THWEEġIĢIġOĢOġAĢAĞFINAL THēBLACKFOOT WĀOG",
    "HAM SPACE MARKĆLETTER BEITHčLUISčFEARNčSAILčNIONčUATHčDAIRčTINNEčCOLLĎEIRTčMUINčGORTčNGEADALčSTR",
    "AIFčRUISčAILMčONNčURčEADHADHčIODHADHčEABHADHčORčUILLEANNčIFINčEAMHANCHOLLčPEITHĆFEATHER MARKĆREV",
    "ERSED FEATHER MARK@16A0ĀRUNIC LETTER FEHU FEOH FE FčVčURUZ UR UčYRĎčWčTHURISAZ THURS THORNčETHčA",
    "NSUZ AčOS OčAC AĎESCčLONG-BRANCH-OSS OčSHORT-TWIG-OSS OčOĎEĎNčRAIDO RAD REID RčKAUNAčCENčKAUN Kč",
    "GčENGčGEBO GYFU GĎARčWUNJO WYNN WčHAGLAZ HďEGL HčLONG-BRANCH-HAGALL HčSHORT-TWIG-HAGALL HčNAUDIZ",
    " NYD NAUD NčSHORT-TWIG-NAUD NčDOTTED-NčISAZ IS ISS IčEčJERAN JčGERčLONG-BRANCH-AR AEčSHORT-TWIG-",
    "AR AčIWAZ EOHčPERTHO PEORTH PčALGIZ EOLHXčSOWILO SĎIGEL LONG-BRANCH-SOL SĎHORT-TWIG-SOL SčCčZčTI",
    "WAZ TIR TYR TčSHORT-TWIG-TYR TčDčBERKANAN BEORC BJARKAN BčSHORT-TWIG-BJARKAN BčDOTTED-PčOPEN-PčE",
    "HWAZ EH EčMANNAZ MAN MčLONG-BRANCH-MADR MčSHORT-TWIG-MADR MčLAUKAZ LAGU LOGR LčDOTTED-LčINGWAZĐč",
    "DAGAZ DAEG DčOTHALAN ETHEL OčEARčIORčCWEORTHĎALCĎEALCčSTANčLONG-BRANCH-YRčSHORT-TWIG-YRčICELANDI",
    "C-YRčQčXĆSINGLE PUNCTUATIONĆMULTIPLE PUNCTUATIONĆCROSS PUNCTUATIONĆARLAUG SYMBOLĆTVIMADUR SYMBOL",
    "ĆBELGTHOR SYMBOLĆLETTER KčSHčOOčFRANKS CASKET OSěISěEHěACĜESC@1700ĀTAGALOG LETTER AďIďUďKAďGAďNG",
    "AďTAďDAďNAďPAďBAďMAďYAďRAďLAďWAďSAďHAĈVOWEL SIGN IēUĈSIGN VIRAMAčPAMUDPOD@171FĈLETTER ARCHAIC RA",
    "ĀHANUNOO LETTER AďIďUďKAďGAďNGAďTAďDAďNAďPAďBAďMAďYAďRAďLAďWAďSAďHAĈVOWEL SIGN IēUĈSIGN PAMUDPOD",
    "ĀPHILIPPINE SINGLE PUNCTUATIONċDOUBLE PUNCTUATION@1740ĀBUHID LETTER AčIčUčKAčGAčNGAčTAčDAčNAčPAč",
    "BAčMAčYAčRAčLAčWAčSAčHAĆVOWEL SIGN IđU@1760ĀTAGBANWA LETTER AĐIĐUĐKAĐGAĐNGAĐTAĐDAĐNAĐPAĐBAĐMAĐYA",
    "@176EĐLAĐWAĐSA@1772ĉVOWEL SIGN IĔU@1780ĀKHMER LETTER KAĎHAĎOĎHOčNGOčCAĎHAĎOĎHOčNYOčDAčTTHAčDOčTT",
    "HOčNNOčTAĎHAĎOĎHOčNOčBAčPHAĎOĎHOčMOčYOčROčLOčVOčSHAĎSOĎAčHAčLAčQAĆINDEPENDENT VOWEL QAQĚAęIĚIęUĚ",
    "KĚUěVĘRYĚYĘLYĚYĘQEęAIęOO TYPE ONEġTWOęAUĆVOWEL INHERENT AQĖAČSIGN AAđIĒIđYĒYđUĒUĒAđOEđYAđIEđEđAE",
    "ĒIđOOđAUĆSIGN NIKAHITċREAHMUKċYUUKALEAPINTUċMUUSIKATOANċTRIISAPċBANTOCċROBATċTOANDAKHIATċKAKABAT",
    "ċAHSDAċSAMYOK SANNYAċVIRIAMċCOENGċBATHAMASATċKHANċBARIYOOSANċCAMNUC PII KUUHċLEK TOOċBEYYALċPHNA",
    "EK MUANċKOOMUUTĆCURRENCY SYMBOL RIELĆSIGN AVAKRAHASANYAČTTHACAN@17E0ĆDIGIT ZEROČONEČTWOčHREEČFOU",
    "RčIVEČSIXčEVENČEIGHTČNINE@17F0ĆSYMBOL LEK ATTAK SONėMUOYėPIIėBEIĘUONėPRAMě-MUOYĜPIIĜBEIĝUON@1800",
    "ĀMONGOLIAN BIRGAĊELLIPSISĊCOMMAĊFULL STOPĊCOLONĊFOUR DOTSĊTODO SOFT HYPHENĊSIBE SYLLABLE BOUNDAR",
    "Y MARKERĊMANCHU COMMAđFULL STOPĊNIRUGUĊFREE VARIATION SELECTOR ONEĢTWOģHREEĊVOWEL SEPARATORĊFREE",
    " VARIATION SELECTOR FOURĊDIGIT ZEROĐONEĐTWOđHREEĐFOURđIVEĐSIXđEVENĐEIGHTĐNINE@1820ĊLETTER AđEđIđ",
    "OđUđOEđUEđEEđNAđANGđBAđPAđQAđGAđMAđLAđSAĒHAđTAđDAđCHAđJAđYAđRAđWAđFAđKAĒHAđTSAđZAđHAAđZRAđLHAđZH",
    "IđCHIđTODO LONG VOWEL SIGNĖEĖIĖOĖUĖOEĖUEĖANGĖBAĖPAĖQAĖGAĖMAĖTAĖDAĖCHAĖJAĖTSAĖYAĖWAĖKAĖGAAĖHAAĖJI",
    "AĖNIAĖDZAđSIBE EĖIėYĖUEėĖANGĖKAĖGAĖHAĖPAĖSHAĖTAĖDAĖJAĖFAĖGAAĖHAAĖTSAĖZAĖRAAĖCHAĖZHAđMANCHU IĘKAĘ",
    "RAĘFAĘZHAđCHA WITH TWO DOTS@1880đALI GALI ANUSVARA ONEĚVISARGA ONEĚDAMARUĚUBADAMAĚINVERTED UBADA",
    "MAĚBALUDAĚTHREE BALUDAĚAĚIĚKAĚNGAĚCAĚTTAĜHAĚDDAĚNNAĚTAĚDAĚPAěHAĚSSAĚZHAěAĚAHđTODO ALI GALI TAğZH",
    "AđMANCHU ALI GALI GHAġNGAġCAġJHAġTTAġDDHAġTAġDHAġSSAġCYAġZHAĢAđALI GALI HALF UğYAđMANCHU ALI GAL",
    "I BHAđALI GALI DAGALGAđMANCHU ALI GALI LHA@18B0ĀCANADIAN SYLLABICS OYēAYĔAYēWAYēPOYĔAYĔWOYēTAYēK",
    "AYĔWAYēMAYēNOYĔAYēLAYēSOYĔAYĔHOYĕAYĕWOYēYOYĔAYēRAYēNWIēOJIBWAY NWIēNWIIēOJIBWAY NWIIēNWOēOJIBWAY",
    " NWOēNWOOēOJIBWAY NWOOēRWEEĕIĖIĕOĖOĕAēOJIBWAY PěTěKěCěMěNěSĜHēEASTERN WēWESTERN WēFINAL SMALL RI",
    "NGęRAISED DOTēR-CREE RWEēWEST-CREE LOOĞAAēTHWEĖAĔTHWEĖOOĖAAĔLHWEĖOOēSAYISI SHWEĜOOĚHOOēCARRIER G",
    "WUěDENE GEEěGAAĜWAēSAYISI JUUēCARRIER JWAēBEAVER DENE LğRēCARRIER DENTAL S@1900ĀLIMBU VOWEL-CARR",
    "IER LETTERĆLETTER KAĎHAčGAĎHAčNGAčCAĎHAčJAĎHAčYANčTAĎHAčDAĎHAčNAčPAĎHAčBAĎHAčMAčYAčRAčLAčWAčSHAĎ",
    "SAĎAčHAčGYANčTRA@1920ĆVOWEL SIGN AđIđUđEEđAIđOOđAUđEđOĆSUBJOINED LETTER YAėRAėWA@1930ćMALL LETTE",
    "R KAēNGAēANUSVARAēTAēNAēPAēMAēRAēLAćIGN MUKPHRENGċKEMPHRENGċSA-I@1940ċLOO@1944ĆEXCLAMATION MARKĆ",
    "QUESTION MARKĆDIGIT ZEROČONEČTWOčHREEČFOURčIVEČSIXčEVENČEIGHTČNINEĀTAI LE LETTER KAĎXAĎNGAĎTSAĎS",
    "AĎYAĎTAďHAĎLAĎPAďHAĎMAĎFAĎVAĎHAĎQAĎKHAĎTSHAĎNAĎAĎIĎEEďHĎUĎOOďĎUEĎEĎAUEďI@1970ĎTONE-2ē3ē4ē5ē6@198",
    "0ĀNEW TAI LUE LETTER HIGH QAēLOW QAēHIGH KAĘXAĘNGAēLOW KAėXAėNGAēHIGH TSAĘSAĘYAēLOW TSAėSAėYAēHI",
    "GH TAęHAĘNAēLOW TAĘHAėNAēHIGH PAęHAĘMAēLOW PAĘHAėMAēHIGH FAĘVAĘLAēLOW FAėVAėLAēHIGH HAĘDAĘBAēLOW",
    " HAėDAėBAēHIGH KVAĘXVAēLOW KVAėXVAēHIGH SUAēLOW SUA@19B0ČVOWEL SIGN VOWEL SHORTENERėAAėIIėUĘUėEė",
    "AEėOĘAėUEėAYĘAYėUYėOYĘAYėUEYėIYČLETTER FINAL VęNGĚęMęKęDęBČTONE MARK-1Ė2@19D0ČDIGIT ZEROĒONEĒTWO",
    "ēHREEĒFOURēIVEĒSIXēEVENĒEIGHTĒNINEČTHAM DIGIT ONE@19DEČSIGN LAEĔVĀKHMER SYMBOL PATHAMASATčMUOY K",
    "OETčPII KOETčBEI KOETĎUON KOETčPRAM KOETđ-MUOY KOETĒPII KOETĒBEI KOETēUON KOETčDAP KOETĐ-MUOY KO",
    "ETđPII KOETđBEI KOETĒUON KOETđPRAM KOETčTUTEYASATčMUOY ROCčPII ROCčBEI ROCĎUON ROCčPRAM ROCđ-MUO",
    "Y ROCĒPII ROCĒBEI ROCēUON ROCčDAP ROCĐ-MUOY ROCđPII ROCđBEI ROCĒUON ROCđPRAM ROCĀBUGINESE LETTER",
    " KAĐGAĐNGAĒKAĐPAĐBAĐMAđPAĐTAĐDAĐNAđRAĐCAĐJAĐNYAĒCAĐYAĐRAĐLAĐVAĐSAĐAĐHAĉVOWEL SIGN IĔUĔEĔOĔAE@1A1",
    "EĉPALLAWAĉEND OF SECTIONĀTAI THAM LETTER HIGH KAĖHAĖXAĐLOW KAĕXAĕHAĐNGAĐHIGH CAĖHAĐLOW CAĔSAĔCHA"],
  String.join [
    "ĐNYAĐRATAĐHIGH RATHAĐDAĐLOW RATHAĐRANAĐHIGH TAĖHAĐLOW TAĕHAĐNAĐBAĐHIGH PAĖHAĕFAĐLOW PAĔFAĔPHAĐMA",
    "ĐLOW YAĐHIGH YAĐRAđUEĐLAđUEĐWAĐHIGH SHAĖSAĖAĕHAĐLLAĐAĐLOW HAĐIđIĐUđUĐEEĐOOĐLAEĐGREAT SAĉCONSONAN",
    "T SIGN MEDIAL RAğLAĘLA TANG LAIĉSIGN MAI KANG LAIĉCONSONANT SIGN FINAL NGAĘLOW PAĘHIGH RATHA OR ",
    "LOW PAĘMAĘBAĘSA@1A60ĉSIGN SAKOTĉVOWEL SIGN AĔMAI SATĔAAĔTALL AAĔIĕIĔUEĕUEĕĕUĔOĕA BELOWĕYĔEĔAEĔOO",
    "ĔAIĔTHAM AIĔOA ABOVEĉSIGN MAI KANGĎTONE-1ē2ĎKHUEN TONE-3ę4ę5ĎRA HAAMĎMAI SAMĎKHUEN-LUE KARAN@1A7",
    "FĉCOMBINING CRYPTOGRAMMIC DOTĉHORA DIGIT ZEROĔONEĔTWOĕHREEĔFOURĕIVEĔSIXĕEVENĔEIGHTĔNINE@1A90ĉTHA",
    "M DIGIT ZEROĔONEĔTWOĕHREEĔFOURĕIVEĔSIXĕEVENĔEIGHTĔNINE@1AA0ĉSIGN WIANGēWAAKĎSAWANĎKEOWĎHOYĎDOKMA",
    "IĎREVERSED ROTATED RANAĎMAI YAMOKĎKAANĒKUUĎSATKAANĕKUUĎHANGĎCAANG@1AB0ĀCOMBINING DOUBLED CIRCUMF",
    "LEX ACCENTċIAERESIS-RINGĊINFINITYĊDOWNWARDS ARROWĊTRIPLE DOTĊX-X BELOWĊWIGGLY LINE BELOWĊOPEN MA",
    "RK BELOWĊDOUBLE OPEN MARK BELOWĊLIGHT CENTRALIZATION STROKE BELOWĊSTRONG CENTRALIZATION STROKE B",
    "ELOWĊPARENTHESES ABOVEĊDOUBLE PARENTHESES ABOVEĊPARENTHESES BELOWĖOVERLAYĊLATIN SMALL LETTER W B",
    "ELOWĝTURNED W BELOWċEFT PARENTHESIS ABOVE LEFTĊRIGHT PARENTHESIS ABOVE RIGHTĊLEFT PARENTHESIS BE",
    "LOW LEFTĊRIGHT PARENTHESIS BELOW RIGHTĊSQUARE BRACKETS ABOVEĊNUMBER SIGN ABOVEĊINVERTED DOUBLE A",
    "RCH ABOVEĊPLUS SIGN ABOVEĊDOUBLE PLUS SIGN ABOVEěBELOWĊTRIPLE ACUTE ACCENTĊLATIN SMALL LETTER IN",
    "SULAR GĥRĥT@1B00ĀBALINESE SIGN ULU RICEMĒCANDRAĎCECEKĎSURANGĎBISAHĉLETTER AKARAĕ TEDUNGĐIKARAĕ T",
    "EDUNGĐUKARAĕ TEDUNGĐRA REPAė TEDUNGĐLA LENGAĘ TEDUNGĐEKARAĐAIKARAĐOKARAĕ TEDUNGĐKAĒ MAHAPRANAĐGA",
    "Ē GORAĐNGAĐCAĒ LACAĐJAĒ JERAĐNYAĐTA LATIKēMURDA MAHAPRANAĐDA MURDA ALPAPRANAęMAHAPRANAĐNA RAMBAT",
    "ĐTAĒ TAWAĐDAĒ MADUĐNAĐPAĒ KAPALĐBAĒ KEMBANGĐMAĐYAĐRAĐLAĐWAĐSA SAGAĕPAĒĐHAĉSIGN REREKANĉVOWEL SIG",
    "N TEDUNGĔULUė SARIĔSUKUĘ ILUTĔRA REPAě TEDUNGĔLA LENGAĜ TEDUNGĔTALINGĚ REPAěTEDUNGěREPA TEDUNGĔP",
    "EPETę TEDUNGĉADEG ADEGĉLETTER KAF SASAKđHOT SASAKĐTZIR SASAKĐEF SASAKĐVE SASAKĐZAL SASAKĐASYURA ",
    "SASAKđRCHAIC JNYA@1B50ĉDIGIT ZEROďONEďTWOĐHREEďFOURĐIVEďSIXĐEVENďEIGHTďNINEĉPANTIċMADAĉWINDUĉCAR",
    "IK PAMUNGKAHďSIKIďPARERENĉPAMENENGĉMUSICAL SYMBOL DONGęENGęUNGęANGĜ SURANGęINGęAENGęEUNGęAINGĚNG",
    " GEDEĘCOMBINING TEGEHĢENDEPĢKEMPULĦLIĢJEGOGANĢKEMPUL WITH JEGOGANĦLI WITH JEGOGANĢBENDEĢGONGĘRIG",
    "HT-HAND OPEN DUGĩAGģCLOSED TUKīAKĘLEFT-HAND OPEN PANGĨUNGĢCLOSED PLAKīUKĢOPEN PINGĉPANTI LANTANG",
    "ċMADA LANTANG@1B80ĀSUNDANESE SIGN PANYECEKĒGLAYARēWISADĊLETTER AđIđUđAEđOđEĒUđKAđQAđGAđNGAđCAđJA",
    "đZAđNYAđTAđDAđNAđPAđFAđVAđBAđMAđYAđRAđLAđWAđSAđXAđHAĊCONSONANT SIGN PAMINGKALěNYAKRAĝIKUĊVOWEL S",
    "IGN PANGHULUĘYUKUĘAELAENGĘOLONGėMEPETėNEULEUNGĊSIGN PAMAAEHďVIRAMAĊCONSONANT SIGN PASANGAN MAĢWA",
    "ĊLETTER KHAđSYAĊDIGIT ZEROĐONEĐTWOđHREEĐFOURđIVEĐSIXđEVENĐEIGHTĐNINEĊAVAGRAHAĊLETTER REUđLEUđBHA",
    "đFINAL KėMĀBATAK LETTER AčSIMALUNGUN AčHAčSIMALUNGUN HAčMANDAILING HAčBAčKARO BAčPAčSIMALUNGUN P",
    "AčNAčMANDAILING NAčWAčSIMALUNGUN WAčPAKPAK WAčGAčSIMALUNGUN GAčJAčDAčRAčSIMALUNGUN RAčMAčSIMALUN",
    "GUN MAĎOUTHERN TAčNORTHERN TAčSAĎIMALUNGUN SAčMANDAILING SAčYAčSIMALUNGUN YAčNGAčLAčSIMALUNGUN L",
    "AčNYAčCAčNDAčMBAčIčUĆSIGN TOMPIĆVOWEL SIGN EđPAKPAK EđEEđIđKARO IđOđKARO OđUĒ FOR SIMALUNGUN SAĆ",
    "CONSONANT SIGN NGĕHĆPANGOLATĉONGONAN@1BFCĆSYMBOL BINDU NA METEKēPINARBORASēJUDULēPANGOLATĀLEPCHA",
    " LETTER KAďLAďHAĎGAďLAĎNGAĎCAďHAĎJAĎNYAĎTAďHAĎDAĎNAĎPAďLAďHAĎFAďLAĎBAďLAĎMAďLAĎTSAĐHAĎDZAĎYAĎRAĎ",
    "LAĎHAďLAĎVAĎSAďHAĎWAĎAćSUBJOINED LETTER YAĘRAćVOWEL SIGN AAĒIĒOēOĒUēUĒEćCONSONANT SIGN KĖMĖLĖNĖP",
    "ĖRĖTĖNYIN-DOĖKANGćSIGN RANČNUKTA@1C3BćPUNCTUATION TA-ROLēNYET THYOOM TA-ROLēCER-WAēTSHOOK CER-WA",
    "ęćDIGIT ZEROčONEčTWOĎHREEčFOURĎIVEčSIXĎEVENčEIGHTčNINE@1C4DćLETTER TTAĐHAĎDDAĀOL CHIKI DIGIT ZER",
    "OďONEďTWOĐHREEďFOURĐIVEďSIXĐEVENďEIGHTďNINEĉLETTER LAĐATđGđNGđLĐLAAĐAAKĒJĒMĒWĐLIĐISđHđNYđRĐLUĐUC",
    "đDđNNđYĐLEĐEPđDDđNđRRĐLOĐOTTđBđVđHĉMU TTUDDAGĉGAAHLAA TTUDDAAGĉMU-GAAHLAA TTUDDAAGĉRELAAĉPHAARKA",
    "AĉAHADĉPUNCTUATION MUCAADĕDOUBLE MUCAADĀCYRILLIC SMALL LETTER ROUNDED VEĖLONG-LEGGED DEĖNARROW O",
    "ĖWIDE ESĖTALL TEėHREE-LEGGED TEėALL HARD SIGNěYATĖUNBLENDED UK@1C90ĀGEORGIAN MTAVRULI CAPITAL LE",
    "TTER ANġBANġGANġDONġENġVINġZENġTANġINġKANġLASġMANġNARġONġPARġZHARġRAEġSANġTARġUNġPHARġKHARġGHANġ",
    "QARġSHINġCHINĢANġJILġCILĢHARġXANġJHANġHAEĢEĢIEġWEġHARĢOEġFIġYNġELIFIġTURNED GANġAIN@1CBDĢENġHARD",
    " SIGNġLABIAL SIGNĀSUNDANESE PUNCTUATION BINDU SURYAĜPANGLONGĝURNAMAĜCAKRAĜLEU SATANGAĜKA SATANGA",
    "ĜDA SATANGAĜBA SATANGA@1CD0ĀVEDIC TONE KARSHANAċSHARAċPRENKHAĆSIGN NIHSHVASAċYAJURVEDIC MIDLINE ",
    "SVARITAĆTONE YAJURVEDIC AGGRAVATED INDEPENDENT SVARITAĖINDEPENDENT SVARITAĖKATHAKA INDEPENDENT S",
    "VARITAċCANDRA BELOWċYAJURVEDIC KATHAKA INDEPENDENT SVARITA SCHROEDERċDOUBLE SVARITAċTRIPLE SVARI",
    "TAċKATHAKA ANUDATTAċDOT BELOWċTWO DOTS BELOWČHREE DOTS BELOWċRIGVEDIC KASHMIRI INDEPENDENT SVARI",
    "TAċATHARVAVEDIC INDEPENDENT SVARITAĆSIGN VISARGA SVARITAēUDATTAċREVERSED VISARGA UDATTAċVISARGA ",
    "ANUDATTAċREVERSED VISARGA ANUDATTAċVISARGA UDATTA WITH TAILēANUDATTA WITH TAILċANUSVARA ANTARGOM",
    "UKHAĔBAHIRGOMUKHAĔVAMAGOMUKHAğ WITH TAILċTIRYAKċHEXIFORM LONG ANUSVARAċLONG ANUSVARAċRTHANG LONG",
    " ANUSVARAċANUSVARA UBHAYATO MUKHAČRDHAVISARGAċROTATED ARDHAVISARGAĆTONE CANDRA ABOVEĆSIGN JIHVAM",
    "ULIYAċUPADHMANIYAċATIKRAMAĆTONE RING ABOVEċDOUBLE RING ABOVEĆSIGN DOUBLE ANUSVARA ANTARGOMUKHA@1",
    "D00ĀLATIN LETTER SMALL CAPITAL AĜEĆSMALL LETTER TURNED AEĆLETTER SMALL CAPITAL BARRED BěCěDěETHĜ",
    "ĆSMALL LETTER TURNED OPEN EĚIĆLETTER SMALL CAPITAL JěKěL WITH STROKEěMěREVERSED NěOĜPEN OĆSMALL ",
    "LETTER SIDEWAYS OĝPEN Oĝ WITH STROKEēTURNED OEĆLETTER SMALL CAPITAL OUĆSMALL LETTER TOP HALF OēB",
    "OTTOM HALF OĆLETTER SMALL CAPITAL PěREVERSED RěTURNED RĜěUĆSMALL LETTER SIDEWAYS UĜDIAERESIZED U",
    "ĜTURNED MĆLETTER SMALL CAPITAL VěWěZěEZHčVOICED LARYNGEAL SPIRANTčAINĀGREEK LETTER SMALL CAPITAL",
    " GAMMAěLAMDAěPIěRHOěPSIĀCYRILLIC LETTER SMALL CAPITAL ELĀMODIFIER LETTER CAPITAL AęEĘBęARRED BĘD",
    "ĘEĘREVERSED EĘGĘHĘIĘJĘKĘLĘMĘNĘREVERSED NĘOęUĘPĘRĘTĘUĘWĐSMALL AĖTURNED AĖALPHAĖTURNED AEĖBĖDĖEĖSC",
    "HWAĖOPEN EĖTURNED OPEN EĖGĖTURNED IĖKĖMĖENGĖOėPEN OĖTOP HALF OĖBOTTOM HALF OĖPĖTĖUĖSIDEWAYS UĖTU",
    "RNED MĖVĖAINĖBETAĖGREEK GAMMAĖDELTAĖGREEK PHIĖCHIĀLATIN SUBSCRIPT SMALL LETTER IĝRĝUĝVĀGREEK SUB",
    "SCRIPT SMALL LETTER BETAĝGAMMAĝRHOĝPHIĝCHIĀLATIN SMALL LETTER UEēB WITH MIDDLE TILDEēD WITH MIDD",
    "LE TILDEēF WITH MIDDLE TILDEēM WITH MIDDLE TILDEēN WITH MIDDLE TILDEēP WITH MIDDLE TILDEēR WITH ",
    "MIDDLE TILDEĚFISHHOOK AND MIDDLE TILDEēS WITH MIDDLE TILDEēT WITH MIDDLE TILDEēZ WITH MIDDLE TIL",
    "DEēTURNED GĀMODIFIER LETTER CYRILLIC ENĀLATIN SMALL LETTER INSULAR GēTH WITH STRIKETHROUGHČCAPIT",
    "AL LETTER I WITH STROKEČLETTER IOTA WITH STROKEēP WITH STROKEČCAPITAL LETTER U WITH STROKEČLETTE",
    "R UPSILON WITH STROKEēB WITH PALATAL HOOKēD WITH PALATAL HOOKēF WITH PALATAL HOOKēG WITH PALATAL",
    " HOOKēK WITH PALATAL HOOKēL WITH PALATAL HOOKēM WITH PALATAL HOOKēN WITH PALATAL HOOKēP WITH PAL",
    "ATAL HOOKēR WITH PALATAL HOOKēS WITH PALATAL HOOKēESH WITH PALATAL HOOKēV WITH PALATAL HOOKēX WI",
    "TH PALATAL HOOKēZ WITH PALATAL HOOKēA WITH RETROFLEX HOOKĔLPHA WITH RETROFLEX HOOKēD WITH HOOK A",
    "ND TAILēE WITH RETROFLEX HOOKēOPEN E WITH RETROFLEX HOOKēREVERSED OPEN E WITH RETROFLEX HOOKēSCH",
    "WA WITH RETROFLEX HOOKēI WITH RETROFLEX HOOKēOPEN O WITH RETROFLEX HOOKēESH WITH RETROFLEX HOOKē",
    "U WITH RETROFLEX HOOKēEZH WITH RETROFLEX HOOKĀMODIFIER LETTER SMALL TURNED ALPHAĖCė WITH CURLĖET",
    "HĖREVERSED OPEN EĖFĖDOTLESS J WITH STROKEĖSCRIPT GĖTURNED HĖI WITH STROKEėOTAĖCAPITAL Iğ WITH ST",
    "ROKEĖJ WITH CROSSED-TAILĖL WITH RETROFLEX HOOKĝPALATAL HOOKĖCAPITAL LĖM WITH HOOKĖTURNED M WITH ",
    "LONG LEGĖN WITH LEFT HOOKĝRETROFLEX HOOKĖCAPITAL NĖBARRED OĖPHIĖS WITH HOOKĖESHĖT WITH PALATAL H",
    "OOKĖU BARėPSILONĖCAPITAL UĖV WITH HOOKĖTURNED VĖZė WITH RETROFLEX HOOKĝCURLĖEZHĖTHETAĀCOMBINING ",
    "DOTTED GRAVE ACCENTđACUTE ACCENTĊSNAKE BELOWċUSPENSION MARKĊMACRON-ACUTEĊGRAVE-MACRONĊMACRON-GRA",
    "VEĊACUTE-MACRONĊGRAVE-ACUTE-GRAVEĊACUTE-GRAVE-ACUTEĊLATIN SMALL LETTER R BELOWĊBREVE-MACRONĊMACR",
    "ON-BREVEĊDOUBLE CIRCUMFLEX ABOVEĊOGONEK ABOVEĊZIGZAG BELOWĊIS BELOWĊUR ABOVEċS ABOVEĊLATIN SMALL",
    " LETTER FLATTENED OPEN A ABOVEĝAEĞOĞVĝC CEDILLAĝINSULAR DĝETHĝGĐLETTER SMALL CAPITAL GĐSMALL LET",
    "TER KĝLĐLETTER SMALL CAPITAL LĥMĐSMALL LETTER NĐLETTER SMALL CAPITAL NĥRĐSMALL LETTER R ROTUNDAĝ",
    "SĝLONG SĝZĝALPHAĝBĞETAĝSCHWAĝFĝL WITH DOUBLE MIDDLE TILDEĝO WITH LIGHT CENTRALIZATION STROKEĝPĝE",
    "SHĝU WITH LIGHT CENTRALIZATION STROKEĝWĝA WITH DIAERESISĝO WITH DIAERESISĝU WITH DIAERESISĊUP TA",
    "CK ABOVEĊKAVYKA ABOVE RIGHTėLEFTĊDOT ABOVE LEFTĊWIDE INVERTED BRIDGE BELOWĊDOT BELOW LEFTċELETIO",
    "N MARKċOUBLE INVERTED BREVE BELOWĊALMOST EQUAL TO BELOWĊLEFT ARROWHEAD ABOVEĊRIGHT ARROWHEAD AND",
    " DOWN ARROWHEAD BELOWĀLATIN CAPITAL LETTER A WITH RING BELOWĆSMALL LETTER A WITH RING BELOWĆCAPI",
    "TAL LETTER B WITH DOT ABOVEĆSMALL LETTER B WITH DOT ABOVEĆCAPITAL LETTER B WITH DOT BELOWĆSMALL ",
    "LETTER B WITH DOT BELOWĆCAPITAL LETTER B WITH LINE BELOWĆSMALL LETTER B WITH LINE BELOWĆCAPITAL ",
    "LETTER C WITH CEDILLA AND ACUTEĆSMALL LETTER C WITH CEDILLA AND ACUTEĆCAPITAL LETTER D WITH DOT ",
    "ABOVEĆSMALL LETTER D WITH DOT ABOVEĆCAPITAL LETTER D WITH DOT BELOWĆSMALL LETTER D WITH DOT BELO",
    "WĆCAPITAL LETTER D WITH LINE BELOWĆSMALL LETTER D WITH LINE BELOWĆCAPITAL LETTER D WITH CEDILLAĆ",
    "SMALL LETTER D WITH CEDILLAĆCAPITAL LETTER D WITH CIRCUMFLEX BELOWĆSMALL LETTER D WITH CIRCUMFLE",
    "X BELOWĆCAPITAL LETTER E WITH MACRON AND GRAVEĆSMALL LETTER E WITH MACRON AND GRAVEĆCAPITAL LETT",
    "ER E WITH MACRON AND ACUTEĆSMALL LETTER E WITH MACRON AND ACUTEĆCAPITAL LETTER E WITH CIRCUMFLEX",
    " BELOWĆSMALL LETTER E WITH CIRCUMFLEX BELOWĆCAPITAL LETTER E WITH TILDE BELOWĆSMALL LETTER E WIT",
    "H TILDE BELOWĆCAPITAL LETTER E WITH CEDILLA AND BREVEĆSMALL LETTER E WITH CEDILLA AND BREVEĆCAPI",
    "TAL LETTER F WITH DOT ABOVEĆSMALL LETTER F WITH DOT ABOVEĆCAPITAL LETTER G WITH MACRONĆSMALL LET",
    "TER G WITH MACRONĆCAPITAL LETTER H WITH DOT ABOVEĆSMALL LETTER H WITH DOT ABOVEĆCAPITAL LETTER H"],
  String.join [
    " WITH DOT BELOWĆSMALL LETTER H WITH DOT BELOWĆCAPITAL LETTER H WITH DIAERESISĆSMALL LETTER H WIT",
    "H DIAERESISĆCAPITAL LETTER H WITH CEDILLAĆSMALL LETTER H WITH CEDILLAĆCAPITAL LETTER H WITH BREV",
    "E BELOWĆSMALL LETTER H WITH BREVE BELOWĆCAPITAL LETTER I WITH TILDE BELOWĆSMALL LETTER I WITH TI",
    "LDE BELOWĆCAPITAL LETTER I WITH DIAERESIS AND ACUTEĆSMALL LETTER I WITH DIAERESIS AND ACUTEĆCAPI",
    "TAL LETTER K WITH ACUTEĆSMALL LETTER K WITH ACUTEĆCAPITAL LETTER K WITH DOT BELOWĆSMALL LETTER K",
    " WITH DOT BELOWĆCAPITAL LETTER K WITH LINE BELOWĆSMALL LETTER K WITH LINE BELOWĆCAPITAL LETTER L",
    " WITH DOT BELOWĆSMALL LETTER L WITH DOT BELOWĆCAPITAL LETTER L WITH DOT BELOW AND MACRONĆSMALL L",
    "ETTER L WITH DOT BELOW AND MACRONĆCAPITAL LETTER L WITH LINE BELOWĆSMALL LETTER L WITH LINE BELO",
    "WĆCAPITAL LETTER L WITH CIRCUMFLEX BELOWĆSMALL LETTER L WITH CIRCUMFLEX BELOWĆCAPITAL LETTER M W",
    "ITH ACUTEĆSMALL LETTER M WITH ACUTEĆCAPITAL LETTER M WITH DOT ABOVEĆSMALL LETTER M WITH DOT ABOV",
    "EĆCAPITAL LETTER M WITH DOT BELOWĆSMALL LETTER M WITH DOT BELOWĆCAPITAL LETTER N WITH DOT ABOVEĆ",
    "SMALL LETTER N WITH DOT ABOVEĆCAPITAL LETTER N WITH DOT BELOWĆSMALL LETTER N WITH DOT BELOWĆCAPI",
    "TAL LETTER N WITH LINE BELOWĆSMALL LETTER N WITH LINE BELOWĆCAPITAL LETTER N WITH CIRCUMFLEX BEL",
    "OWĆSMALL LETTER N WITH CIRCUMFLEX BELOWĆCAPITAL LETTER O WITH TILDE AND ACUTEĆSMALL LETTER O WIT",
    "H TILDE AND ACUTEĆCAPITAL LETTER O WITH TILDE AND DIAERESISĆSMALL LETTER O WITH TILDE AND DIAERE",
    "SISĆCAPITAL LETTER O WITH MACRON AND GRAVEĆSMALL LETTER O WITH MACRON AND GRAVEĆCAPITAL LETTER O",
    " WITH MACRON AND ACUTEĆSMALL LETTER O WITH MACRON AND ACUTEĆCAPITAL LETTER P WITH ACUTEĆSMALL LE",
    "TTER P WITH ACUTEĆCAPITAL LETTER P WITH DOT ABOVEĆSMALL LETTER P WITH DOT ABOVEĆCAPITAL LETTER R",
    " WITH DOT ABOVEĆSMALL LETTER R WITH DOT ABOVEĆCAPITAL LETTER R WITH DOT BELOWĆSMALL LETTER R WIT",
    "H DOT BELOWĆCAPITAL LETTER R WITH DOT BELOW AND MACRONĆSMALL LETTER R WITH DOT BELOW AND MACRONĆ",
    "CAPITAL LETTER R WITH LINE BELOWĆSMALL LETTER R WITH LINE BELOWĆCAPITAL LETTER S WITH DOT ABOVEĆ",
    "SMALL LETTER S WITH DOT ABOVEĆCAPITAL LETTER S WITH DOT BELOWĆSMALL LETTER S WITH DOT BELOWĆCAPI",
    "TAL LETTER S WITH ACUTE AND DOT ABOVEĆSMALL LETTER S WITH ACUTE AND DOT ABOVEĆCAPITAL LETTER S W",
    "ITH CARON AND DOT ABOVEĆSMALL LETTER S WITH CARON AND DOT ABOVEĆCAPITAL LETTER S WITH DOT BELOW ",
    "AND DOT ABOVEĆSMALL LETTER S WITH DOT BELOW AND DOT ABOVEĆCAPITAL LETTER T WITH DOT ABOVEĆSMALL ",
    "LETTER T WITH DOT ABOVEĆCAPITAL LETTER T WITH DOT BELOWĆSMALL LETTER T WITH DOT BELOWĆCAPITAL LE",
    "TTER T WITH LINE BELOWĆSMALL LETTER T WITH LINE BELOWĆCAPITAL LETTER T WITH CIRCUMFLEX BELOWĆSMA",
    "LL LETTER T WITH CIRCUMFLEX BELOWĆCAPITAL LETTER U WITH DIAERESIS BELOWĆSMALL LETTER U WITH DIAE",
    "RESIS BELOWĆCAPITAL LETTER U WITH TILDE BELOWĆSMALL LETTER U WITH TILDE BELOWĆCAPITAL LETTER U W",
    "ITH CIRCUMFLEX BELOWĆSMALL LETTER U WITH CIRCUMFLEX BELOWĆCAPITAL LETTER U WITH TILDE AND ACUTEĆ",
    "SMALL LETTER U WITH TILDE AND ACUTEĆCAPITAL LETTER U WITH MACRON AND DIAERESISĆSMALL LETTER U WI",
    "TH MACRON AND DIAERESISĆCAPITAL LETTER V WITH TILDEĆSMALL LETTER V WITH TILDEĆCAPITAL LETTER V W",
    "ITH DOT BELOWĆSMALL LETTER V WITH DOT BELOWĆCAPITAL LETTER W WITH GRAVEĆSMALL LETTER W WITH GRAV",
    "EĆCAPITAL LETTER W WITH ACUTEĆSMALL LETTER W WITH ACUTEĆCAPITAL LETTER W WITH DIAERESISĆSMALL LE",
    "TTER W WITH DIAERESISĆCAPITAL LETTER W WITH DOT ABOVEĆSMALL LETTER W WITH DOT ABOVEĆCAPITAL LETT",
    "ER W WITH DOT BELOWĆSMALL LETTER W WITH DOT BELOWĆCAPITAL LETTER X WITH DOT ABOVEĆSMALL LETTER X",
    " WITH DOT ABOVEĆCAPITAL LETTER X WITH DIAERESISĆSMALL LETTER X WITH DIAERESISĆCAPITAL LETTER Y W",
    "ITH DOT ABOVEĆSMALL LETTER Y WITH DOT ABOVEĆCAPITAL LETTER Z WITH CIRCUMFLEXĆSMALL LETTER Z WITH",
    " CIRCUMFLEXĆCAPITAL LETTER Z WITH DOT BELOWĆSMALL LETTER Z WITH DOT BELOWĆCAPITAL LETTER Z WITH ",
    "LINE BELOWĆSMALL LETTER Z WITH LINE BELOWēH WITH LINE BELOWēT WITH DIAERESISēW WITH RING ABOVEēY",
    " WITH RING ABOVEēA WITH RIGHT HALF RINGēLONG S WITH DOT ABOVEĠIAGONAL STROKEğHIGH STROKEĆCAPITAL",
    " LETTER SHARP SĆSMALL LETTER DELTAĆCAPITAL LETTER A WITH DOT BELOWĆSMALL LETTER A WITH DOT BELOW",
    "ĆCAPITAL LETTER A WITH HOOK ABOVEĆSMALL LETTER A WITH HOOK ABOVEĆCAPITAL LETTER A WITH CIRCUMFLE",
    "X AND ACUTEĆSMALL LETTER A WITH CIRCUMFLEX AND ACUTEĆCAPITAL LETTER A WITH CIRCUMFLEX AND GRAVEĆ",
    "SMALL LETTER A WITH CIRCUMFLEX AND GRAVEĆCAPITAL LETTER A WITH CIRCUMFLEX AND HOOK ABOVEĆSMALL L",
    "ETTER A WITH CIRCUMFLEX AND HOOK ABOVEĆCAPITAL LETTER A WITH CIRCUMFLEX AND TILDEĆSMALL LETTER A",
    " WITH CIRCUMFLEX AND TILDEĆCAPITAL LETTER A WITH CIRCUMFLEX AND DOT BELOWĆSMALL LETTER A WITH CI",
    "RCUMFLEX AND DOT BELOWĆCAPITAL LETTER A WITH BREVE AND ACUTEĆSMALL LETTER A WITH BREVE AND ACUTE",
    "ĆCAPITAL LETTER A WITH BREVE AND GRAVEĆSMALL LETTER A WITH BREVE AND GRAVEĆCAPITAL LETTER A WITH",
    " BREVE AND HOOK ABOVEĆSMALL LETTER A WITH BREVE AND HOOK ABOVEĆCAPITAL LETTER A WITH BREVE AND T",
    "ILDEĆSMALL LETTER A WITH BREVE AND TILDEĆCAPITAL LETTER A WITH BREVE AND DOT BELOWĆSMALL LETTER ",
    "A WITH BREVE AND DOT BELOWĆCAPITAL LETTER E WITH DOT BELOWĆSMALL LETTER E WITH DOT BELOWĆCAPITAL",
    " LETTER E WITH HOOK ABOVEĆSMALL LETTER E WITH HOOK ABOVEĆCAPITAL LETTER E WITH TILDEĆSMALL LETTE",
    "R E WITH TILDEĆCAPITAL LETTER E WITH CIRCUMFLEX AND ACUTEĆSMALL LETTER E WITH CIRCUMFLEX AND ACU",
    "TEĆCAPITAL LETTER E WITH CIRCUMFLEX AND GRAVEĆSMALL LETTER E WITH CIRCUMFLEX AND GRAVEĆCAPITAL L",
    "ETTER E WITH CIRCUMFLEX AND HOOK ABOVEĆSMALL LETTER E WITH CIRCUMFLEX AND HOOK ABOVEĆCAPITAL LET",
    "TER E WITH CIRCUMFLEX AND TILDEĆSMALL LETTER E WITH CIRCUMFLEX AND TILDEĆCAPITAL LETTER E WITH C",
    "IRCUMFLEX AND DOT BELOWĆSMALL LETTER E WITH CIRCUMFLEX AND DOT BELOWĆCAPITAL LETTER I WITH HOOK ",
    "ABOVEĆSMALL LETTER I WITH HOOK ABOVEĆCAPITAL LETTER I WITH DOT BELOWĆSMALL LETTER I WITH DOT BEL",
    "OWĆCAPITAL LETTER O WITH DOT BELOWĆSMALL LETTER O WITH DOT BELOWĆCAPITAL LETTER O WITH HOOK ABOV",
    "EĆSMALL LETTER O WITH HOOK ABOVEĆCAPITAL LETTER O WITH CIRCUMFLEX AND ACUTEĆSMALL LETTER O WITH ",
    "CIRCUMFLEX AND ACUTEĆCAPITAL LETTER O WITH CIRCUMFLEX AND GRAVEĆSMALL LETTER O WITH CIRCUMFLEX A",
    "ND GRAVEĆCAPITAL LETTER O WITH CIRCUMFLEX AND HOOK ABOVEĆSMALL LETTER O WITH CIRCUMFLEX AND HOOK",
    " ABOVEĆCAPITAL LETTER O WITH CIRCUMFLEX AND TILDEĆSMALL LETTER O WITH CIRCUMFLEX AND TILDEĆCAPIT",
    "AL LETTER O WITH CIRCUMFLEX AND DOT BELOWĆSMALL LETTER O WITH CIRCUMFLEX AND DOT BELOWĆCAPITAL L",
    "ETTER O WITH HORN AND ACUTEĆSMALL LETTER O WITH HORN AND ACUTEĆCAPITAL LETTER O WITH HORN AND GR",
    "AVEĆSMALL LETTER O WITH HORN AND GRAVEĆCAPITAL LETTER O WITH HORN AND HOOK ABOVEĆSMALL LETTER O ",
    "WITH HORN AND HOOK ABOVEĆCAPITAL LETTER O WITH HORN AND TILDEĆSMALL LETTER O WITH HORN AND TILDE",
    "ĆCAPITAL LETTER O WITH HORN AND DOT BELOWĆSMALL LETTER O WITH HORN AND DOT BELOWĆCAPITAL LETTER ",
    "U WITH DOT BELOWĆSMALL LETTER U WITH DOT BELOWĆCAPITAL LETTER U WITH HOOK ABOVEĆSMALL LETTER U W",
    "ITH HOOK ABOVEĆCAPITAL LETTER U WITH HORN AND ACUTEĆSMALL LETTER U WITH HORN AND ACUTEĆCAPITAL L",
    "ETTER U WITH HORN AND GRAVEĆSMALL LETTER U WITH HORN AND GRAVEĆCAPITAL LETTER U WITH HORN AND HO",
    "OK ABOVEĆSMALL LETTER U WITH HORN AND HOOK ABOVEĆCAPITAL LETTER U WITH HORN AND TILDEĆSMALL LETT",
    "ER U WITH HORN AND TILDEĆCAPITAL LETTER U WITH HORN AND DOT BELOWĆSMALL LETTER U WITH HORN AND D",
    "OT BELOWĆCAPITAL LETTER Y WITH GRAVEĆSMALL LETTER Y WITH GRAVEĆCAPITAL LETTER Y WITH DOT BELOWĆS",
    "MALL LETTER Y WITH DOT BELOWĆCAPITAL LETTER Y WITH HOOK ABOVEĆSMALL LETTER Y WITH HOOK ABOVEĆCAP",
    "ITAL LETTER Y WITH TILDEĆSMALL LETTER Y WITH TILDEĆCAPITAL LETTER MIDDLE-WELSH LLĆSMALL LETTER M",
    "IDDLE-WELSH LLĆCAPITAL LETTER MIDDLE-WELSH VĆSMALL LETTER MIDDLE-WELSH VĆCAPITAL LETTER Y WITH L",
    "OOPĆSMALL LETTER Y WITH LOOPĀGREEK SMALL LETTER ALPHA WITH PSILIĞDASIAĞPSILI AND VARIAĞDASIA AND",
    " VARIAĞPSILI AND OXIAĞDASIA AND OXIAĞPSILI AND PERISPOMENIĞDASIA AND PERISPOMENIĆCAPITAL LETTER ",
    "ALPHA WITH PSILIĠDASIAĠPSILI AND VARIAĠDASIA AND VARIAĠPSILI AND OXIAĠDASIA AND OXIAĠPSILI AND P",
    "ERISPOMENIĠDASIA AND PERISPOMENIĆSMALL LETTER EPSILON WITH PSILIĠDASIAĠPSILI AND VARIAĠDASIA AND",
    " VARIAĠPSILI AND OXIAĠDASIA AND OXIA@1F18ĆCAPITAL LETTER EPSILON WITH PSILIĢDASIAĢPSILI AND VARI",
    "AĢDASIA AND VARIAĢPSILI AND OXIAĢDASIA AND OXIA@1F20ĆSMALL LETTER ETA WITH PSILIĜDASIAĜPSILI AND",
    " VARIAĜDASIA AND VARIAĜPSILI AND OXIAĜDASIA AND OXIAĜPSILI AND PERISPOMENIĜDASIA AND PERISPOMENI",
    "ĆCAPITAL LETTER ETA WITH PSILIĞDASIAĞPSILI AND VARIAĞDASIA AND VARIAĞPSILI AND OXIAĞDASIA AND OX",
    "IAĞPSILI AND PERISPOMENIĞDASIA AND PERISPOMENIĆSMALL LETTER IOTA WITH PSILIĝDASIAĝPSILI AND VARI",
    "AĝDASIA AND VARIAĝPSILI AND OXIAĝDASIA AND OXIAĝPSILI AND PERISPOMENIĝDASIA AND PERISPOMENIĆCAPI",
    "TAL LETTER IOTA WITH PSILIğDASIAğPSILI AND VARIAğDASIA AND VARIAğPSILI AND OXIAğDASIA AND OXIAğP",
    "SILI AND PERISPOMENIğDASIA AND PERISPOMENIĆSMALL LETTER OMICRON WITH PSILIĠDASIAĠPSILI AND VARIA",
    "ĠDASIA AND VARIAĠPSILI AND OXIAĠDASIA AND OXIA@1F48ĆCAPITAL LETTER OMICRON WITH PSILIĢDASIAĢPSIL",
    "I AND VARIAĢDASIA AND VARIAĢPSILI AND OXIAĢDASIA AND OXIA@1F50ĆSMALL LETTER UPSILON WITH PSILIĠD",
    "ASIAĠPSILI AND VARIAĠDASIA AND VARIAĠPSILI AND OXIAĠDASIA AND OXIAĠPSILI AND PERISPOMENIĠDASIA A",
    "ND PERISPOMENI@1F59ĆCAPITAL LETTER UPSILON WITH DASIA@1F5Bħ AND VARIA@1F5DĬOXIA@1F5FĬPERISPOMENI",
    "ĆSMALL LETTER OMEGA WITH PSILIĞDASIAĞPSILI AND VARIAĞDASIA AND VARIAĞPSILI AND OXIAĞDASIA AND OX",
    "IAĞPSILI AND PERISPOMENIĞDASIA AND PERISPOMENIĆCAPITAL LETTER OMEGA WITH PSILIĠDASIAĠPSILI AND V",
    "ARIAĠDASIA AND VARIAĠPSILI AND OXIAĠDASIA AND OXIAĠPSILI AND PERISPOMENIĠDASIA AND PERISPOMENIĆS",
    "MALL LETTER ALPHA WITH VARIAĞOXIAēEPSILON WITH VARIAĠOXIAĔTA WITH VARIAĜOXIAēIOTA WITH VARIAĝOXI",
    "AēOMICRON WITH VARIAĠOXIAēUPSILON WITH VARIAĠOXIAēOMEGA WITH VARIAĞOXIA@1F80ēALPHA WITH PSILI AN",
    "D YPOGEGRAMMENIĞDASIA AND YPOGEGRAMMENIĞPSILI AND VARIA AND YPOGEGRAMMENIĞDASIA AND VARIA AND YP"],
  String.join [
    "OGEGRAMMENIĞPSILI AND OXIA AND YPOGEGRAMMENIĞDASIA AND OXIA AND YPOGEGRAMMENIĞPSILI AND PERISPOM",
    "ENI AND YPOGEGRAMMENIĞDASIA AND PERISPOMENI AND YPOGEGRAMMENIĆCAPITAL LETTER ALPHA WITH PSILI AN",
    "D PROSGEGRAMMENIĠDASIA AND PROSGEGRAMMENIĠPSILI AND VARIA AND PROSGEGRAMMENIĠDASIA AND VARIA AND",
    " PROSGEGRAMMENIĠPSILI AND OXIA AND PROSGEGRAMMENIĠDASIA AND OXIA AND PROSGEGRAMMENIĠPSILI AND PE",
    "RISPOMENI AND PROSGEGRAMMENIĠDASIA AND PERISPOMENI AND PROSGEGRAMMENIĆSMALL LETTER ETA WITH PSIL",
    "I AND YPOGEGRAMMENIĜDASIA AND YPOGEGRAMMENIĜPSILI AND VARIA AND YPOGEGRAMMENIĜDASIA AND VARIA AN",
    "D YPOGEGRAMMENIĜPSILI AND OXIA AND YPOGEGRAMMENIĜDASIA AND OXIA AND YPOGEGRAMMENIĜPSILI AND PERI",
    "SPOMENI AND YPOGEGRAMMENIĜDASIA AND PERISPOMENI AND YPOGEGRAMMENIĆCAPITAL LETTER ETA WITH PSILI ",
    "AND PROSGEGRAMMENIĞDASIA AND PROSGEGRAMMENIĞPSILI AND VARIA AND PROSGEGRAMMENIĞDASIA AND VARIA A",
    "ND PROSGEGRAMMENIĞPSILI AND OXIA AND PROSGEGRAMMENIĞDASIA AND OXIA AND PROSGEGRAMMENIĞPSILI AND ",
    "PERISPOMENI AND PROSGEGRAMMENIĞDASIA AND PERISPOMENI AND PROSGEGRAMMENIĆSMALL LETTER OMEGA WITH ",
    "PSILI AND YPOGEGRAMMENIĞDASIA AND YPOGEGRAMMENIĞPSILI AND VARIA AND YPOGEGRAMMENIĞDASIA AND VARI",
    "A AND YPOGEGRAMMENIĞPSILI AND OXIA AND YPOGEGRAMMENIĞDASIA AND OXIA AND YPOGEGRAMMENIĞPSILI AND ",
    "PERISPOMENI AND YPOGEGRAMMENIĞDASIA AND PERISPOMENI AND YPOGEGRAMMENIĆCAPITAL LETTER OMEGA WITH ",
    "PSILI AND PROSGEGRAMMENIĠDASIA AND PROSGEGRAMMENIĠPSILI AND VARIA AND PROSGEGRAMMENIĠDASIA AND V",
    "ARIA AND PROSGEGRAMMENIĠPSILI AND OXIA AND PROSGEGRAMMENIĠDASIA AND OXIA AND PROSGEGRAMMENIĠPSIL",
    "I AND PERISPOMENI AND PROSGEGRAMMENIĠDASIA AND PERISPOMENI AND PROSGEGRAMMENIĆSMALL LETTER ALPHA",
    " WITH VRACHYĞMACRONĞVARIA AND YPOGEGRAMMENIĞYPOGEGRAMMENIĞOXIA AND YPOGEGRAMMENI@1FB6ĞPERISPOMEN",
    "Iĩ AND YPOGEGRAMMENIĆCAPITAL LETTER ALPHA WITH VRACHYĠMACRONĠVARIAĠOXIAĠPROSGEGRAMMENIĆKORONISĆP",
    "ROSGEGRAMMENIćSILIćERISPOMENIĆDIALYTIKA AND PERISPOMENIĆSMALL LETTER ETA WITH VARIA AND YPOGEGRA",
    "MMENIĜYPOGEGRAMMENIĜOXIA AND YPOGEGRAMMENI@1FC6ĜPERISPOMENIħ AND YPOGEGRAMMENIĆCAPITAL LETTER EP",
    "SILON WITH VARIAĢOXIAĖTA WITH VARIAĞOXIAĞPROSGEGRAMMENIĆPSILI AND VARIAĐOXIAĐPERISPOMENIĆSMALL L",
    "ETTER IOTA WITH VRACHYĝMACRONĝDIALYTIKA AND VARIAīOXIA@1FD6ĝPERISPOMENIĝDIALYTIKA AND PERISPOMEN",
    "IĆCAPITAL LETTER IOTA WITH VRACHYğMACRONğVARIAğOXIA@1FDDĆDASIA AND VARIAĐOXIAĐPERISPOMENIĆSMALL ",
    "LETTER UPSILON WITH VRACHYĠMACRONĠDIALYTIKA AND VARIAĮOXIAēRHO WITH PSILIĜDASIAēUPSILON WITH PER",
    "ISPOMENIĠDIALYTIKA AND PERISPOMENIĆCAPITAL LETTER UPSILON WITH VRACHYĢMACRONĢVARIAĢOXIAĕRHO WITH",
    " DASIAĆDIALYTIKA AND VARIAĔOXIAĆVARIA@1FF2ĆSMALL LETTER OMEGA WITH VARIA AND YPOGEGRAMMENIĞYPOGE",
    "GRAMMENIĞOXIA AND YPOGEGRAMMENI@1FF6ĞPERISPOMENIĩ AND YPOGEGRAMMENIĆCAPITAL LETTER OMICRON WITH ",
    "VARIAĢOXIAėEGA WITH VARIAĠOXIAĠPROSGEGRAMMENIĆOXIAĆDASIA@2000ĀEN QUADāM QUADāN SPACEāM SPACEĀTHR",
    "EE-PER-EM SPACEĀFOUR-PER-EM SPACEĀSIX-PER-EM SPACEĀFIGURE SPACEĀPUNCTUATION SPACEĀTHIN SPACEĀHAI",
    "R SPACEĀZERO WIDTH SPACEċNON-JOINERċJOINERĀLEFT-TO-RIGHT MARKĀRIGHT-TO-LEFT MARKĀHYPHENĀNON-BREA",
    "KING HYPHENĀFIGURE DASHĀEN DASHāM DASHĀHORIZONTAL BARĀDOUBLE VERTICAL LINEćLOW LINEĀLEFT SINGLE ",
    "QUOTATION MARKĀRIGHT SINGLE QUOTATION MARKĀSINGLE LOW-9 QUOTATION MARKćHIGH-REVERSED-9 QUOTATION",
    " MARKĀLEFT DOUBLE QUOTATION MARKĀRIGHT DOUBLE QUOTATION MARKĀDOUBLE LOW-9 QUOTATION MARKćHIGH-RE",
    "VERSED-9 QUOTATION MARKāAGGERāOUBLE DAGGERĀBULLETĀTRIANGULAR BULLETĀONE DOT LEADERĀTWO DOT LEADE",
    "RĀHORIZONTAL ELLIPSISāYPHENATION POINTĀLINE SEPARATORĀPARAGRAPH SEPARATORĀLEFT-TO-RIGHT EMBEDDIN",
    "GĀRIGHT-TO-LEFT EMBEDDINGĀPOP DIRECTIONAL FORMATTINGĀLEFT-TO-RIGHT OVERRIDEĀRIGHT-TO-LEFT OVERRI",
    "DEĀNARROW NO-BREAK SPACEĀPER MILLE SIGNĄTEN THOUSAND SIGNāRIMEĀDOUBLE PRIMEĀTRIPLE PRIMEĀREVERSE",
    "D PRIMEĉDOUBLE PRIMEĉTRIPLE PRIMEĀCARETĀSINGLE LEFT-POINTING ANGLE QUOTATION MARKćRIGHT-POINTING",
    " ANGLE QUOTATION MARKĀREFERENCE MARKĀDOUBLE EXCLAMATION MARKĀINTERROBANGĀOVERLINEĀUNDERTIEĀCHARA",
    "CTER TIEāARET INSERTION POINTĀASTERISMĀHYPHEN BULLETĀFRACTION SLASHĀLEFT SQUARE BRACKET WITH QUI",
    "LLĀRIGHT SQUARE BRACKET WITH QUILLĀDOUBLE QUESTION MARKĀQUESTION EXCLAMATION MARKĀEXCLAMATION QU",
    "ESTION MARKĀTIRONIAN SIGN ETĀREVERSED PILCROW SIGNĀBLACK LEFTWARDS BULLETĆRIGHTWARDS BULLETĀLOW ",
    "ASTERISKĀREVERSED SEMICOLONĀCLOSE UPĀTWO ASTERISKS ALIGNED VERTICALLYĀCOMMERCIAL MINUS SIGNĀSWUN",
    "G DASHĀINVERTED UNDERTIEĀFLOWER PUNCTUATION MARKĀTHREE DOT PUNCTUATIONĀQUADRUPLE PRIMEĀFOUR DOT ",
    "PUNCTUATIONāIVE DOT PUNCTUATIONĀTWO DOT PUNCTUATIONĀFOUR DOT MARKĀDOTTED CROSSĀTRICOLONĀVERTICAL",
    " FOUR DOTSĀMEDIUM MATHEMATICAL SPACEĀWORD JOINERĀFUNCTION APPLICATIONĀINVISIBLE TIMESĊSEPARATORĊ",
    "PLUS@2066ĀLEFT-TO-RIGHT ISOLATEĀRIGHT-TO-LEFT ISOLATEĀFIRST STRONG ISOLATEĀPOP DIRECTIONAL ISOLA",
    "TEĀINHIBIT SYMMETRIC SWAPPINGĀACTIVATE SYMMETRIC SWAPPINGĀINHIBIT ARABIC FORM SHAPINGĀACTIVATE A",
    "RABIC FORM SHAPINGĀNATIONAL DIGIT SHAPESāOMINAL DIGIT SHAPESĀSUPERSCRIPT ZEROČLATIN SMALL LETTER",
    " I@2074ČFOURčIVEČSIXčEVENČEIGHTČNINEČPLUS SIGNČMINUSČEQUALS SIGNČLEFT PARENTHESISČRIGHT PARENTHE",
    "SISČLATIN SMALL LETTER NĂBSCRIPT ZEROĊONEĊTWOċHREEĊFOURċIVEĊSIXċEVENĊEIGHTĊNINEĊPLUS SIGNĊMINUSĊ",
    "EQUALS SIGNĊLEFT PARENTHESISĊRIGHT PARENTHESIS@2090ĀLATIN SUBSCRIPT SMALL LETTER AĝEĝOĝXĝSCHWAĝH",
    "ĝKĝLĝMĝNĝPĝSĝT@20A0ĀEURO-CURRENCY SIGNĀCOLON SIGNāRUZEIRO SIGNĀFRENCH FRANC SIGNĀLIRA SIGNĀMILL ",
    "SIGNĀNAIRA SIGNĀPESETA SIGNĀRUPEE SIGNĀWON SIGNĀNEW SHEQEL SIGNĀDONG SIGNĀEURO SIGNĀKIP SIGNĀTUG",
    "RIK SIGNĀDRACHMA SIGNĀGERMAN PENNY SIGNĀPESO SIGNĀGUARANI SIGNĀAUSTRAL SIGNĀHRYVNIA SIGNĀCEDI SI",
    "GNĀLIVRE TOURNOIS SIGNĀSPESMILO SIGNĀTENGE SIGNĀINDIAN RUPEE SIGNĀTURKISH LIRA SIGNĀNORDIC MARK ",
    "SIGNĀMANAT SIGNĀRUBLE SIGNĀLARI SIGNĀBITCOIN SIGNĀSOM SIGN@20D0ĀCOMBINING LEFT HARPOON ABOVEĊRIG",
    "HT HARPOON ABOVEĊLONG VERTICAL LINE OVERLAYĊSHORT VERTICAL LINE OVERLAYĊANTICLOCKWISE ARROW ABOV",
    "EĊCLOCKWISE ARROW ABOVEĊLEFT ARROW ABOVEĊRIGHT ARROW ABOVEČNG OVERLAYĊCLOCKWISE RING OVERLAYĊANT",
    "ICLOCKWISE RING OVERLAYĊTHREE DOTS ABOVEĊFOUR DOTS ABOVEĊENCLOSING CIRCLEĔSQUAREĔDIAMONDĔCIRCLE ",
    "BACKSLASHĊLEFT RIGHT ARROW ABOVEĊENCLOSING SCREENĔKEYCAPĔUPWARD POINTING TRIANGLEĊREVERSE SOLIDU",
    "S OVERLAYĊDOUBLE VERTICAL STROKE OVERLAYĊANNUITY SYMBOLĊTRIPLE UNDERDOTĊWIDE BRIDGE ABOVEĊLEFTWA",
    "RDS ARROW OVERLAYċONG DOUBLE SOLIDUS OVERLAYĊRIGHTWARDS HARPOON WITH BARB DOWNWARDSĊLEFTWARDS HA",
    "RPOON WITH BARB DOWNWARDSĎ ARROW BELOWĊRIGHT ARROW BELOWĊASTERISK ABOVE@2100ĀACCOUNT OFāDDRESSED",
    " TO THE SUBJECTĀDOUBLE-STRUCK CAPITAL CāEGREE CELSIUSĀCENTRE LINE SYMBOLāARE OFĂDA UNAĀEULER CON",
    "STANTĀSCRUPLEĀDEGREE FAHRENHEITĀSCRIPT SMALL GćCAPITAL HĀBLACK-LETTER CAPITAL HĀDOUBLE-STRUCK CA",
    "PITAL HĀPLANCK CONSTANTď OVER TWO PIĀSCRIPT CAPITAL IĀBLACK-LETTER CAPITAL IĀSCRIPT CAPITAL LćSM",
    "ALL LĀL B BAR SYMBOLĀDOUBLE-STRUCK CAPITAL NĀNUMERO SIGNĀSOUND RECORDING COPYRIGHTāCRIPT CAPITAL",
    " PĀDOUBLE-STRUCK CAPITAL PĖQĀSCRIPT CAPITAL RĀBLACK-LETTER CAPITAL RĀDOUBLE-STRUCK CAPITAL RĀPRE",
    "SCRIPTION TAKEĀRESPONSEĀSERVICE MARKĀTELEPHONE SIGNāRADE MARK SIGNĀVERSICLEĀDOUBLE-STRUCK CAPITA",
    "L ZĀOUNCE SIGNāHM SIGNĀINVERTED OHM SIGNĀBLACK-LETTER CAPITAL ZĀTURNED GREEK SMALL LETTER IOTAĀK",
    "ELVIN SIGNĀANGSTROM SIGNĀSCRIPT CAPITAL BĀBLACK-LETTER CAPITAL CĀESTIMATED SYMBOLĀSCRIPT SMALL E",
    "ćCAPITAL EďFĀTURNED CAPITAL FĀSCRIPT CAPITAL MćSMALL OĀALEF SYMBOLĀBET SYMBOLĀGIMEL SYMBOLĀDALET",
    " SYMBOLĀINFORMATION SOURCEĀROTATED CAPITAL QĀFACSIMILE SIGNĀDOUBLE-STRUCK SMALL PIĔGAMMAĎCAPITAL",
    " GAMMAĖPIĎN-ARY SUMMATIONĀTURNED SANS-SERIF CAPITAL GĚLĀREVERSED SANS-SERIF CAPITAL LĀTURNED SAN",
    "S-SERIF CAPITAL YĀDOUBLE-STRUCK ITALIC CAPITAL DĕSMALL DěEěIěJĀPROPERTY LINEĀTURNED AMPERSANDĀPE",
    "R SIGNĀAKTIESELSKABĀTURNED SMALL FĀSYMBOL FOR SAMARITAN SOURCEĀVULGAR FRACTION ONE SEVENTHĔNINTH",
    "ĔTENTHĕHIRDĐTWO THIRDSĐONE FIFTHĐTWO FIFTHSđHREE FIFTHSĐFOUR FIFTHSĐONE SIXTHĐFIVE SIXTHSĐONE EI",
    "GHTHĐTHREE EIGHTHSĐFIVE EIGHTHSĐSEVEN EIGHTHSĀFRACTION NUMERATOR ONEĀROMAN NUMERAL ONEĎTWOďHREEĎ",
    "FOURďIVEĎSIXďEVENĎEIGHTĎNINEĎTENĎELEVENĎTWELVEĎFIFTYĎONE HUNDREDĎFIVE HUNDREDĎONE THOUSANDĀSMALL",
    " ROMAN NUMERAL ONEĔTWOĕHREEĔFOURĕIVEĔSIXĕEVENĔEIGHTĔNINEĔTENĔELEVENĔTWELVEĔFIFTYĔONE HUNDREDĔFIV",
    "E HUNDREDĔONE THOUSANDĀROMAN NUMERAL ONE THOUSAND C DĎFIVE THOUSANDĎTEN THOUSANDĎREVERSED ONE HU",
    "NDREDĀLATIN SMALL LETTER REVERSED CĀROMAN NUMERAL SIX LATE FORMĎFIFTY EARLY FORMĔTHOUSANDĎONE HU",
    "NDRED THOUSANDĀVULGAR FRACTION ZERO THIRDSĀTURNED DIGIT TWOĎHREE@2190ĀLEFTWARDS ARROWĀUPWARDS AR",
    "ROWĀRIGHTWARDS ARROWĀDOWNWARDS ARROWĀLEFT RIGHT ARROWĀUP DOWN ARROWĀNORTH WEST ARROWĆEAST ARROWĀ",
    "SOUTH EAST ARROWĆWEST ARROWĀLEFTWARDS ARROW WITH STROKEĀRIGHTWARDS ARROW WITH STROKEĀLEFTWARDS W",
    "AVE ARROWĀRIGHTWARDS WAVE ARROWĀLEFTWARDS TWO HEADED ARROWĀUPWARDS TWO HEADED ARROWĀRIGHTWARDS T",
    "WO HEADED ARROWĀDOWNWARDS TWO HEADED ARROWĀLEFTWARDS ARROW WITH TAILĀRIGHTWARDS ARROW WITH TAILĀ",
    "LEFTWARDS ARROW FROM BARĀUPWARDS ARROW FROM BARĀRIGHTWARDS ARROW FROM BARĀDOWNWARDS ARROW FROM B",
    "ARĀUP DOWN ARROW WITH BASEĀLEFTWARDS ARROW WITH HOOKĀRIGHTWARDS ARROW WITH HOOKĀLEFTWARDS ARROW ",
    "WITH LOOPĀRIGHTWARDS ARROW WITH LOOPĀLEFT RIGHT WAVE ARROWċARROW WITH STROKEĀDOWNWARDS ZIGZAG AR",
    "ROWĀUPWARDS ARROW WITH TIP LEFTWARDSėRIGHTWARDSĀDOWNWARDS ARROW WITH TIP LEFTWARDSęRIGHTWARDSĀRI",
    "GHTWARDS ARROW WITH CORNER DOWNWARDSĀDOWNWARDS ARROW WITH CORNER LEFTWARDSĀANTICLOCKWISE TOP SEM",
    "ICIRCLE ARROWĀCLOCKWISE TOP SEMICIRCLE ARROWĀNORTH WEST ARROW TO LONG BARĀLEFTWARDS ARROW TO BAR",
    " OVER RIGHTWARDS ARROW TO BARĀANTICLOCKWISE OPEN CIRCLE ARROWĀCLOCKWISE OPEN CIRCLE ARROWĀLEFTWA",
    "RDS HARPOON WITH BARB UPWARDSĜDOWNWARDSĀUPWARDS HARPOON WITH BARB RIGHTWARDSĚLEFTWARDSĀRIGHTWARD",
    "S HARPOON WITH BARB UPWARDSĝDOWNWARDSĀDOWNWARDS HARPOON WITH BARB RIGHTWARDSĜLEFTWARDSĀRIGHTWARD",
    "S ARROW OVER LEFTWARDS ARROWĀUPWARDS ARROW LEFTWARDS OF DOWNWARDS ARROWĀLEFTWARDS ARROW OVER RIG",
    "HTWARDS ARROWĊPAIRED ARROWSĀUPWARDS PAIRED ARROWSĀRIGHTWARDS PAIRED ARROWSĀDOWNWARDS PAIRED ARRO"],
  String.join [
    "WSĀLEFTWARDS HARPOON OVER RIGHTWARDS HARPOONĀRIGHTWARDS HARPOON OVER LEFTWARDS HARPOONĀLEFTWARDS",
    " DOUBLE ARROW WITH STROKEĄ RIGHT DOUBLE ARROW WITH STROKEĀRIGHTWARDS DOUBLE ARROW WITH STROKEĀLE",
    "FTWARDS DOUBLE ARROWĀUPWARDS DOUBLE ARROWĀRIGHTWARDS DOUBLE ARROWĀDOWNWARDS DOUBLE ARROWĀLEFT RI",
    "GHT DOUBLE ARROWĀUP DOWN DOUBLE ARROWĀNORTH WEST DOUBLE ARROWĆEAST DOUBLE ARROWĀSOUTH EAST DOUBL",
    "E ARROWĆWEST DOUBLE ARROWĀLEFTWARDS TRIPLE ARROWĀRIGHTWARDS TRIPLE ARROWĀLEFTWARDS SQUIGGLE ARRO",
    "WĀRIGHTWARDS SQUIGGLE ARROWĀUPWARDS ARROW WITH DOUBLE STROKEĀDOWNWARDS ARROW WITH DOUBLE STROKEĀ",
    "LEFTWARDS DASHED ARROWĀUPWARDS DASHED ARROWĀRIGHTWARDS DASHED ARROWĀDOWNWARDS DASHED ARROWĀLEFTW",
    "ARDS ARROW TO BARĀRIGHTWARDS ARROW TO BARĀLEFTWARDS WHITE ARROWĀUPWARDS WHITE ARROWĀRIGHTWARDS W",
    "HITE ARROWĀDOWNWARDS WHITE ARROWĀUPWARDS WHITE ARROW FROM BARĔON PEDESTALğ WITH HORIZONTAL BARĥV",
    "ERTICAL BARĎDOUBLE ARROWĚ ON PEDESTALĀRIGHTWARDS WHITE ARROW FROM WALLĀNORTH WEST ARROW TO CORNE",
    "RĀSOUTH EAST ARROW TO CORNERĀUP DOWN WHITE ARROWĀRIGHT ARROW WITH SMALL CIRCLEĀDOWNWARDS ARROW L",
    "EFTWARDS OF UPWARDS ARROWĀTHREE RIGHTWARDS ARROWSĀLEFTWARDS ARROW WITH VERTICAL STROKEĀRIGHTWARD",
    "S ARROW WITH VERTICAL STROKEĀLEFT RIGHT ARROW WITH VERTICAL STROKEĄWARDS ARROW WITH DOUBLE VERTI",
    "CAL STROKEĀRIGHTWARDS ARROW WITH DOUBLE VERTICAL STROKEĀLEFT RIGHT ARROW WITH DOUBLE VERTICAL ST",
    "ROKEĄWARDS OPEN-HEADED ARROWĀRIGHTWARDS OPEN-HEADED ARROWĀLEFT RIGHT OPEN-HEADED ARROWĀFOR ALLĀC",
    "OMPLEMENTĀPARTIAL DIFFERENTIALĀTHERE EXISTSĆDOES NOT EXISTĀEMPTY SETĀINCREMENTĀNABLAĀELEMENT OFĀ",
    "NOT AN ELEMENT OFĀSMALL ELEMENT OFĀCONTAINS AS MEMBERĀDOES NOT CONTAIN AS MEMBERĀSMALL CONTAINS ",
    "AS MEMBERĀEND OF PROOFĀN-ARY PRODUCTĆCOPRODUCTĆSUMMATIONĀMINUS SIGNą-OR-PLUS SIGNĀDOT PLUSāIVISI",
    "ON SLASHĀSET MINUSĀASTERISK OPERATORĀRING OPERATORĀBULLET OPERATORĀSQUARE ROOTĀCUBE ROOTĀFOURTH ",
    "ROOTĀPROPORTIONAL TOĀINFINITYĀRIGHT ANGLEĀANGLEĀMEASURED ANGLEĀSPHERICAL ANGLEĀDIVIDESāOES NOT D",
    "IVIDEĀPARALLEL TOĀNOT PARALLEL TOĀLOGICAL ANDĈORĀINTERSECTIONĀUNIONĀINTEGRALĀDOUBLE INTEGRALĀTRI",
    "PLE INTEGRALĀCONTOUR INTEGRALĀSURFACE INTEGRALĀVOLUME INTEGRALĀCLOCKWISE INTEGRALĊCONTOUR INTEGR",
    "ALĀANTICLOCKWISE CONTOUR INTEGRALĀTHEREFOREĀBECAUSEĀRATIOĀPROPORTIONĀDOT MINUSĀEXCESSĀGEOMETRIC ",
    "PROPORTIONĀHOMOTHETICĀTILDE OPERATORĀREVERSED TILDEĀINVERTED LAZY SĀSINE WAVEĀWREATH PRODUCTĀNOT",
    " TILDEĀMINUS TILDEĀASYMPTOTICALLY EQUAL TOĀNOT ASYMPTOTICALLY EQUAL TOĀAPPROXIMATELY EQUAL TOĎBU",
    "T NOT ACTUALLY EQUAL TOĀNEITHER APPROXIMATELY NOR ACTUALLY EQUAL TOĀALMOST EQUAL TOĀNOT ALMOST E",
    "QUAL TOĀALMOST EQUAL OR EQUAL TOĀTRIPLE TILDEĀALL EQUAL TOĀEQUIVALENT TOĀGEOMETRICALLY EQUIVALEN",
    "T TOĀDIFFERENCE BETWEENĀAPPROACHES THE LIMITĀGEOMETRICALLY EQUAL TOĀAPPROXIMATELY EQUAL TO OR TH",
    "E IMAGE OFĀIMAGE OF OR APPROXIMATELY EQUAL TOĀCOLON EQUALSĀEQUALS COLONĀRING IN EQUAL TOąEQUAL T",
    "OĀCORRESPONDS TOĀESTIMATESāQUIANGULAR TOĀSTAR EQUALSĀDELTA EQUAL TOĀEQUAL TO BY DEFINITIONĀMEASU",
    "RED BYĀQUESTIONED EQUAL TOĀNOT EQUAL TOĀIDENTICAL TOĀNOT IDENTICAL TOĀSTRICTLY EQUIVALENT TOĀLES",
    "S-THAN OR EQUAL TOĀGREATER-THAN OR EQUAL TOĀLESS-THAN OVER EQUAL TOĀGREATER-THAN OVER EQUAL TOĀL",
    "ESS-THAN BUT NOT EQUAL TOĀGREATER-THAN BUT NOT EQUAL TOĀMUCH LESS-THANąGREATER-THANĀBETWEENĀNOT ",
    "EQUIVALENT TOĄLESS-THANĄGREATER-THANāEITHER LESS-THAN NOR EQUAL TOĈGREATER-THAN NOR EQUAL TOĀLES",
    "S-THAN OR EQUIVALENT TOĀGREATER-THAN OR EQUIVALENT TOĀNEITHER LESS-THAN NOR EQUIVALENT TOĈGREATE",
    "R-THAN NOR EQUIVALENT TOĀLESS-THAN OR GREATER-THANĀGREATER-THAN OR LESS-THANĀNEITHER LESS-THAN N",
    "OR GREATER-THANĈGREATER-THAN NOR LESS-THANĀPRECEDESĀSUCCEEDSĀPRECEDES OR EQUAL TOĀSUCCEEDS OR EQ",
    "UAL TOĀPRECEDES OR EQUIVALENT TOĀSUCCEEDS OR EQUIVALENT TOĀDOES NOT PRECEDEĉSUCCEEDĀSUBSET OFĂPE",
    "RSET OFĀNOT A SUBSET OFĈPERSET OFĀSUBSET OF OR EQUAL TOĂPERSET OF OR EQUAL TOĀNEITHER A SUBSET O",
    "F NOR EQUAL TOČPERSET OF NOR EQUAL TOĀSUBSET OF WITH NOT EQUAL TOĂPERSET OF WITH NOT EQUAL TOĀMU",
    "LTISETĈ MULTIPLICATIONĉUNIONĀSQUARE IMAGE OFćORIGINAL OFćIMAGE OF OR EQUAL TOćORIGINAL OF OR EQU",
    "AL TOćCAPĈUPĀCIRCLED PLUSĈMINUSĈTIMESĈDIVISION SLASHĉOT OPERATORĈRING OPERATORĈASTERISK OPERATOR",
    "ĈEQUALSĈDASHĀSQUARED PLUSĈMINUSĈTIMESĈDOT OPERATORĀRIGHT TACKĀLEFT TACKĀDOWN TACKĀUP TACKĀASSERT",
    "IONĀMODELSĀTRUEĀFORCESĀTRIPLE VERTICAL BAR RIGHT TURNSTILEĀDOUBLE VERTICAL BAR DOUBLE RIGHT TURN",
    "STILEĂES NOT PROVEĀNOT TRUEĀDOES NOT FORCEĀNEGATED DOUBLE VERTICAL BAR DOUBLE RIGHT TURNSTILEĀPR",
    "ECEDES UNDER RELATIONĀSUCCEEDS UNDER RELATIONĀNORMAL SUBGROUP OFĀCONTAINS AS NORMAL SUBGROUPĀNOR",
    "MAL SUBGROUP OF OR EQUAL TOĀCONTAINS AS NORMAL SUBGROUP OR EQUAL TOĀORIGINAL OFĀIMAGE OFĀMULTIMA",
    "PĀHERMITIAN CONJUGATE MATRIXĀINTERCALATEĀXORĀNANDāORĀRIGHT ANGLE WITH ARCĆTRIANGLEĀN-ARY LOGICAL",
    " ANDĎORĆINTERSECTIONĆUNIONĀDIAMOND OPERATORāOT OPERATORĀSTAR OPERATORĀDIVISION TIMESĀBOWTIEĀLEFT",
    " NORMAL FACTOR SEMIDIRECT PRODUCTĀRIGHT NORMAL FACTOR SEMIDIRECT PRODUCTĀLEFT SEMIDIRECT PRODUCT",
    "ĀRIGHT SEMIDIRECT PRODUCTāEVERSED TILDE EQUALSĀCURLY LOGICAL ORĎANDĀDOUBLE SUBSETĉPERSETćINTERSE",
    "CTIONćUNIONĀPITCHFORKĀEQUAL AND PARALLEL TOĀLESS-THAN WITH DOTĀGREATER-THAN WITH DOTĀVERY MUCH L",
    "ESS-THANĊGREATER-THANĀLESS-THAN EQUAL TO OR GREATER-THANĀGREATER-THAN EQUAL TO OR LESS-THANĀEQUA",
    "L TO OR LESS-THANČGREATER-THANČPRECEDESČSUCCEEDSĀDOES NOT PRECEDE OR EQUALĉSUCCEED OR EQUALĀNOT ",
    "SQUARE IMAGE OF OR EQUAL TOċORIGINAL OF OR EQUAL TOĀSQUARE IMAGE OF OR NOT EQUAL TOćORIGINAL OF ",
    "OR NOT EQUAL TOĀLESS-THAN BUT NOT EQUIVALENT TOĀGREATER-THAN BUT NOT EQUIVALENT TOĀPRECEDES BUT ",
    "NOT EQUIVALENT TOĀSUCCEEDS BUT NOT EQUIVALENT TOĀNOT NORMAL SUBGROUP OFĀDOES NOT CONTAIN AS NORM",
    "AL SUBGROUPĀNOT NORMAL SUBGROUP OF OR EQUAL TOĀDOES NOT CONTAIN AS NORMAL SUBGROUP OR EQUALĀVERT",
    "ICAL ELLIPSISĀMIDLINE HORIZONTAL ELLIPSISĀUP RIGHT DIAGONAL ELLIPSISĀDOWN RIGHT DIAGONAL ELLIPSI",
    "SĀELEMENT OF WITH LONG HORIZONTAL STROKEĐVERTICAL BAR AT END OF HORIZONTAL STROKEĀSMALL ELEMENT ",
    "OF WITH VERTICAL BAR AT END OF HORIZONTAL STROKEĀELEMENT OF WITH DOT ABOVEĐOVERBARĀSMALL ELEMENT",
    " OF WITH OVERBARĀELEMENT OF WITH UNDERBARĐTWO HORIZONTAL STROKESĀCONTAINS WITH LONG HORIZONTAL S",
    "TROKEĎVERTICAL BAR AT END OF HORIZONTAL STROKEĀSMALL CONTAINS WITH VERTICAL BAR AT END OF HORIZO",
    "NTAL STROKEĀCONTAINS WITH OVERBARĀSMALL CONTAINS WITH OVERBARĀZ NOTATION BAG MEMBERSHIPĀDIAMETER",
    " SIGNĀELECTRIC ARROWĀHOUSEĀUP ARROWHEADĀDOWN ARROWHEADĀPROJECTIVEāERSPECTIVEĀWAVY LINEĀLEFT CEIL",
    "INGĀRIGHT CEILINGĀLEFT FLOORĀRIGHT FLOORĀBOTTOM RIGHT CROPćLEFT CROPĀTOP RIGHT CROPĄLEFT CROPĀRE",
    "VERSED NOT SIGNĀSQUARE LOZENGEĀARCĀSEGMENTĂCTORĀTELEPHONE RECORDERĀPOSITION INDICATORĀVIEWDATA S",
    "QUAREĀPLACE OF INTEREST SIGNĀTURNED NOT SIGNĀWATCHĀHOURGLASSĀTOP LEFT CORNERĄRIGHT CORNERĀBOTTOM",
    " LEFT CORNERćRIGHT CORNERĀTOP HALF INTEGRALĀBOTTOM HALF INTEGRALĀFROWNĀSMILEĀUP ARROWHEAD BETWEE",
    "N TWO HORIZONTAL BARSĀOPTION KEYĀERASE TO THE RIGHTĀX IN A RECTANGLE BOXĀKEYBOARDĀLEFT-POINTING ",
    "ANGLE BRACKETĀRIGHT-POINTING ANGLE BRACKETĀERASE TO THE LEFTĀBENZENE RINGĀCYLINDRICITYĀALL AROUN",
    "D-PROFILEĀSYMMETRYĀTOTAL RUNOUTĀDIMENSION ORIGINĀCONICAL TAPERĀSLOPEĀCOUNTERBOREćSINKĀAPL FUNCTI",
    "ONAL SYMBOL I-BEAMĖSQUISH QUADĖQUAD EQUALěDIVIDEĝAMONDěJOTěCIRCLEĖCIRCLE STILEĝJOTĖSLASH BARĖBAC",
    "KSLASH BARĖQUAD SLASHěBACKSLASHěLESS-THANěGREATER-THANĖLEFTWARDS VANEĖRIGHTWARDS VANEĖQUAD LEFTW",
    "ARDS ARROWěRIGHTWARDS ARROWĖCIRCLE BACKSLASHĖDOWN TACK UNDERBARėELTA STILEĖQUAD DOWN CARETĜELTAĖ",
    "DOWN TACK JOTĖUPWARDS VANEĖQUAD UPWARDS ARROWĖUP TACK OVERBARĖDEL STILEĖQUAD UP CARETěDELĖUP TAC",
    "K JOTĖDOWNWARDS VANEĖQUAD DOWNWARDS ARROWĘOTE UNDERBARĖDELTA UNDERBARėIAMOND UNDERBARĖJOT UNDERB",
    "ARĖCIRCLE UNDERBARĖUP SHOE JOTĖQUOTE QUADĖCIRCLE STARĖQUAD COLONĖUP TACK DIAERESISĖDEL DIAERESIS",
    "ĖSTAR DIAERESISĖJOT DIAERESISĖCIRCLE DIAERESISĖDOWN SHOE STILEĖLEFT SHOE STILEĖTILDE DIAERESISĖG",
    "REATER-THAN DIAERESISĖCOMMA BARĖDEL TILDEĖZILDEĖSTILE TILDEėEMICOLON UNDERBARĖQUAD NOT EQUALěQUE",
    "STIONĖDOWN CARET TILDEĖUP CARET TILDEĖIOTAĖRHOĖOMEGAĖALPHA UNDERBARĖEPSILON UNDERBARĖIOTA UNDERB",
    "ARĖOMEGA UNDERBARĖALPHAĀNOT CHECK MARKĀRIGHT ANGLE WITH DOWNWARDS ZIGZAG ARROWĀSHOULDERED OPEN B",
    "OXĀBELL SYMBOLĀVERTICAL LINE WITH MIDDLE DOTĀINSERTION SYMBOLĀCONTINUOUS UNDERLINE SYMBOLĀDISCON",
    "TINUOUS UNDERLINE SYMBOLĀEMPHASIS SYMBOLĀCOMPOSITION SYMBOLĀWHITE SQUARE WITH CENTRE VERTICAL LI",
    "NEĀENTER SYMBOLĀALTERNATIVE KEY SYMBOLĀHELM SYMBOLĀCIRCLED HORIZONTAL BAR WITH NOTCHĈTRIANGLE DO",
    "WNĀBROKEN CIRCLE WITH NORTHWEST ARROWĀUNDO SYMBOLĀMONOSTABLE SYMBOLĀHYSTERESIS SYMBOLĀOPEN-CIRCU",
    "IT-OUTPUT H-TYPE SYMBOLĔL-TYPE SYMBOLĀPASSIVE-PULL-DOWN-OUTPUT SYMBOLčUP-OUTPUT SYMBOLĀDIRECT CU",
    "RRENT SYMBOL FORM TWOĀSOFTWARE-FUNCTION SYMBOLĀAPL FUNCTIONAL SYMBOL QUADĀDECIMAL SEPARATOR KEY ",
    "SYMBOLĀPREVIOUS PAGEĀNEXT PAGEĀPRINT SCREEN SYMBOLĀCLEAR SCREEN SYMBOLĀLEFT PARENTHESIS UPPER HO",
    "OKđEXTENSIONđLOWER HOOKĀRIGHT PARENTHESIS UPPER HOOKĒEXTENSIONĒLOWER HOOKĀLEFT SQUARE BRACKET UP",
    "PER CORNERĔEXTENSIONĔLOWER CORNERĀRIGHT SQUARE BRACKET UPPER CORNERĕEXTENSIONĕLOWER CORNERĀLEFT ",
    "CURLY BRACKET UPPER HOOKēMIDDLE PIECEēLOWER HOOKĀCURLY BRACKET EXTENSIONĀRIGHT CURLY BRACKET UPP",
    "ER HOOKĔMIDDLE PIECEĔLOWER HOOKĀINTEGRAL EXTENSIONĀHORIZONTAL LINE EXTENSIONĀUPPER LEFT OR LOWER",
    " RIGHT CURLY BRACKET SECTIONĆRIGHT OR LOWER LEFT CURLY BRACKET SECTIONĀSUMMATION TOPĊBOTTOMĀTOP ",
    "SQUARE BRACKETĀBOTTOM SQUARE BRACKETĕ OVER TOP SQUARE BRACKETĀRADICAL SYMBOL BOTTOMĀLEFT VERTICA",
    "L BOX LINEĀRIGHT VERTICAL BOX LINEĀHORIZONTAL SCAN LINE-1ĕ3ĕ7ĕ9ĀDENTISTRY SYMBOL LIGHT VERTICAL ",
    "AND TOP RIGHTĤBOTTOM RIGHTĠWITH CIRCLEėDOWN AND HORIZONTAL WITH CIRCLEėUP AND HORIZONTAL WITH CI",
    "RCLEėVERTICAL WITH TRIANGLEėDOWN AND HORIZONTAL WITH TRIANGLEėUP AND HORIZONTAL WITH TRIANGLEėVE",
    "RTICAL AND WAVEėDOWN AND HORIZONTAL WITH WAVEėUP AND HORIZONTAL WITH WAVEėDOWN AND HORIZONTALėUP",
    " AND HORIZONTALėVERTICAL AND TOP LEFTĤBOTTOM LEFTĀSQUARE FOOTĀRETURN SYMBOLĀEJECT SYMBOLĀVERTICA"],
  String.join [
    "L LINE EXTENSIONĀMETRICAL BREVEĉLONG OVER SHORTĉSHORT OVER LONGĉLONG OVER TWO SHORTSĉTWO SHORTS ",
    "OVER LONGĔJOINEDĊRISEMEĊETRASEMEĉPENTASEMEĀEARTH GROUNDĀFUSEĀTOP PARENTHESISĀBOTTOM PARENTHESISĀ",
    "TOP CURLY BRACKETĀBOTTOM CURLY BRACKETĀTOP TORTOISE SHELL BRACKETĀBOTTOM TORTOISE SHELL BRACKETĀ",
    "WHITE TRAPEZIUMĀBENZENE RING WITH CIRCLEĀSTRAIGHTNESSĀFLATNESSĀAC CURRENTĀELECTRICAL INTERSECTIO",
    "NĀDECIMAL EXPONENT SYMBOLĀBLACK RIGHT-POINTING DOUBLE TRIANGLEĆLEFT-POINTING DOUBLE TRIANGLEĆUP-",
    "POINTING DOUBLE TRIANGLEĆDOWN-POINTING DOUBLE TRIANGLEĆRIGHT-POINTING DOUBLE TRIANGLE WITH VERTI",
    "CAL BARĆLEFT-POINTING DOUBLE TRIANGLE WITH VERTICAL BARĆRIGHT-POINTING TRIANGLE WITH DOUBLE VERT",
    "ICAL BARĀALARM CLOCKĀSTOPWATCHĀTIMER CLOCKĀHOURGLASS WITH FLOWING SANDĀBLACK MEDIUM LEFT-POINTIN",
    "G TRIANGLEčRIGHT-POINTING TRIANGLEčUP-POINTING TRIANGLEčDOWN-POINTING TRIANGLEĀDOUBLE VERTICAL B",
    "ARĀBLACK SQUARE FOR STOPĆCIRCLE FOR RECORDĀPOWER SYMBOLĆON-OFF SYMBOLĈ SYMBOLĆSLEEP SYMBOLĀOBSER",
    "VER EYE SYMBOLĀSYMBOL FOR NULLċSTART OF HEADINGĔTEXTċEND OF TEXTēRANSMISSIONčQUIRYċACKNOWLEDGEċB",
    "ELLČACKSPACEċHORIZONTAL TABULATIONċLINE FEEDċVERTICAL TABULATIONċFORM FEEDċCARRIAGE RETURNċSHIFT",
    " OUTđINċDATA LINK ESCAPEČEVICE CONTROL ONEĚTWOěHREEĚFOURċNEGATIVE ACKNOWLEDGEċSYNCHRONOUS IDLEċE",
    "ND OF TRANSMISSION BLOCKċCANCELċEND OF MEDIUMċSUBSTITUTEċESCAPEċFILE SEPARATORċGROUP SEPARATORċR",
    "ECORD SEPARATORċUNIT SEPARATORċSPACEċDELETEĀBLANK SYMBOLĀOPEN BOXĀSYMBOL FOR NEWLINEċDELETE FORM",
    " TWOċSUBSTITUTE FORM TWO@2440ĀOCR HOOKĄCHAIRĄFORKĄINVERTED FORKĄBELT BUCKLEąOW TIEąRANCH BANK ID",
    "ENTIFICATIONĄAMOUNT OF CHECKĄDASHĄCUSTOMER ACCOUNT NUMBERĄDOUBLE BACKSLASH@2460ĀCIRCLED DIGIT ON",
    "EĎTWOďHREEĎFOURďIVEĎSIXďEVENĎEIGHTĎNINEĈNUMBER TENďELEVENďTWELVEĐHIRTEENďFOURTEENĐIFTEENďSIXTEEN",
    "ĐEVENTEENďEIGHTEENďNINETEENďTWENTYĀPARENTHESIZED DIGIT ONEĔTWOĕHREEĔFOURĕIVEĔSIXĕEVENĔEIGHTĔNINE",
    "ĎNUMBER TENĕELEVENĕTWELVEĖHIRTEENĕFOURTEENĖIFTEENĕSIXTEENĖEVENTEENĕEIGHTEENĕNINETEENĕTWENTYĀDIGI",
    "T ONE FULL STOPĆTWO FULL STOPćHREE FULL STOPĆFOUR FULL STOPćIVE FULL STOPĆSIX FULL STOPćEVEN FUL",
    "L STOPĆEIGHT FULL STOPĆNINE FULL STOPĀNUMBER TEN FULL STOPćELEVEN FULL STOPćTWELVE FULL STOPĈHIR",
    "TEEN FULL STOPćFOURTEEN FULL STOPĈIFTEEN FULL STOPćSIXTEEN FULL STOPĈEVENTEEN FULL STOPćEIGHTEEN",
    " FULL STOPćNINETEEN FULL STOPćTWENTY FULL STOPĀPARENTHESIZED LATIN SMALL LETTER AġBġCġDġEġFġGġHġ",
    "IġJġKġLġMġNġOġPġQġRġSġTġUġVġWġXġYġZĀCIRCLED LATIN CAPITAL LETTER AĝBĝCĝDĝEĝFĝGĝHĝIĝJĝKĝLĝMĝNĝOĝP",
    "ĝQĝRĝSĝTĝUĝVĝWĝXĝYĝZĎSMALL LETTER AěBěCěDěEěFěGěHěIěJěKěLěMěNěOěPěQěRěSěTěUěVěWěXěYěZĈDIGIT ZERO",
    "ĀNEGATIVE CIRCLED NUMBER ELEVENĘTWELVEęHIRTEENĘFOURTEENęIFTEENĘSIXTEENęEVENTEENĘEIGHTEENĘNINETEE",
    "NĘTWENTYĀDOUBLE CIRCLED DIGIT ONEĕTWOĖHREEĕFOURĖIVEĕSIXĖEVENĕEIGHTĕNINEďNUMBER TENĀNEGATIVE CIRC",
    "LED DIGIT ZEROĀBOX DRAWINGS LIGHT HORIZONTALčHEAVY HORIZONTALčLIGHT VERTICALčHEAVY VERTICALčLIGH",
    "T TRIPLE DASH HORIZONTALčHEAVY TRIPLE DASH HORIZONTALčLIGHT TRIPLE DASH VERTICALčHEAVY TRIPLE DA",
    "SH VERTICALčLIGHT QUADRUPLE DASH HORIZONTALčHEAVY QUADRUPLE DASH HORIZONTALčLIGHT QUADRUPLE DASH",
    " VERTICALčHEAVY QUADRUPLE DASH VERTICALčLIGHT DOWN AND RIGHTčDOWN LIGHT AND RIGHT HEAVYĒHEAVY AN",
    "D RIGHT LIGHTčHEAVY DOWN AND RIGHTčLIGHT DOWN AND LEFTčDOWN LIGHT AND LEFT HEAVYĒHEAVY AND LEFT ",
    "LIGHTčHEAVY DOWN AND LEFTčLIGHT UP AND RIGHTčUP LIGHT AND RIGHT HEAVYĐHEAVY AND RIGHT LIGHTčHEAV",
    "Y UP AND RIGHTčLIGHT UP AND LEFTčUP LIGHT AND LEFT HEAVYĐHEAVY AND LEFT LIGHTčHEAVY UP AND LEFTč",
    "LIGHT VERTICAL AND RIGHTčVERTICAL LIGHT AND RIGHT HEAVYčUP HEAVY AND RIGHT DOWN LIGHTčDOWN HEAVY",
    " AND RIGHT UP LIGHTčVERTICAL HEAVY AND RIGHT LIGHTčDOWN LIGHT AND RIGHT UP HEAVYčUP LIGHT AND RI",
    "GHT DOWN HEAVYčHEAVY VERTICAL AND RIGHTčLIGHT VERTICAL AND LEFTčVERTICAL LIGHT AND LEFT HEAVYčUP",
    " HEAVY AND LEFT DOWN LIGHTčDOWN HEAVY AND LEFT UP LIGHTčVERTICAL HEAVY AND LEFT LIGHTčDOWN LIGHT",
    " AND LEFT UP HEAVYčUP LIGHT AND LEFT DOWN HEAVYčHEAVY VERTICAL AND LEFTčLIGHT DOWN AND HORIZONTA",
    "LĎEFT HEAVY AND RIGHT DOWN LIGHTčRIGHT HEAVY AND LEFT DOWN LIGHTčDOWN LIGHT AND HORIZONTAL HEAVY",
    "ĒHEAVY AND HORIZONTAL LIGHTčRIGHT LIGHT AND LEFT DOWN HEAVYčLEFT LIGHT AND RIGHT DOWN HEAVYčHEAV",
    "Y DOWN AND HORIZONTALčLIGHT UP AND HORIZONTALĎEFT HEAVY AND RIGHT UP LIGHTčRIGHT HEAVY AND LEFT ",
    "UP LIGHTčUP LIGHT AND HORIZONTAL HEAVYĐHEAVY AND HORIZONTAL LIGHTčRIGHT LIGHT AND LEFT UP HEAVYč",
    "LEFT LIGHT AND RIGHT UP HEAVYčHEAVY UP AND HORIZONTALčLIGHT VERTICAL AND HORIZONTALĎEFT HEAVY AN",
    "D RIGHT VERTICAL LIGHTčRIGHT HEAVY AND LEFT VERTICAL LIGHTčVERTICAL LIGHT AND HORIZONTAL HEAVYčU",
    "P HEAVY AND DOWN HORIZONTAL LIGHTčDOWN HEAVY AND UP HORIZONTAL LIGHTčVERTICAL HEAVY AND HORIZONT",
    "AL LIGHTčLEFT UP HEAVY AND RIGHT DOWN LIGHTčRIGHT UP HEAVY AND LEFT DOWN LIGHTčLEFT DOWN HEAVY A",
    "ND RIGHT UP LIGHTčRIGHT DOWN HEAVY AND LEFT UP LIGHTčDOWN LIGHT AND UP HORIZONTAL HEAVYčUP LIGHT",
    " AND DOWN HORIZONTAL HEAVYčRIGHT LIGHT AND LEFT VERTICAL HEAVYčLEFT LIGHT AND RIGHT VERTICAL HEA",
    "VYčHEAVY VERTICAL AND HORIZONTALčLIGHT DOUBLE DASH HORIZONTALčHEAVY DOUBLE DASH HORIZONTALčLIGHT",
    " DOUBLE DASH VERTICALčHEAVY DOUBLE DASH VERTICALčDOUBLE HORIZONTALĔVERTICALďWN SINGLE AND RIGHT ",
    "DOUBLEĒDOUBLE AND RIGHT SINGLEďUBLE DOWN AND RIGHTďWN SINGLE AND LEFT DOUBLEĒDOUBLE AND LEFT SIN",
    "GLEďUBLE DOWN AND LEFTčUP SINGLE AND RIGHT DOUBLEĐDOUBLE AND RIGHT SINGLEčDOUBLE UP AND RIGHTčUP",
    " SINGLE AND LEFT DOUBLEĐDOUBLE AND LEFT SINGLEčDOUBLE UP AND LEFTčVERTICAL SINGLE AND RIGHT DOUB",
    "LEĖDOUBLE AND RIGHT SINGLEčDOUBLE VERTICAL AND RIGHTčVERTICAL SINGLE AND LEFT DOUBLEĖDOUBLE AND ",
    "LEFT SINGLEčDOUBLE VERTICAL AND LEFTďWN SINGLE AND HORIZONTAL DOUBLEĒDOUBLE AND HORIZONTAL SINGL",
    "EďUBLE DOWN AND HORIZONTALčUP SINGLE AND HORIZONTAL DOUBLEĐDOUBLE AND HORIZONTAL SINGLEčDOUBLE U",
    "P AND HORIZONTALčVERTICAL SINGLE AND HORIZONTAL DOUBLEĖDOUBLE AND HORIZONTAL SINGLEčDOUBLE VERTI",
    "CAL AND HORIZONTALčLIGHT ARC DOWN AND RIGHTĠLEFTėUP AND LEFTĞRIGHTēDIAGONAL UPPER RIGHT TO LOWER",
    " LEFTĢLEFT TO LOWER RIGHTĜCROSSēLEFTēUPēRIGHTēDOWNčHEAVY LEFTēUPēRIGHTēDOWNčLIGHT LEFT AND HEAVY",
    " RIGHTēUP AND HEAVY DOWNčHEAVY LEFT AND LIGHT RIGHTēUP AND LIGHT DOWNĀUPPER HALF BLOCKĀLOWER ONE",
    " EIGHTH BLOCKĊQUARTER BLOCKĆTHREE EIGHTHS BLOCKĆHALF BLOCKĆFIVE EIGHTHS BLOCKĆTHREE QUARTERS BLO",
    "CKĆSEVEN EIGHTHS BLOCKĀFULL BLOCKĀLEFT SEVEN EIGHTHS BLOCKąTHREE QUARTERS BLOCKąFIVE EIGHTHS BLO",
    "CKąHALF BLOCKąTHREE EIGHTHS BLOCKąONE QUARTER BLOCKĉEIGHTH BLOCKĀRIGHT HALF BLOCKĀLIGHT SHADEĀME",
    "DIUM SHADEĀDARK SHADEĀUPPER ONE EIGHTH BLOCKĀRIGHT ONE EIGHTH BLOCKĀQUADRANT LOWER LEFTďRIGHTĉUP",
    "PER LEFTē AND LOWER LEFT AND LOWER RIGHTĞRIGHTĘUPPER RIGHT AND LOWER LEFTĮRIGHTďRIGHTĔ AND LOWER",
    " LEFTģ AND LOWER RIGHTĀBLACK SQUAREĀWHITE SQUAREČ WITH ROUNDED CORNERSčCONTAINING BLACK SMALL SQ",
    "UAREĀSQUARE WITH HORIZONTAL FILLČVERTICAL FILLČORTHOGONAL CROSSHATCH FILLČUPPER LEFT TO LOWER RI",
    "GHT FILLĒRIGHT TO LOWER LEFT FILLČDIAGONAL CROSSHATCH FILLĀBLACK SMALL SQUAREĀWHITE SMALL SQUARE",
    "ĀBLACK RECTANGLEĀWHITE RECTANGLEĀBLACK VERTICAL RECTANGLEĀWHITE VERTICAL RECTANGLEĀBLACK PARALLE",
    "LOGRAMĀWHITE PARALLELOGRAMĀBLACK UP-POINTING TRIANGLEĀWHITE UP-POINTING TRIANGLEĀBLACK UP-POINTI",
    "NG SMALL TRIANGLEĀWHITE UP-POINTING SMALL TRIANGLEĀBLACK RIGHT-POINTING TRIANGLEĀWHITE RIGHT-POI",
    "NTING TRIANGLEĀBLACK RIGHT-POINTING SMALL TRIANGLEĀWHITE RIGHT-POINTING SMALL TRIANGLEĀBLACK RIG",
    "HT-POINTING POINTERĀWHITE RIGHT-POINTING POINTERĀBLACK DOWN-POINTING TRIANGLEĀWHITE DOWN-POINTIN",
    "G TRIANGLEĀBLACK DOWN-POINTING SMALL TRIANGLEĀWHITE DOWN-POINTING SMALL TRIANGLEĀBLACK LEFT-POIN",
    "TING TRIANGLEĀWHITE LEFT-POINTING TRIANGLEĀBLACK LEFT-POINTING SMALL TRIANGLEĀWHITE LEFT-POINTIN",
    "G SMALL TRIANGLEĀBLACK LEFT-POINTING POINTERĀWHITE LEFT-POINTING POINTERĀBLACK DIAMONDĀWHITE DIA",
    "MONDč CONTAINING BLACK SMALL DIAMONDĀFISHEYEĀLOZENGEĀWHITE CIRCLEĀDOTTED CIRCLEĀCIRCLE WITH VERT",
    "ICAL FILLĀBULLSEYEāLACK CIRCLEĀCIRCLE WITH LEFT HALF BLACKČRIGHT HALF BLACKČLOWER HALF BLACKČUPP",
    "ER HALF BLACKĒRIGHT QUADRANT BLACKČALL BUT UPPER LEFT QUADRANT BLACKĀLEFT HALF BLACK CIRCLEĀRIGH",
    "T HALF BLACK CIRCLEĀINVERSE BULLETĈWHITE CIRCLEĀUPPER HALF INVERSE WHITE CIRCLEĀLOWER HALF INVER",
    "SE WHITE CIRCLEĀUPPER LEFT QUADRANT CIRCULAR ARCĆRIGHT QUADRANT CIRCULAR ARCĀLOWER RIGHT QUADRAN",
    "T CIRCULAR ARCĆLEFT QUADRANT CIRCULAR ARCĀUPPER HALF CIRCLEĀLOWER HALF CIRCLEĀBLACK LOWER RIGHT ",
    "TRIANGLEČLEFT TRIANGLEĆUPPER LEFT TRIANGLEČRIGHT TRIANGLEĀWHITE BULLETĀSQUARE WITH LEFT HALF BLA",
    "CKČRIGHT HALF BLACKČUPPER LEFT DIAGONAL HALF BLACKČLOWER RIGHT DIAGONAL HALF BLACKĀWHITE SQUARE ",
    "WITH VERTICAL BISECTING LINEĆUP-POINTING TRIANGLE WITH DOTĀUP-POINTING TRIANGLE WITH LEFT HALF B",
    "LACKĚRIGHT HALF BLACKĀLARGE CIRCLEĀWHITE SQUARE WITH UPPER LEFT QUADRANTĒLOWER LEFT QUADRANTĘRIG",
    "HT QUADRANTĒUPPER RIGHT QUADRANTĆCIRCLE WITH UPPER LEFT QUADRANTĒLOWER LEFT QUADRANTĘRIGHT QUADR",
    "ANTĒUPPER RIGHT QUADRANTĀUPPER LEFT TRIANGLEĆRIGHT TRIANGLEĀLOWER LEFT TRIANGLEĀWHITE MEDIUM SQU",
    "AREĀBLACK MEDIUM SQUAREĀWHITE MEDIUM SMALL SQUAREĀBLACK MEDIUM SMALL SQUAREĀLOWER RIGHT TRIANGLE",
    "ĀBLACK SUN WITH RAYSĀCLOUDĀUMBRELLAĀSNOWMANĀCOMETĀBLACK STARĀWHITE STARĀLIGHTNINGĀTHUNDERSTORMĀS",
    "UNĀASCENDING NODEĀDESCENDING NODEĀCONJUNCTIONĀOPPOSITIONĀBLACK TELEPHONEĀWHITE TELEPHONEĀBALLOT ",
    "BOXĊ WITH CHECKĐXĀSALTIREĀUMBRELLA WITH RAIN DROPSĀHOT BEVERAGEĀWHITE SHOGI PIECEĀBLACK SHOGI PI",
    "ECEĀSHAMROCKĀREVERSED ROTATED FLORAL HEART BULLETĀBLACK LEFT POINTING INDEXĆRIGHT POINTING INDEX",
    "ĀWHITE LEFT POINTING INDEXĆUP POINTING INDEXĆRIGHT POINTING INDEXĆDOWN POINTING INDEXĀSKULL AND ",
    "CROSSBONESĀCAUTION SIGNĀRADIOACTIVE SIGNĀBIOHAZARD SIGNĀCADUCEUSĀANKHĀORTHODOX CROSSĀCHI RHOāROS",
    "S OF LORRAINEĉJERUSALEMĀSTAR AND CRESCENTĀFARSI SYMBOLĀADI SHAKTIĀHAMMER AND SICKLEĀPEACE SYMBOL",
    "ĀYIN YANGĀTRIGRAM FOR HEAVENČLAKEČFIREČTHUNDERČWINDčATERČMOUNTAINČEARTHĀWHEEL OF DHARMAĂITE FROW",
    "NING FACEĆSMILING FACEĀBLACK SMILING FACEĀWHITE SUN WITH RAYSĀFIRST QUARTER MOONĀLAST QUARTER MO"],
  String.join [
    "ONĀMERCURYĀFEMALE SIGNĀEARTHĀMALE SIGNĀJUPITERĀSATURNĀURANUSĀNEPTUNEĀPLUTOĀARIESĀTAURUSĀGEMINIĀC",
    "ANCERĀLEOĀVIRGOĀLIBRAĀSCORPIUSāAGITTARIUSĀCAPRICORNĀAQUARIUSĀPISCESĀWHITE CHESS KINGČQUEENČROOKČ",
    "BISHOPČKNIGHTČPAWNĀBLACK CHESS KINGČQUEENČROOKČBISHOPČKNIGHTČPAWNĆSPADE SUITĀWHITE HEART SUITĆDI",
    "AMOND SUITĀBLACK CLUB SUITĀWHITE SPADE SUITĀBLACK HEART SUITĆDIAMOND SUITĀWHITE CLUB SUITĀHOT SP",
    "RINGSĀQUARTER NOTEĀEIGHTH NOTEĀBEAMED EIGHTH NOTESćSIXTEENTH NOTESĀMUSIC FLAT SIGNĆNATURAL SIGNĆ",
    "SHARP SIGNĀWEST SYRIAC CROSSĀEAST SYRIAC CROSSĀUNIVERSAL RECYCLING SYMBOLĀRECYCLING SYMBOL FOR T",
    "YPE-1 PLASTICSĚ2 PLASTICSĚ3 PLASTICSĚ4 PLASTICSĚ5 PLASTICSĚ6 PLASTICSĚ7 PLASTICSĕGENERIC MATERIA",
    "LSĀBLACK UNIVERSAL RECYCLING SYMBOLĀRECYCLED PAPER SYMBOLĀPARTIALLY-RECYCLED PAPER SYMBOLāERMANE",
    "NT PAPER SIGNĀWHEELCHAIR SYMBOLĀDIE FACE-1ĉ2ĉ3ĉ4ĉ5ĉ6ĀWHITE CIRCLE WITH DOT RIGHTĒTWO DOTSĀBLACK ",
    "CIRCLE WITH WHITE DOT RIGHTĒTWO WHITE DOTSĀMONOGRAM FOR YANGĎINĀDIGRAM FOR GREATER YANGċLESSER Y",
    "INēANGċGREATER YINĀWHITE FLAGĀBLACK FLAGĀHAMMER AND PICKĀANCHORĀCROSSED SWORDSĀSTAFF OF AESCULAP",
    "IUSāCALESĀALEMBICĀFLOWERĀGEARĀSTAFF OF HERMESĀATOM SYMBOLĀFLEUR-DE-LISĀOUTLINED WHITE STARĀTHREE",
    " LINES CONVERGING RIGHTėLEFTĀWARNING SIGNĀHIGH VOLTAGE SIGNĀDOUBLED FEMALE SIGNĈMALE SIGNĀINTERL",
    "OCKED FEMALE AND MALE SIGNĀMALE AND FEMALE SIGNąWITH STROKE SIGNđAND MALE AND FEMALE SIGNĀVERTIC",
    "AL MALE WITH STROKE SIGNĀHORIZONTAL MALE WITH STROKE SIGNĀMEDIUM WHITE CIRCLEćBLACK CIRCLEćSMALL",
    " WHITE CIRCLEāARRIAGE SYMBOLĀDIVORCE SYMBOLĀUNMARRIED PARTNERSHIP SYMBOLĀCOFFINĀFUNERAL URNĀNEUT",
    "ERĀCERESĀPALLASĀJUNOĀVESTAĀCHIRONĀBLACK MOON LILITHĀSEXTILEĂMISEXTILEĀQUINCUNXĀSESQUIQUADRATEāOC",
    "CER BALLĀBASEBALLĀSQUARED KEYĀWHITE DRAUGHTS MANďKINGĀBLACK DRAUGHTS MANďKINGĀSNOWMAN WITHOUT SN",
    "OWāUN BEHIND CLOUDĀRAINĀBLACK SNOWMANĀTHUNDER CLOUD AND RAINāURNED WHITE SHOGI PIECEćBLACK SHOGI",
    " PIECEĀWHITE DIAMOND IN SQUAREĀCROSSING LANESĀDISABLED CARĀOPHIUCHUSĀPICKĀCAR SLIDINGĀHELMET WIT",
    "H WHITE CROSSĀCIRCLED CROSSING LANESāHAINSĀNO ENTRYĀALTERNATE ONE-WAY LEFT WAY TRAFFICĀBLACK TWO",
    "-WAY LEFT WAY TRAFFICĀWHITE TWO-WAY LEFT WAY TRAFFICĀBLACK LEFT LANE MERGEĀWHITE LEFT LANE MERGE",
    "ĀDRIVE SLOW SIGNĀHEAVY WHITE DOWN-POINTING TRIANGLEĀLEFT CLOSED ENTRYĀSQUARED SALTIREĀFALLING DI",
    "AGONAL IN WHITE CIRCLE IN BLACK SQUAREĀBLACK TRUCKĀRESTRICTED LEFT ENTRY-1Ė2ĀASTRONOMICAL SYMBOL",
    " FOR URANUSĀHEAVY CIRCLE WITH STROKE AND TWO DOTS ABOVEĀPENTAGRAMĀRIGHT-HANDED INTERLACED PENTAG",
    "RAMĀLEFT-HANDED INTERLACED PENTAGRAMĀINVERTED PENTAGRAMĀBLACK CROSS ON SHIELDĀSHINTO SHRINEĀCHUR",
    "CHāASTLEĀHISTORIC SITEĀGEAR WITHOUT HUBĉ HANDLESĀMAP SYMBOL FOR LIGHTHOUSEāOUNTAINĀUMBRELLA ON G",
    "ROUNDĀFOUNTAINāLAG IN HOLEāERRYĀSAILBOATāQUARE FOUR CORNERSāKIERĀICE SKATEĀPERSON WITH BALLĀTENT",
    "ĀJAPANESE BANK SYMBOLĀHEADSTONE GRAVEYARD SYMBOLĀFUEL PUMPĀCUP ON BLACK SQUAREĀWHITE FLAG WITH H",
    "ORIZONTAL MIDDLE BLACK STRIPEĀBLACK SAFETY SCISSORSĀUPPER BLADE SCISSORSĀBLACK SCISSORSĀLOWER BL",
    "ADE SCISSORSĀWHITE SCISSORSĆHEAVY CHECK MARKĀTELEPHONE LOCATION SIGNāAPE DRIVEĀAIRPLANEĀENVELOPE",
    "ĀRAISED FISTćHANDĀVICTORY HANDĀWRITING HANDĀLOWER RIGHT PENCILĀPENCILĀUPPER RIGHT PENCILĀWHITE N",
    "IBĀBLACK NIBĀCHECK MARKĀHEAVY CHECK MARKĀMULTIPLICATION XĀHEAVY MULTIPLICATION XĀBALLOT XĀHEAVY ",
    "BALLOT XĀOUTLINED GREEK CROSSĀHEAVY GREEK CROSSĀOPEN CENTRE CROSSĀHEAVY OPEN CENTRE CROSSĀLATIN ",
    "CROSSĀSHADOWED WHITE LATIN CROSSĀOUTLINED LATIN CROSSĀMALTESE CROSSĀSTAR OF DAVIDĀFOUR TEARDROP-",
    "SPOKED ASTERISKąBALLOON-SPOKED ASTERISKĀHEAVY FOUR BALLOON-SPOKED ASTERISKĀFOUR CLUB-SPOKED ASTE",
    "RISKĀBLACK FOUR POINTED STARĀWHITE FOUR POINTED STARĀSPARKLESāTRESS OUTLINED WHITE STARĀCIRCLED ",
    "WHITE STARĀOPEN CENTRE BLACK STARĀBLACK CENTRE WHITE STARĀOUTLINED BLACK STARĀHEAVY OUTLINED BLA",
    "CK STARĀPINWHEEL STARĀSHADOWED WHITE STARĀHEAVY ASTERISKĀOPEN CENTRE ASTERISKĀEIGHT SPOKED ASTER",
    "ISKĆPOINTED BLACK STARĎPINWHEEL STARĀSIX POINTED BLACK STARĀEIGHT POINTED RECTILINEAR BLACK STAR",
    "ĀHEAVY EIGHT POINTED RECTILINEAR BLACK STARĀTWELVE POINTED BLACK STARĀSIXTEEN POINTED ASTERISKĀT",
    "EARDROP-SPOKED ASTERISKĀOPEN CENTRE TEARDROP-SPOKED ASTERISKĀHEAVY TEARDROP-SPOKED ASTERISKĀSIX ",
    "PETALLED BLACK AND WHITE FLORETTEĀBLACK FLORETTEĀWHITE FLORETTEĀEIGHT PETALLED OUTLINED BLACK FL",
    "ORETTEĀCIRCLED OPEN CENTRE EIGHT POINTED STARĀHEAVY TEARDROP-SPOKED PINWHEEL ASTERISKĀSNOWFLAKEĀ",
    "TIGHT TRIFOLIATE SNOWFLAKEĀHEAVY CHEVRON SNOWFLAKEĀSPARKLEĀHEAVY SPARKLEĀBALLOON-SPOKED ASTERISK",
    "ĀEIGHT TEARDROP-SPOKED PROPELLER ASTERISKĀHEAVY EIGHT TEARDROP-SPOKED PROPELLER ASTERISKĀCROSS M",
    "ARKĀSHADOWED WHITE CIRCLEĀNEGATIVE SQUARED CROSS MARKĀLOWER RIGHT DROP-SHADOWED WHITE SQUAREĀUPP",
    "ER RIGHT DROP-SHADOWED WHITE SQUAREĀLOWER RIGHT SHADOWED WHITE SQUAREĀUPPER RIGHT SHADOWED WHITE",
    " SQUAREĀBLACK QUESTION MARK ORNAMENTĀWHITE QUESTION MARK ORNAMENTĆEXCLAMATION MARK ORNAMENTĀBLAC",
    "K DIAMOND MINUS WHITE XĀHEAVY EXCLAMATION MARK SYMBOLĀLIGHT VERTICAL BARĀMEDIUM VERTICAL BARĀHEA",
    "VY VERTICAL BARĆSINGLE TURNED COMMA QUOTATION MARK ORNAMENTčCOMMA QUOTATION MARK ORNAMENTĆDOUBLE",
    " TURNED COMMA QUOTATION MARK ORNAMENTčCOMMA QUOTATION MARK ORNAMENTĆLOW SINGLE COMMA QUOTATION M",
    "ARK ORNAMENTĊDOUBLE COMMA QUOTATION MARK ORNAMENTĀCURVED STEM PARAGRAPH SIGN ORNAMENTĀHEAVY EXCL",
    "AMATION MARK ORNAMENTĆHEART EXCLAMATION MARK ORNAMENTĆBLACK HEARTĀROTATED HEAVY BLACK HEART BULL",
    "ETĀFLORAL HEARTĀROTATED FLORAL HEART BULLETĀMEDIUM LEFT PARENTHESIS ORNAMENTćRIGHT PARENTHESIS O",
    "RNAMENTćFLATTENED LEFT PARENTHESIS ORNAMENTđRIGHT PARENTHESIS ORNAMENTćLEFT-POINTING ANGLE BRACK",
    "ET ORNAMENTćRIGHT-POINTING ANGLE BRACKET ORNAMENTĀHEAVY LEFT-POINTING ANGLE QUOTATION MARK ORNAM",
    "ENTĆRIGHT-POINTING ANGLE QUOTATION MARK ORNAMENTĆLEFT-POINTING ANGLE BRACKET ORNAMENTĆRIGHT-POIN",
    "TING ANGLE BRACKET ORNAMENTĀLIGHT LEFT TORTOISE SHELL BRACKET ORNAMENTĆRIGHT TORTOISE SHELL BRAC",
    "KET ORNAMENTĀMEDIUM LEFT CURLY BRACKET ORNAMENTćRIGHT CURLY BRACKET ORNAMENTĀDINGBAT NEGATIVE CI",
    "RCLED DIGIT ONEğTWOĠHREEğFOURĠIVEğSIXĠEVENğEIGHTğNINEęNUMBER TENĈCIRCLED SANS-SERIF DIGIT ONEġTW",
    "OĢHREEġFOURĢIVEġSIXĢEVENġEIGHTġNINEěNUMBER TENĈNEGATIVE CIRCLED SANS-SERIF DIGIT ONEĪTWOīHREEĪFO",
    "URīIVEĪSIXīEVENĪEIGHTĪNINEĤNUMBER TENĀHEAVY WIDE-HEADED RIGHTWARDS ARROWĆPLUS SIGNĆMINUS SIGNĆDI",
    "VISION SIGNĆSOUTH EAST ARROWĆRIGHTWARDS ARROWĆNORTH EAST ARROWĀDRAFTING POINT RIGHTWARDS ARROWĀH",
    "EAVY ROUND-TIPPED RIGHTWARDS ARROWĀTRIANGLE-HEADED RIGHTWARDS ARROWĀHEAVY TRIANGLE-HEADED RIGHTW",
    "ARDS ARROWĀDASHED TRIANGLE-HEADED RIGHTWARDS ARROWĀHEAVY DASHED TRIANGLE-HEADED RIGHTWARDS ARROW",
    "ĀBLACK RIGHTWARDS ARROWĀTHREE-D TOP-LIGHTED RIGHTWARDS ARROWHEADĈBOTTOM-LIGHTED RIGHTWARDS ARROW",
    "HEADĀBLACK RIGHTWARDS ARROWHEADĀHEAVY BLACK CURVED DOWNWARDS AND RIGHTWARDS ARROWēUPWARDS AND RI",
    "GHTWARDS ARROWĀSQUAT BLACK RIGHTWARDS ARROWĀHEAVY CONCAVE-POINTED BLACK RIGHTWARDS ARROWĀRIGHT-S",
    "HADED WHITE RIGHTWARDS ARROWĀLEFT-SHADED WHITE RIGHTWARDS ARROWĀBACK-TILTED SHADOWED WHITE RIGHT",
    "WARDS ARROWĀFRONT-TILTED SHADOWED WHITE RIGHTWARDS ARROWĀHEAVY LOWER RIGHT-SHADOWED WHITE RIGHTW",
    "ARDS ARROWĆUPPER RIGHT-SHADOWED WHITE RIGHTWARDS ARROWĀNOTCHED LOWER RIGHT-SHADOWED WHITE RIGHTW",
    "ARDS ARROWĀCURLY LOOPĀNOTCHED UPPER RIGHT-SHADOWED WHITE RIGHTWARDS ARROWĀCIRCLED HEAVY WHITE RI",
    "GHTWARDS ARROWĀWHITE-FEATHERED RIGHTWARDS ARROWĀBLACK-FEATHERED SOUTH EAST ARROWĐRIGHTWARDS ARRO",
    "WĐNORTH EAST ARROWĀHEAVY BLACK-FEATHERED SOUTH EAST ARROWĖRIGHTWARDS ARROWĖNORTH EAST ARROWĀTEAR",
    "DROP-BARBED RIGHTWARDS ARROWĀHEAVY TEARDROP-SHANKED RIGHTWARDS ARROWĀWEDGE-TAILED RIGHTWARDS ARR",
    "OWĀHEAVY WEDGE-TAILED RIGHTWARDS ARROWĀOPEN-OUTLINED RIGHTWARDS ARROWĀDOUBLE CURLY LOOPĀTHREE DI",
    "MENSIONAL ANGLEĀWHITE TRIANGLE CONTAINING SMALL WHITE TRIANGLEĀPERPENDICULARĀOPEN SUBSETćPERSETĀ",
    "LEFT S-SHAPED BAG DELIMITERĀRIGHT S-SHAPED BAG DELIMITERĀOR WITH DOT INSIDEĀREVERSE SOLIDUS PREC",
    "EDING SUBSETĀSUPERSET PRECEDING SOLIDUSĀVERTICAL BAR WITH HORIZONTAL STROKEĀMATHEMATICAL RISING ",
    "DIAGONALĀLONG DIVISIONĀMATHEMATICAL FALLING DIAGONALĀSQUARED LOGICAL ANDĐORĀWHITE DIAMOND WITH C",
    "ENTRED DOTĀAND WITH DOTĀELEMENT OF OPENING UPWARDSĀLOWER RIGHT CORNER WITH DOTĀUPPER LEFT CORNER",
    " WITH DOTĀLEFT OUTER JOINĀRIGHT OUTER JOINĀFULL OUTER JOINĀLARGE UP TACKĆDOWN TACKāEFT AND RIGHT",
    " DOUBLE TURNSTILEďTACKąMULTIMAPāONG RIGHT TACKąLEFT TACKĀUP TACK WITH CIRCLE ABOVEĀLOZENGE DIVID",
    "ED BY HORIZONTAL RULEĀWHITE CONCAVE-SIDED DIAMONDě WITH LEFTWARDS TICKġRIGHTWARDS TICKĆSQUARE WI",
    "TH LEFTWARDS TICKĒRIGHTWARDS TICKĀMATHEMATICAL LEFT WHITE SQUARE BRACKETčRIGHT WHITE SQUARE BRAC",
    "KETčLEFT ANGLE BRACKETčRIGHT ANGLE BRACKETčLEFT DOUBLE ANGLE BRACKETčRIGHT DOUBLE ANGLE BRACKETč",
    "LEFT WHITE TORTOISE SHELL BRACKETčRIGHT WHITE TORTOISE SHELL BRACKETčLEFT FLATTENED PARENTHESISč",
    "RIGHT FLATTENED PARENTHESISĀUPWARDS QUADRUPLE ARROWĀDOWNWARDS QUADRUPLE ARROWĀANTICLOCKWISE GAPP",
    "ED CIRCLE ARROWĀCLOCKWISE GAPPED CIRCLE ARROWĀRIGHT ARROW WITH CIRCLED PLUSĀLONG LEFTWARDS ARROW",
    "ąRIGHTWARDS ARROWąLEFT RIGHT ARROWĉWARDS DOUBLE ARROWąRIGHTWARDS DOUBLE ARROWąLEFT RIGHT DOUBLE ",
    "ARROWĉWARDS ARROW FROM BARąRIGHTWARDS ARROW FROM BARąLEFTWARDS DOUBLE ARROW FROM BARąRIGHTWARDS ",
    "DOUBLE ARROW FROM BARĐSQUIGGLE ARROWĀBRAILLE PATTERN BLANKĐDOTS-1ĕ2ĕ12ĕ3ĕ13ĕ23ĕ123ĕ4ĕ14ĕ24ĕ124ĕ3",
    "4ĕ134ĕ234ĕ1234ĕ5ĕ15ĕ25ĕ125ĕ35ĕ135ĕ235ĕ1235ĕ45ĕ145ĕ245ĕ1245ĕ345ĕ1345ĕ2345ĕ12345ĕ6ĕ16ĕ26ĕ126ĕ36ĕ13",
    "6ĕ236ĕ1236ĕ46ĕ146ĕ246ĕ1246ĕ346ĕ1346ĕ2346ĕ12346ĕ56ĕ156ĕ256ĕ1256ĕ356ĕ1356ĕ2356ĕ12356ĕ456ĕ1456ĕ2456",
    "ĕ12456ĕ3456ĕ13456ĕ23456ĕ123456ĕ7ĕ17ĕ27ĕ127ĕ37ĕ137ĕ237ĕ1237ĕ47ĕ147ĕ247ĕ1247ĕ347ĕ1347ĕ2347ĕ12347ĕ5",
    "7ĕ157ĕ257ĕ1257ĕ357ĕ1357ĕ2357ĕ12357ĕ457ĕ1457ĕ2457ĕ12457ĕ3457ĕ13457ĕ23457ĕ123457ĕ67ĕ167ĕ267ĕ1267ĕ3",
    "67ĕ1367ĕ2367ĕ12367ĕ467ĕ1467ĕ2467ĕ12467ĕ3467ĕ13467ĕ23467ĕ123467ĕ567ĕ1567ĕ2567ĕ12567ĕ3567ĕ13567ĕ23",
    "567ĕ123567ĕ4567ĕ14567ĕ24567ĕ124567ĕ34567ĕ134567ĕ234567ĕ1234567ĕ8ĕ18ĕ28ĕ128ĕ38ĕ138ĕ238ĕ1238ĕ48ĕ14",
    "8ĕ248ĕ1248ĕ348ĕ1348ĕ2348ĕ12348ĕ58ĕ158ĕ258ĕ1258ĕ358ĕ1358ĕ2358ĕ12358ĕ458ĕ1458ĕ2458ĕ12458ĕ3458ĕ1345"],
  String.join [
    "8ĕ23458ĕ123458ĕ68ĕ168ĕ268ĕ1268ĕ368ĕ1368ĕ2368ĕ12368ĕ468ĕ1468ĕ2468ĕ12468ĕ3468ĕ13468ĕ23468ĕ123468ĕ5",
    "68ĕ1568ĕ2568ĕ12568ĕ3568ĕ13568ĕ23568ĕ123568ĕ4568ĕ14568ĕ24568ĕ124568ĕ34568ĕ134568ĕ234568ĕ1234568ĕ7",
    "8ĕ178ĕ278ĕ1278ĕ378ĕ1378ĕ2378ĕ12378ĕ478ĕ1478ĕ2478ĕ12478ĕ3478ĕ13478ĕ23478ĕ123478ĕ578ĕ1578ĕ2578ĕ125",
    "78ĕ3578ĕ13578ĕ23578ĕ123578ĕ4578ĕ14578ĕ24578ĕ124578ĕ34578ĕ134578ĕ234578ĕ1234578ĕ678ĕ1678ĕ2678ĕ126",
    "78ĕ3678ĕ13678ĕ23678ĕ123678ĕ4678ĕ14678ĕ24678ĕ124678ĕ34678ĕ134678ĕ234678ĕ1234678ĕ5678ĕ15678ĕ25678ĕ",
    "125678ĕ35678ĕ135678ĕ235678ĕ1235678ĕ45678ĕ145678ĕ245678ĕ1245678ĕ345678ĕ1345678ĕ2345678ĕ12345678ĀR",
    "IGHTWARDS TWO-HEADED ARROW WITH VERTICAL STROKEġDOUBLE VERTICAL STROKEĀLEFTWARDS DOUBLE ARROW WI",
    "TH VERTICAL STROKEĀRIGHTWARDS DOUBLE ARROW WITH VERTICAL STROKEĀLEFT RIGHT DOUBLE ARROW WITH VER",
    "TICAL STROKEĀRIGHTWARDS TWO-HEADED ARROW FROM BARĀLEFTWARDS DOUBLE ARROW FROM BARĀRIGHTWARDS DOU",
    "BLE ARROW FROM BARĀDOWNWARDS ARROW WITH HORIZONTAL STROKEĀUPWARDS ARROW WITH HORIZONTAL STROKEĈT",
    "RIPLE ARROWĀDOWNWARDS TRIPLE ARROWĀLEFTWARDS DOUBLE DASH ARROWĀRIGHTWARDS DOUBLE DASH ARROWĀLEFT",
    "WARDS TRIPLE DASH ARROWĀRIGHTWARDS TRIPLE DASH ARROWČWO-HEADED TRIPLE DASH ARROWċARROW WITH DOTT",
    "ED STEMĀUPWARDS ARROW TO BARĀDOWNWARDS ARROW TO BARĀRIGHTWARDS ARROW WITH TAIL WITH VERTICAL STR",
    "OKEĠDOUBLE VERTICAL STROKEċTWO-HEADED ARROW WITH TAILĥ WITH VERTICAL STROKEīDOUBLE VERTICAL STRO",
    "KEĀLEFTWARDS ARROW-TAILĀRIGHTWARDS ARROW-TAILĀLEFTWARDS DOUBLE ARROW-TAILĀRIGHTWARDS DOUBLE ARRO",
    "W-TAILĀLEFTWARDS ARROW TO BLACK DIAMONDĀRIGHTWARDS ARROW TO BLACK DIAMONDĀLEFTWARDS ARROW FROM B",
    "AR TO BLACK DIAMONDĀRIGHTWARDS ARROW FROM BAR TO BLACK DIAMONDĀNORTH WEST AND SOUTH EAST ARROWĆE",
    "AST AND SOUTH WEST ARROWĆWEST ARROW WITH HOOKĆEAST ARROW WITH HOOKĀSOUTH EAST ARROW WITH HOOKĆWE",
    "ST ARROW WITH HOOKĀNORTH WEST ARROW AND NORTH EAST ARROWĆEAST ARROW AND SOUTH EAST ARROWĀSOUTH E",
    "AST ARROW AND SOUTH WEST ARROWĆWEST ARROW AND NORTH WEST ARROWĀRISING DIAGONAL CROSSING FALLING ",
    "DIAGONALĀFALLING DIAGONAL CROSSING RISING DIAGONALĀSOUTH EAST ARROW CROSSING NORTH EAST ARROWĀNO",
    "RTH EAST ARROW CROSSING SOUTH EAST ARROWĀFALLING DIAGONAL CROSSING NORTH EAST ARROWĀRISING DIAGO",
    "NAL CROSSING SOUTH EAST ARROWĀNORTH EAST ARROW CROSSING NORTH WEST ARROWĆWEST ARROW CROSSING NOR",
    "TH EAST ARROWĀWAVE ARROW POINTING DIRECTLY RIGHTĀARROW POINTING RIGHTWARDS THEN CURVING UPWARDSħ",
    "DOWNWARDSďDOWNWARDS THEN CURVING LEFTWARDSĦRIGHTWARDSĀRIGHT-SIDE ARC CLOCKWISE ARROWĀLEFT-SIDE A",
    "RC ANTICLOCKWISE ARROWĀTOP ARC ANTICLOCKWISE ARROWĀBOTTOM ARC ANTICLOCKWISE ARROWĀTOP ARC CLOCKW",
    "ISE ARROW WITH MINUSĈANTICLOCKWISE ARROW WITH PLUSĀLOWER RIGHT SEMICIRCULAR CLOCKWISE ARROWĆLEFT",
    " SEMICIRCULAR ANTICLOCKWISE ARROWĀANTICLOCKWISE CLOSED CIRCLE ARROWĀCLOCKWISE CLOSED CIRCLE ARRO",
    "WĀRIGHTWARDS ARROW ABOVE SHORT LEFTWARDS ARROWĀLEFTWARDS ARROW ABOVE SHORT RIGHTWARDS ARROWĀSHOR",
    "T RIGHTWARDS ARROW ABOVE LEFTWARDS ARROWĀRIGHTWARDS ARROW WITH PLUS BELOWĀLEFTWARDS ARROW WITH P",
    "LUS BELOWĀRIGHTWARDS ARROW THROUGH XĀLEFT RIGHT ARROW THROUGH SMALL CIRCLEĀUPWARDS TWO-HEADED AR",
    "ROW FROM SMALL CIRCLEĀLEFT BARB UP RIGHT BARB DOWN HARPOONĊDOWN RIGHT BARB UP HARPOONĀUP BARB RI",
    "GHT DOWN BARB LEFT HARPOONĈLEFT DOWN BARB RIGHT HARPOONĀLEFT BARB UP RIGHT BARB UP HARPOONĀUP BA",
    "RB RIGHT DOWN BARB RIGHT HARPOONĀLEFT BARB DOWN RIGHT BARB DOWN HARPOONĀUP BARB LEFT DOWN BARB L",
    "EFT HARPOONĀLEFTWARDS HARPOON WITH BARB UP TO BARĀRIGHTWARDS HARPOON WITH BARB UP TO BARĀUPWARDS",
    " HARPOON WITH BARB RIGHT TO BARĀDOWNWARDS HARPOON WITH BARB RIGHT TO BARĀLEFTWARDS HARPOON WITH ",
    "BARB DOWN TO BARĀRIGHTWARDS HARPOON WITH BARB DOWN TO BARĀUPWARDS HARPOON WITH BARB LEFT TO BARĀ",
    "DOWNWARDS HARPOON WITH BARB LEFT TO BARĀLEFTWARDS HARPOON WITH BARB UP FROM BARĀRIGHTWARDS HARPO",
    "ON WITH BARB UP FROM BARĀUPWARDS HARPOON WITH BARB RIGHT FROM BARĀDOWNWARDS HARPOON WITH BARB RI",
    "GHT FROM BARĀLEFTWARDS HARPOON WITH BARB DOWN FROM BARĀRIGHTWARDS HARPOON WITH BARB DOWN FROM BA",
    "RĀUPWARDS HARPOON WITH BARB LEFT FROM BARĀDOWNWARDS HARPOON WITH BARB LEFT FROM BARĀLEFTWARDS HA",
    "RPOON WITH BARB UP ABOVE LEFTWARDS HARPOON WITH BARB DOWNĀUPWARDS HARPOON WITH BARB LEFT BESIDE ",
    "UPWARDS HARPOON WITH BARB RIGHTĀRIGHTWARDS HARPOON WITH BARB UP ABOVE RIGHTWARDS HARPOON WITH BA",
    "RB DOWNĀDOWNWARDS HARPOON WITH BARB LEFT BESIDE DOWNWARDS HARPOON WITH BARB RIGHTĀLEFTWARDS HARP",
    "OON WITH BARB UP ABOVE RIGHTWARDS HARPOON WITH BARB UPĜDOWN ABOVE RIGHTWARDS HARPOON WITH BARB D",
    "OWNĀRIGHTWARDS HARPOON WITH BARB UP ABOVE LEFTWARDS HARPOON WITH BARB UPĝDOWN ABOVE LEFTWARDS HA",
    "RPOON WITH BARB DOWNĀLEFTWARDS HARPOON WITH BARB UP ABOVE LONG DASHĜDOWN BELOW LONG DASHĀRIGHTWA",
    "RDS HARPOON WITH BARB UP ABOVE LONG DASHĝDOWN BELOW LONG DASHĀUPWARDS HARPOON WITH BARB LEFT BES",
    "IDE DOWNWARDS HARPOON WITH BARB RIGHTĀDOWNWARDS HARPOON WITH BARB LEFT BESIDE UPWARDS HARPOON WI",
    "TH BARB RIGHTĀRIGHT DOUBLE ARROW WITH ROUNDED HEADĀEQUALS SIGN ABOVE RIGHTWARDS ARROWĀTILDE OPER",
    "ATOR ABOVE RIGHTWARDS ARROWĀLEFTWARDS ARROW ABOVE TILDE OPERATORĀRIGHTWARDS ARROW ABOVE TILDE OP",
    "ERATORėALMOST EQUAL TOĀLESS-THAN ABOVE LEFTWARDS ARROWĂFTWARDS ARROW THROUGH LESS-THANĀGREATER-T",
    "HAN ABOVE RIGHTWARDS ARROWĀSUBSET ABOVE RIGHTWARDS ARROWĀLEFTWARDS ARROW THROUGH SUBSETĀSUPERSET",
    " ABOVE LEFTWARDS ARROWĀLEFT FISH TAILĀRIGHT FISH TAILĀUP FISH TAILĀDOWN FISH TAILĀTRIPLE VERTICA",
    "L BAR DELIMITERĀZ NOTATION SPOTċTYPE COLONĀLEFT WHITE CURLY BRACKETĀRIGHT WHITE CURLY BRACKETĀLE",
    "FT WHITE PARENTHESISĀRIGHT WHITE PARENTHESISĀZ NOTATION LEFT IMAGE BRACKETċRIGHT IMAGE BRACKETċL",
    "EFT BINDING BRACKETċRIGHT BINDING BRACKETĀLEFT SQUARE BRACKET WITH UNDERBARĀRIGHT SQUARE BRACKET",
    " WITH UNDERBARĀLEFT SQUARE BRACKET WITH TICK IN TOP CORNERĀRIGHT SQUARE BRACKET WITH TICK IN BOT",
    "TOM CORNERĀLEFT SQUARE BRACKET WITH TICK IN BOTTOM CORNERĀRIGHT SQUARE BRACKET WITH TICK IN TOP ",
    "CORNERĀLEFT ANGLE BRACKET WITH DOTĀRIGHT ANGLE BRACKET WITH DOTĀLEFT ARC LESS-THAN BRACKETĀRIGHT",
    " ARC GREATER-THAN BRACKETĀDOUBLE LEFT ARC GREATER-THAN BRACKETćRIGHT ARC LESS-THAN BRACKETĀLEFT ",
    "BLACK TORTOISE SHELL BRACKETĀRIGHT BLACK TORTOISE SHELL BRACKETĀDOTTED FENCEĀVERTICAL ZIGZAG LIN",
    "EĀMEASURED ANGLE OPENING LEFTĀRIGHT ANGLE VARIANT WITH SQUAREĀMEASURED RIGHT ANGLE WITH DOTĀANGL",
    "E WITH S INSIDEāCUTE ANGLEĀSPHERICAL ANGLE OPENING LEFTĘUPĀTURNED ANGLEĀREVERSED ANGLEĀANGLE WIT",
    "H UNDERBARĀREVERSED ANGLE WITH UNDERBARĀOBLIQUE ANGLE OPENING UPĖDOWNĀMEASURED ANGLE WITH OPEN A",
    "RM ENDING IN ARROW POINTING UP AND RIGHTĽLEFTĶDOWN AND RIGHTĿLEFTĶRIGHT AND UPĶLEFT AND UPĶRIGHT",
    " AND DOWNĶLEFT AND DOWNĀREVERSED EMPTY SETĀEMPTY SET WITH OVERBARďSMALL CIRCLE ABOVEďRIGHT ARROW",
    " ABOVEďLEFT ARROW ABOVEĀCIRCLE WITH HORIZONTAL BARĆD VERTICAL BARĈPARALLELĈREVERSE SOLIDUSĈPERPE",
    "NDICULARĆ DIVIDED BY HORIZONTAL BAR AND TOP HALF DIVIDED BY VERTICAL BARćWITH SUPERIMPOSED XĆD A",
    "NTICLOCKWISE-ROTATED DIVISION SIGNĀUP ARROW THROUGH CIRCLEĀCIRCLED WHITE BULLETĈBULLETĈLESS-THAN",
    "ĈGREATER-THANĆ WITH SMALL CIRCLE TO THE RIGHTČTWO HORIZONTAL STROKES TO THE RIGHTĀSQUARED RISING",
    " DIAGONAL SLASHĈFALLING DIAGONAL SLASHĈASTERISKĈSMALL CIRCLEĉQUAREĀTWO JOINED SQUARESāRIANGLE WI",
    "TH DOT ABOVEĎUNDERBARĀS IN TRIANGLEĀTRIANGLE WITH SERIFS AT BOTTOMĀRIGHT TRIANGLE ABOVE LEFT TRI",
    "ANGLEĀLEFT TRIANGLE BESIDE VERTICAL BARĀVERTICAL BAR BESIDE RIGHT TRIANGLEĀBOWTIE WITH LEFT HALF",
    " BLACKČRIGHT HALF BLACKāLACK BOWTIEĀTIMES WITH LEFT HALF BLACKċRIGHT HALF BLACKĀWHITE HOURGLASSĀ",
    "BLACK HOURGLASSĀLEFT WIGGLY FENCEĀRIGHT WIGGLY FENCEĀLEFT DOUBLE WIGGLY FENCEĀRIGHT DOUBLE WIGGL",
    "Y FENCEĀINCOMPLETE INFINITYĀTIE OVER INFINITYĀINFINITY NEGATED WITH VERTICAL BARĀDOUBLE-ENDED MU",
    "LTIMAPĀSQUARE WITH CONTOURED OUTLINEĀINCREASES ASĀSHUFFLE PRODUCTĀEQUALS SIGN AND SLANTED PARALL",
    "ELĠ WITH TILDE ABOVEĀIDENTICAL TO AND SLANTED PARALLELĀGLEICH STARKĀTHERMODYNAMICĀDOWN-POINTING ",
    "TRIANGLE WITH LEFT HALF BLACKĜRIGHT HALF BLACKĀBLACK DIAMOND WITH DOWN ARROWĆLOZENGEĀWHITE CIRCL",
    "E WITH DOWN ARROWĀBLACK CIRCLE WITH DOWN ARROWĀERROR-BARRED WHITE SQUAREčBLACK SQUAREčWHITE DIAM",
    "ONDčBLACK DIAMONDčWHITE CIRCLEčBLACK CIRCLEĀRULE-DELAYEDāEVERSE SOLIDUS OPERATORĀSOLIDUS WITH OV",
    "ERBARĀREVERSE SOLIDUS WITH HORIZONTAL STROKEĀBIG SOLIDUSĄREVERSE SOLIDUSĀDOUBLE PLUSĀTRIPLE PLUS",
    "ĀLEFT-POINTING CURVED ANGLE BRACKETĀRIGHT-POINTING CURVED ANGLE BRACKETĀTINYĀMINYĀN-ARY CIRCLED ",
    "DOT OPERATORĎPLUS OPERATORĎTIMES OPERATORĆUNION OPERATOR WITH DOTĚPLUSĆSQUARE INTERSECTION OPERA",
    "TORčUNION OPERATORĀTWO LOGICAL AND OPERATORČOR OPERATORĀN-ARY TIMES OPERATORĀMODULO TWO SUMĀSUMM",
    "ATION WITH INTEGRALĀQUADRUPLE INTEGRAL OPERATORĀFINITE PART INTEGRALĀINTEGRAL WITH DOUBLE STROKE",
    "ĉAVERAGE WITH SLASHĀCIRCULATION FUNCTIONĀANTICLOCKWISE INTEGRATIONĀLINE INTEGRATION WITH RECTANG",
    "ULAR PATH AROUND POLEĖSEMICIRCULAR PATH AROUND POLEđNOT INCLUDING THE POLEĀINTEGRAL AROUND A POI",
    "NT OPERATORĀQUATERNION INTEGRAL OPERATORĀINTEGRAL WITH LEFTWARDS ARROW WITH HOOKĎTIMES SIGNĎINTE",
    "RSECTIONĎUNIONĎOVERBARĎUNDERBARĀJOINĀLARGE LEFT TRIANGLE OPERATORĀZ NOTATION SCHEMA COMPOSITIONĒ",
    "PIPINGēROJECTIONĀPLUS SIGN WITH SMALL CIRCLE ABOVEďCIRCUMFLEX ACCENT ABOVEďTILDE ABOVEďDOT BELOW",
    "ďTILDE BELOWďSUBSCRIPT TWOďBLACK TRIANGLEĀMINUS SIGN WITH COMMA ABOVEĐDOT BELOWĐFALLING DOTSĐRIS",
    "ING DOTSĀPLUS SIGN IN LEFT HALF CIRCLEčRIGHT HALF CIRCLEĀVECTOR OR CROSS PRODUCTĀMULTIPLICATION ",
    "SIGN WITH DOT ABOVEęUNDERBARĀSEMIDIRECT PRODUCT WITH BOTTOM CLOSEDāMASH PRODUCTĀMULTIPLICATION S",
    "IGN IN LEFT HALF CIRCLEėRIGHT HALF CIRCLEĀCIRCLED MULTIPLICATION SIGN WITH CIRCUMFLEX ACCENTĀMUL",
    "TIPLICATION SIGN IN DOUBLE CIRCLEĀCIRCLED DIVISION SIGNĀPLUS SIGN IN TRIANGLEĀMINUS SIGN IN TRIA",
    "NGLEāULTIPLICATION SIGN IN TRIANGLEĀINTERIOR PRODUCTĀRIGHTHAND INTERIOR PRODUCTĀZ NOTATION RELAT",
    "IONAL COMPOSITIONĀAMALGAMATION OR COPRODUCTĀINTERSECTION WITH DOTĀUNION WITH MINUS SIGNċOVERBARĀ",
    "INTERSECTION WITH OVERBARĒLOGICAL ANDĀUNION WITH LOGICAL ORĆABOVE INTERSECTIONĀINTERSECTION ABOV"],
  String.join [
    "E UNIONĀUNION ABOVE BAR ABOVE INTERSECTIONĀINTERSECTION ABOVE BAR ABOVE UNIONĀUNION BESIDE AND J",
    "OINED WITH UNIONĀINTERSECTION BESIDE AND JOINED WITH INTERSECTIONĀCLOSED UNION WITH SERIFSćINTER",
    "SECTION WITH SERIFSĀDOUBLE SQUARE INTERSECTIONĎUNIONĀCLOSED UNION WITH SERIFS AND SMASH PRODUCTĀ",
    "LOGICAL AND WITH DOT ABOVEĈOR WITH DOT ABOVEĀDOUBLE LOGICAL ANDďORĀTWO INTERSECTING LOGICAL ANDę",
    "ORĀSLOPING LARGE ORĎANDĀLOGICAL OR OVERLAPPING LOGICAL ANDĈAND WITH MIDDLE STEMĈOR WITH MIDDLE S",
    "TEMĈAND WITH HORIZONTAL DASHĈOR WITH HORIZONTAL DASHĈAND WITH DOUBLE OVERBARđUNDERBARđDOUBLE UND",
    "ERBARĀSMALL VEE WITH UNDERBARĀLOGICAL OR WITH DOUBLE OVERBARėUNDERBARĀZ NOTATION DOMAIN ANTIREST",
    "RICTIONċRANGE ANTIRESTRICTIONĀEQUALS SIGN WITH DOT BELOWĀIDENTICAL WITH DOT ABOVEĀTRIPLE HORIZON",
    "TAL BAR WITH DOUBLE VERTICAL STROKEěTRIPLE VERTICAL STROKEāILDE OPERATOR WITH DOT ABOVEĔRISING D",
    "OTSĀSIMILAR MINUS SIMILARĀCONGRUENT WITH DOT ABOVEĀEQUALS WITH ASTERISKĀALMOST EQUAL TO WITH CIR",
    "CUMFLEX ACCENTāPPROXIMATELY EQUAL OR EQUAL TOĀEQUALS SIGN ABOVE PLUS SIGNĀPLUS SIGN ABOVE EQUALS",
    " SIGNĀEQUALS SIGN ABOVE TILDE OPERATORĀDOUBLE COLON EQUALĀTWO CONSECUTIVE EQUALS SIGNSāHREE CONS",
    "ECUTIVE EQUALS SIGNSĀEQUALS SIGN WITH TWO DOTS ABOVE AND TWO DOTS BELOWăIVALENT WITH FOUR DOTS A",
    "BOVEĀLESS-THAN WITH CIRCLE INSIDEĀGREATER-THAN WITH CIRCLE INSIDEĀLESS-THAN WITH QUESTION MARK A",
    "BOVEĀGREATER-THAN WITH QUESTION MARK ABOVEĀLESS-THAN OR SLANTED EQUAL TOĀGREATER-THAN OR SLANTED",
    " EQUAL TOĀLESS-THAN OR SLANTED EQUAL TO WITH DOT INSIDEĀGREATER-THAN OR SLANTED EQUAL TO WITH DO",
    "T INSIDEĀLESS-THAN OR SLANTED EQUAL TO WITH DOT ABOVEĀGREATER-THAN OR SLANTED EQUAL TO WITH DOT ",
    "ABOVEĀLESS-THAN OR SLANTED EQUAL TO WITH DOT ABOVE RIGHTĀGREATER-THAN OR SLANTED EQUAL TO WITH D",
    "OT ABOVE LEFTĀLESS-THAN OR APPROXIMATEĀGREATER-THAN OR APPROXIMATEĀLESS-THAN AND SINGLE-LINE NOT",
    " EQUAL TOĀGREATER-THAN AND SINGLE-LINE NOT EQUAL TOĀLESS-THAN AND NOT APPROXIMATEĀGREATER-THAN A",
    "ND NOT APPROXIMATEĀLESS-THAN ABOVE DOUBLE-LINE EQUAL ABOVE GREATER-THANĀGREATER-THAN ABOVE DOUBL",
    "E-LINE EQUAL ABOVE LESS-THANĀLESS-THAN ABOVE SIMILAR OR EQUALĀGREATER-THAN ABOVE SIMILAR OR EQUA",
    "LĀLESS-THAN ABOVE SIMILAR ABOVE GREATER-THANĀGREATER-THAN ABOVE SIMILAR ABOVE LESS-THANĀLESS-THA",
    "N ABOVE GREATER-THAN ABOVE DOUBLE-LINE EQUALĀGREATER-THAN ABOVE LESS-THAN ABOVE DOUBLE-LINE EQUA",
    "LĀLESS-THAN ABOVE SLANTED EQUAL ABOVE GREATER-THAN ABOVE SLANTED EQUALĀGREATER-THAN ABOVE SLANTE",
    "D EQUAL ABOVE LESS-THAN ABOVE SLANTED EQUALĀSLANTED EQUAL TO OR LESS-THANĔGREATER-THANĔLESS-THAN",
    " WITH DOT INSIDEĔGREATER-THAN WITH DOT INSIDEĀDOUBLE-LINE EQUAL TO OR LESS-THANĘGREATER-THANČSLA",
    "NTED EQUAL TO OR LESS-THANĠGREATER-THANĀSIMILAR OR LESS-THANċGREATER-THANĈABOVE LESS-THAN ABOVE ",
    "EQUALS SIGNĎGREATER-THAN ABOVE EQUALS SIGNĀDOUBLE NESTED LESS-THANĎGREATER-THANĎLESS-THAN WITH U",
    "NDERBARĀGREATER-THAN OVERLAPPING LESS-THANčBESIDE LESS-THANĀLESS-THAN CLOSED BY CURVEĀGREATER-TH",
    "AN CLOSED BY CURVEĀLESS-THAN CLOSED BY CURVE ABOVE SLANTED EQUALĀGREATER-THAN CLOSED BY CURVE AB",
    "OVE SLANTED EQUALĀSMALLER THANĀLARGER THANĀSMALLER THAN OR EQUAL TOĀLARGER THAN OR EQUAL TOĀEQUA",
    "LS SIGN WITH BUMPY ABOVEĀPRECEDES ABOVE SINGLE-LINE EQUALS SIGNĀSUCCEEDS ABOVE SINGLE-LINE EQUAL",
    "S SIGNĀPRECEDES ABOVE SINGLE-LINE NOT EQUAL TOĀSUCCEEDS ABOVE SINGLE-LINE NOT EQUAL TOĀPRECEDES ",
    "ABOVE EQUALS SIGNĀSUCCEEDS ABOVE EQUALS SIGNĀPRECEDES ABOVE NOT EQUAL TOĀSUCCEEDS ABOVE NOT EQUA",
    "L TOĀPRECEDES ABOVE ALMOST EQUAL TOĀSUCCEEDS ABOVE ALMOST EQUAL TOĀPRECEDES ABOVE NOT ALMOST EQU",
    "AL TOĀSUCCEEDS ABOVE NOT ALMOST EQUAL TOĀDOUBLE PRECEDESćSUCCEEDSĀSUBSET WITH DOTĂPERSET WITH DO",
    "TĂBSET WITH PLUS SIGN BELOWĂPERSET WITH PLUS SIGN BELOWĂBSET WITH MULTIPLICATION SIGN BELOWĂPERS",
    "ET WITH MULTIPLICATION SIGN BELOWĂBSET OF OR EQUAL TO WITH DOT ABOVEĂPERSET OF OR EQUAL TO WITH ",
    "DOT ABOVEĂBSET OF ABOVE EQUALS SIGNĂPERSET OF ABOVE EQUALS SIGNĂBSET OF ABOVE TILDE OPERATORĂPER",
    "SET OF ABOVE TILDE OPERATORĂBSET OF ABOVE ALMOST EQUAL TOĂPERSET OF ABOVE ALMOST EQUAL TOĂBSET O",
    "F ABOVE NOT EQUAL TOĂPERSET OF ABOVE NOT EQUAL TOāQUARE LEFT OPEN BOX OPERATORćRIGHT OPEN BOX OP",
    "ERATORĀCLOSED SUBSETĉPERSETĉBSET OR EQUAL TOĉPERSET OR EQUAL TOĀSUBSET ABOVE SUPERSETĂPERSET ABO",
    "VE SUBSETĂBSET ABOVE SUBSETĂPERSET ABOVE SUPERSETĉBESIDE SUBSETĐAND JOINED BY DASH WITH SUBSETĀE",
    "LEMENT OF OPENING DOWNWARDSĀPITCHFORK WITH TEE TOPĀTRANSVERSAL INTERSECTIONĀFORKINGĀNONFORKINGĀS",
    "HORT LEFT TACKĆDOWN TACKĆUP TACKĀPERPENDICULAR WITH SĀVERTICAL BAR TRIPLE RIGHT TURNSTILEĀDOUBLE",
    " VERTICAL BAR LEFT TURNSTILEĀVERTICAL BAR DOUBLE LEFT TURNSTILEĀDOUBLE VERTICAL BAR DOUBLE LEFT ",
    "TURNSTILEĀLONG DASH FROM LEFT MEMBER OF DOUBLE VERTICALĀSHORT DOWN TACK WITH OVERBARĆUP TACK WIT",
    "H UNDERBARĎABOVE SHORT DOWN TACKĀDOUBLE DOWN TACKćUP TACKćSTROKE NOT SIGNĀREVERSED DOUBLE STROKE",
    " NOT SIGNĀDOES NOT DIVIDE WITH REVERSED NEGATION SLASHĀVERTICAL LINE WITH CIRCLE ABOVEĚBELOWĀDOW",
    "N TACK WITH CIRCLE BELOWĀPARALLEL WITH HORIZONTAL STROKEĎTILDE OPERATORĀTRIPLE VERTICAL BAR BINA",
    "RY RELATIONĔWITH HORIZONTAL STROKEćCOLON OPERATORćNESTED LESS-THANĎGREATER-THANĀDOUBLE-LINE SLAN",
    "TED LESS-THAN OR EQUAL TOĔGREATER-THAN OR EQUAL TOĀTRIPLE SOLIDUS BINARY RELATIONĀLARGE TRIPLE V",
    "ERTICAL BAR OPERATORĀDOUBLE SOLIDUS OPERATORĀWHITE VERTICAL BARĀN-ARY WHITE VERTICAL BARāORTH EA",
    "ST WHITE ARROWĆWEST WHITE ARROWĀSOUTH EAST WHITE ARROWĆWEST WHITE ARROWĀLEFT RIGHT WHITE ARROWĄW",
    "ARDS BLACK ARROWĀUPWARDS BLACK ARROWĀDOWNWARDS BLACK ARROWĀNORTH EAST BLACK ARROWĆWEST BLACK ARR",
    "OWĀSOUTH EAST BLACK ARROWĆWEST BLACK ARROWĀLEFT RIGHT BLACK ARROWĀUP DOWN BLACK ARROWĀRIGHTWARDS",
    " ARROW WITH TIP DOWNWARDSĚUPWARDSĀLEFTWARDS ARROW WITH TIP DOWNWARDSęUPWARDSĀSQUARE WITH TOP HAL",
    "F BLACKČBOTTOM HALF BLACKČUPPER RIGHT DIAGONAL HALF BLACKČLOWER LEFT DIAGONAL HALF BLACKĀDIAMOND",
    " WITH LEFT HALF BLACKčRIGHT HALF BLACKčTOP HALF BLACKčBOTTOM HALF BLACKāOTTED SQUAREĀBLACK LARGE",
    " SQUAREĀWHITE LARGE SQUAREĀBLACK VERY SMALL SQUAREĀWHITE VERY SMALL SQUAREĀBLACK PENTAGONĀWHITE ",
    "PENTAGONĆHEXAGONĀBLACK HEXAGONĀHORIZONTAL BLACK HEXAGONĀBLACK LARGE CIRCLEĆMEDIUM DIAMONDĀWHITE ",
    "MEDIUM DIAMONDĀBLACK MEDIUM LOZENGEĀWHITE MEDIUM LOZENGEĀBLACK SMALL DIAMONDČLOZENGEĀWHITE SMALL",
    " LOZENGEĀBLACK HORIZONTAL ELLIPSEĀWHITE HORIZONTAL ELLIPSEĀBLACK VERTICAL ELLIPSEĀWHITE VERTICAL",
    " ELLIPSEĀLEFT ARROW WITH SMALL CIRCLEĀTHREE LEFTWARDS ARROWSĀLEFT ARROW WITH CIRCLED PLUSāONG LE",
    "FTWARDS SQUIGGLE ARROWāEFTWARDS TWO-HEADED ARROW WITH VERTICAL STROKEĠDOUBLE VERTICAL STROKEěFRO",
    "M BARĕTRIPLE DASH ARROWĊARROW WITH DOTTED STEMĕTAIL WITH VERTICAL STROKEğDOUBLE VERTICAL STROKEĊ",
    "TWO-HEADED ARROW WITH TAILĤ WITH VERTICAL STROKEĪDOUBLE VERTICAL STROKEĊARROW THROUGH XĀWAVE ARR",
    "OW POINTING DIRECTLY LEFTĀEQUALS SIGN ABOVE LEFTWARDS ARROWĀREVERSE TILDE OPERATOR ABOVE LEFTWAR",
    "DS ARROWĀLEFTWARDS ARROW ABOVE REVERSE ALMOST EQUAL TOĀRIGHTWARDS ARROW THROUGH GREATER-THANęSUP",
    "ERSETĀLEFTWARDS QUADRUPLE ARROWĀRIGHTWARDS QUADRUPLE ARROWāEVERSE TILDE OPERATOR ABOVE RIGHTWARD",
    "S ARROWāIGHTWARDS ARROW ABOVE REVERSE ALMOST EQUAL TOĀTILDE OPERATOR ABOVE LEFTWARDS ARROWĀLEFTW",
    "ARDS ARROW ABOVE ALMOST EQUAL TOĖREVERSE TILDE OPERATORĀRIGHTWARDS ARROW ABOVE REVERSE TILDE OPE",
    "RATORĀDOWNWARDS TRIANGLE-HEADED ZIGZAG ARROWĀSHORT SLANTED NORTH ARROWĆBACKSLANTED SOUTH ARROWĀW",
    "HITE MEDIUM STARĀBLACK SMALL STARĀWHITE SMALL STARĀBLACK RIGHT-POINTING PENTAGONĀWHITE RIGHT-POI",
    "NTING PENTAGONĀHEAVY LARGE CIRCLEĆOVAL WITH OVAL INSIDEĆCIRCLE WITH CIRCLE INSIDEČČD SALTIREĀSLA",
    "NTED NORTH ARROW WITH HOOKED HEADĀBACKSLANTED SOUTH ARROW WITH HOOKED TAILĀSLANTED NORTH ARROW W",
    "ITH HORIZONTAL TAILĀBACKSLANTED SOUTH ARROW WITH HORIZONTAL TAILāENT ARROW POINTING DOWNWARDS TH",
    "EN NORTH EASTĀSHORT BENT ARROW POINTING DOWNWARDS THEN NORTH EASTĀLEFTWARDS TRIANGLE-HEADED ARRO",
    "WĀUPWARDS TRIANGLE-HEADED ARROWĀRIGHTWARDS TRIANGLE-HEADED ARROWĀDOWNWARDS TRIANGLE-HEADED ARROW",
    "ĀLEFT RIGHT TRIANGLE-HEADED ARROWĀUP DOWN TRIANGLE-HEADED ARROWĀNORTH WEST TRIANGLE-HEADED ARROW",
    "ĆEAST TRIANGLE-HEADED ARROWĀSOUTH EAST TRIANGLE-HEADED ARROWĆWEST TRIANGLE-HEADED ARROWĀLEFTWARD",
    "S TRIANGLE-HEADED DASHED ARROWĀUPWARDS TRIANGLE-HEADED DASHED ARROWĀRIGHTWARDS TRIANGLE-HEADED D",
    "ASHED ARROWĀDOWNWARDS TRIANGLE-HEADED DASHED ARROWĀCLOCKWISE TRIANGLE-HEADED OPEN CIRCLE ARROWĀA",
    "NTICLOCKWISE TRIANGLE-HEADED OPEN CIRCLE ARROWĀLEFTWARDS TRIANGLE-HEADED ARROW TO BARĀUPWARDS TR",
    "IANGLE-HEADED ARROW TO BARĀRIGHTWARDS TRIANGLE-HEADED ARROW TO BARĀDOWNWARDS TRIANGLE-HEADED ARR",
    "OW TO BAR@2B76ĀNORTH WEST TRIANGLE-HEADED ARROW TO BARĆEAST TRIANGLE-HEADED ARROW TO BARĀSOUTH E",
    "AST TRIANGLE-HEADED ARROW TO BARĆWEST TRIANGLE-HEADED ARROW TO BARĀLEFTWARDS TRIANGLE-HEADED ARR",
    "OW WITH DOUBLE HORIZONTAL STROKEĀUPWARDS TRIANGLE-HEADED ARROW WITH DOUBLE HORIZONTAL STROKEĀRIG",
    "HTWARDS TRIANGLE-HEADED ARROW WITH DOUBLE HORIZONTAL STROKEĀDOWNWARDS TRIANGLE-HEADED ARROW WITH",
    " DOUBLE HORIZONTAL STROKEĀHORIZONTAL TAB KEYĀVERTICAL TAB KEYĀLEFTWARDS TRIANGLE-HEADED ARROW OV",
    "ER RIGHTWARDS TRIANGLE-HEADED ARROWĀUPWARDS TRIANGLE-HEADED ARROW LEFTWARDS OF DOWNWARDS TRIANGL",
    "E-HEADED ARROWĀRIGHTWARDS TRIANGLE-HEADED ARROW OVER LEFTWARDS TRIANGLE-HEADED ARROWĀDOWNWARDS T",
    "RIANGLE-HEADED ARROW LEFTWARDS OF UPWARDS TRIANGLE-HEADED ARROWĀLEFTWARDS TRIANGLE-HEADED PAIRED",
    " ARROWSĀUPWARDS TRIANGLE-HEADED PAIRED ARROWSĀRIGHTWARDS TRIANGLE-HEADED PAIRED ARROWSĀDOWNWARDS",
    " TRIANGLE-HEADED PAIRED ARROWSĀLEFTWARDS BLACK CIRCLED WHITE ARROWĀUPWARDS BLACK CIRCLED WHITE A",
    "RROWĀRIGHTWARDS BLACK CIRCLED WHITE ARROWĀDOWNWARDS BLACK CIRCLED WHITE ARROWĀANTICLOCKWISE TRIA",
    "NGLE-HEADED RIGHT U-SHAPED ARROWĞBOTTOM U-SHAPED ARROWĞLEFT U-SHAPED ARROWĞTOP U-SHAPED ARROWĀRE",
    "TURN LEFTćRIGHTĀNEWLINE LEFTĈRIGHTĀFOUR CORNER ARROWS CIRCLING ANTICLOCKWISEĀRIGHTWARDS BLACK AR",
    "ROW@2B97ĀSYMBOL FOR TYPE A ELECTRONICSĀTHREE-D TOP-LIGHTED LEFTWARDS EQUILATERAL ARROWHEADĈRIGHT"],
  String.join [
    "-LIGHTED UPWARDS EQUILATERAL ARROWHEADĈTOP-LIGHTED RIGHTWARDS EQUILATERAL ARROWHEADĈLEFT-LIGHTED",
    " DOWNWARDS EQUILATERAL ARROWHEADĀBLACK LEFTWARDS EQUILATERAL ARROWHEADĆUPWARDS EQUILATERAL ARROW",
    "HEADĆRIGHTWARDS EQUILATERAL ARROWHEADĆDOWNWARDS EQUILATERAL ARROWHEADĀDOWNWARDS TRIANGLE-HEADED ",
    "ARROW WITH LONG TIP LEFTWARDSĮRIGHTWARDSĀUPWARDS TRIANGLE-HEADED ARROW WITH LONG TIP LEFTWARDSĬR",
    "IGHTWARDSĀLEFTWARDS TRIANGLE-HEADED ARROW WITH LONG TIP UPWARDSĀRIGHTWARDS TRIANGLE-HEADED ARROW",
    " WITH LONG TIP UPWARDSĀLEFTWARDS TRIANGLE-HEADED ARROW WITH LONG TIP DOWNWARDSĀRIGHTWARDS TRIANG",
    "LE-HEADED ARROW WITH LONG TIP DOWNWARDSĀBLACK CURVED DOWNWARDS AND LEFTWARDS ARROWěRIGHTWARDS AR",
    "ROWčUPWARDS AND LEFTWARDS ARROWęRIGHTWARDS ARROWčLEFTWARDS AND UPWARDS ARROWčRIGHTWARDS AND UPWA",
    "RDS ARROWčLEFTWARDS AND DOWNWARDS ARROWčRIGHTWARDS AND DOWNWARDS ARROWĀRIBBON ARROW DOWN LEFTĒRI",
    "GHTčUP LEFTĐRIGHTčLEFT UPčRIGHT UPčLEFT DOWNčRIGHT DOWNĀUPWARDS WHITE ARROW FROM BAR WITH HORIZO",
    "NTAL BARĂ ARROWHEAD IN A RECTANGLE BOXĀOVERLAPPING WHITE SQUARESĒAND BLACK SQUARESČBLACK SQUARES",
    "ĀBALLOT BOX WITH LIGHT XĀCIRCLED XĈBOLD XĀBLACK SQUARE CENTREDĆDIAMOND CENTREDĀTURNED BLACK PENT",
    "AGONĀHORIZONTAL BLACK OCTAGONĀBLACK OCTAGONĆMEDIUM UP-POINTING TRIANGLE CENTREDčDOWN-POINTING TR",
    "IANGLE CENTREDčLEFT-POINTING TRIANGLE CENTREDčRIGHT-POINTING TRIANGLE CENTREDĀNEPTUNE FORM TWOĀT",
    "OP HALF BLACK CIRCLEĀBOTTOM HALF BLACK CIRCLEĀLIGHT FOUR POINTED BLACK CUSPĀROTATED LIGHT FOUR P",
    "OINTED BLACK CUSPĀWHITE FOUR POINTED CUSPĀROTATED WHITE FOUR POINTED CUSPĀSQUARE POSITION INDICA",
    "TORĀUNCERTAINTY SIGNĀGROUP MARKĀPLUTO FORM TWOČHREEċFOURČIVEĀTRANSPLUTOĀPROSERPINAĀASTRAEAĀHYGIE",
    "AĀPHOLUSĀNESSUSĀWHITE MOON SELENAĀBLACK DIAMOND ON CROSSĀTRUE LIGHT MOON ARTAĀCUPIDOĀHADESĀZEUSĀ",
    "KRONOSĀAPOLLONāDMETOSĀVULCANUSĀPOSEIDONĀLEFT HALF BLACK STARĀRIGHT HALF BLACK STARĀSTAR WITH LEF",
    "T HALF BLACKĊRIGHT HALF BLACKĀLEFTWARDS TWO-HEADED ARROW WITH TRIANGLE ARROWHEADSĀUPWARDS TWO-HE",
    "ADED ARROW WITH TRIANGLE ARROWHEADSĀRIGHTWARDS TWO-HEADED ARROW WITH TRIANGLE ARROWHEADSĀDOWNWAR",
    "DS TWO-HEADED ARROW WITH TRIANGLE ARROWHEADSĀERIS FORM ONEĊTWOĀSEDNAĀRUSSIAN ASTROLOGICAL SYMBOL",
    " VIGINTILEĜNOVILEĜQUINTILEĜBINOVILEĜSENTAGONĜTREDECILEĀEQUALS SIGN WITH INFINITY BELOWĀUNITED SY",
    "MBOLĀSEPARATED SYMBOLĀDOUBLED SYMBOLĀPASSED SYMBOLĀREVERSED RIGHT ANGLEĀHELLSCHREIBER PAUSE SYMB",
    "OLĀGLAGOLITIC CAPITAL LETTER AZUĚBUKYĚVEDEĚGLAGOLIĚDOBROĚYESTUĚZHIVETEĚDZELOĚZEMLJAĚIZHEěNITIAL ",
    "IZHEěĚDJERVIĚKAKOĚLJUDIJEĚMYSLITEĚNASHIĚONUĚPOKOJIĚRITSIĚSLOVOĚTVRIDOĚUKUĚFRITUĚHERUĚOTUĚPEĚSHTA",
    "ĚTSIĚCHRIVIĚSHAĚYERUĝIěATIĚSPIDERY HAĚYUĚSMALL YUSģ WITH TAILĚYOĚIOTATED SMALL YUSĚBIG YUSĚIOTAT",
    "ED BIG YUSĚFITAĚIZHITSAĚSHTAPICĚTROKUTASTI AĚLATINATE MYSLITEĚCAUDATE CHRIVIċSMALL LETTER AZUĘBU",
    "KYĘVEDEĘGLAGOLIĘDOBROĘYESTUĘZHIVETEĘDZELOĘZEMLJAĘIZHEęNITIAL IZHEęĘDJERVIĘKAKOĘLJUDIJEĘMYSLITEĘN",
    "ASHIĘONUĘPOKOJIĘRITSIĘSLOVOĘTVRIDOĘUKUĘFRITUĘHERUĘOTUĘPEĘSHTAĘTSIĘCHRIVIĘSHAĘYERUěIęATIĘSPIDERY ",
    "HAĘYUĘSMALL YUSġ WITH TAILĘYOĘIOTATED SMALL YUSĘBIG YUSĘIOTATED BIG YUSĘFITAĘIZHITSAĘSHTAPICĘTRO",
    "KUTASTI AĘLATINATE MYSLITEĘCAUDATE CHRIVIĀLATIN CAPITAL LETTER L WITH DOUBLE BARĆSMALL LETTER L ",
    "WITH DOUBLE BARĆCAPITAL LETTER L WITH MIDDLE TILDEĕP WITH STROKEĕR WITH TAILĆSMALL LETTER A WITH",
    " STROKEēT WITH DIAGONAL STROKEĆCAPITAL LETTER H WITH DESCENDERĆSMALL LETTER H WITH DESCENDERĆCAP",
    "ITAL LETTER K WITH DESCENDERĆSMALL LETTER K WITH DESCENDERĆCAPITAL LETTER Z WITH DESCENDERĆSMALL",
    " LETTER Z WITH DESCENDERĆCAPITAL LETTER ALPHAĕM WITH HOOKĕTURNED AĝLPHAĆSMALL LETTER V WITH RIGH",
    "T HOOKĆCAPITAL LETTER W WITH HOOKĆSMALL LETTER W WITH HOOKēV WITH CURLĆCAPITAL LETTER HALF HĆSMA",
    "LL LETTER HALF HēTAILLESS PHIēE WITH NOTCHēTURNED R WITH TAILēO WITH LOW RING INSIDEĆLETTER SMAL",
    "L CAPITAL TURNED EĆSUBSCRIPT SMALL LETTER JĀMODIFIER LETTER CAPITAL VĀLATIN CAPITAL LETTER S WIT",
    "H SWASH TAILĕZ WITH SWASH TAILĀCOPTIC CAPITAL LETTER ALFAćSMALL LETTER ALFAćCAPITAL LETTER VIDAć",
    "SMALL LETTER VIDAćCAPITAL LETTER GAMMAćSMALL LETTER GAMMAćCAPITAL LETTER DALDAćSMALL LETTER DALD",
    "AćCAPITAL LETTER EIEćSMALL LETTER EIEćCAPITAL LETTER SOUćSMALL LETTER SOUćCAPITAL LETTER ZATAćSM",
    "ALL LETTER ZATAćCAPITAL LETTER HATEćSMALL LETTER HATEćCAPITAL LETTER THETHEćSMALL LETTER THETHEć",
    "CAPITAL LETTER IAUDAćSMALL LETTER IAUDAćCAPITAL LETTER KAPAćSMALL LETTER KAPAćCAPITAL LETTER LAU",
    "LAćSMALL LETTER LAULAćCAPITAL LETTER MIćSMALL LETTER MIćCAPITAL LETTER NIćSMALL LETTER NIćCAPITA",
    "L LETTER KSIćSMALL LETTER KSIćCAPITAL LETTER OćSMALL LETTER OćCAPITAL LETTER PIćSMALL LETTER PIć",
    "CAPITAL LETTER ROćSMALL LETTER ROćCAPITAL LETTER SIMAćSMALL LETTER SIMAćCAPITAL LETTER TAUćSMALL",
    " LETTER TAUćCAPITAL LETTER UAćSMALL LETTER UAćCAPITAL LETTER FIćSMALL LETTER FIćCAPITAL LETTER K",
    "HIćSMALL LETTER KHIćCAPITAL LETTER PSIćSMALL LETTER PSIćCAPITAL LETTER OOUćSMALL LETTER OOUćCAPI",
    "TAL LETTER DIALECT-P ALEFćSMALL LETTER DIALECT-P ALEFćCAPITAL LETTER OLD COPTIC AINćSMALL LETTER",
    " OLD COPTIC AINćCAPITAL LETTER CRYPTOGRAMMIC EIEćSMALL LETTER CRYPTOGRAMMIC EIEćCAPITAL LETTER D",
    "IALECT-P KAPAćSMALL LETTER DIALECT-P KAPAćCAPITAL LETTER DIALECT-P NIćSMALL LETTER DIALECT-P NIć",
    "CAPITAL LETTER CRYPTOGRAMMIC NIćSMALL LETTER CRYPTOGRAMMIC NIćCAPITAL LETTER OLD COPTIC OOUćSMAL",
    "L LETTER OLD COPTIC OOUćCAPITAL LETTER SAMPIćSMALL LETTER SAMPIćCAPITAL LETTER CROSSED SHEIćSMAL",
    "L LETTER CROSSED SHEIćCAPITAL LETTER OLD COPTIC SHEIćSMALL LETTER OLD COPTIC SHEIćCAPITAL LETTER",
    " OLD COPTIC ESHćSMALL LETTER OLD COPTIC ESHćCAPITAL LETTER AKHMIMIC KHEIćSMALL LETTER AKHMIMIC K",
    "HEIćCAPITAL LETTER DIALECT-P HORIćSMALL LETTER DIALECT-P HORIćCAPITAL LETTER OLD COPTIC HORIćSMA",
    "LL LETTER OLD COPTIC HORIćCAPITAL LETTER OLD COPTIC HAćSMALL LETTER OLD COPTIC HAćCAPITAL LETTER",
    " L-SHAPED HAćSMALL LETTER L-SHAPED HAćCAPITAL LETTER OLD COPTIC HEIćSMALL LETTER OLD COPTIC HEIć",
    "CAPITAL LETTER OLD COPTIC HATćSMALL LETTER OLD COPTIC HATćCAPITAL LETTER OLD COPTIC GANGIAćSMALL",
    " LETTER OLD COPTIC GANGIAćCAPITAL LETTER OLD COPTIC DJAćSMALL LETTER OLD COPTIC DJAćCAPITAL LETT",
    "ER OLD COPTIC SHIMAćSMALL LETTER OLD COPTIC SHIMAćCAPITAL LETTER OLD NUBIAN SHIMAćSMALL LETTER O",
    "LD NUBIAN SHIMAćCAPITAL LETTER OLD NUBIAN NGIćSMALL LETTER OLD NUBIAN NGIćCAPITAL LETTER OLD NUB",
    "IAN NYIćSMALL LETTER OLD NUBIAN NYIćCAPITAL LETTER OLD NUBIAN WAUćSMALL LETTER OLD NUBIAN WAUĈYM",
    "BOL KAIĎMI ROĎPI ROĎSTAUROSĎTAU ROĎKHI ROĎSHIMA SIMAćCAPITAL LETTER CRYPTOGRAMMIC SHEIćSMALL LET",
    "TER CRYPTOGRAMMIC SHEIćCAPITAL LETTER CRYPTOGRAMMIC GANGIAćSMALL LETTER CRYPTOGRAMMIC GANGIAćCOM",
    "BINING NI ABOVEđSPIRITUS ASPERĚLENISĈAPITAL LETTER BOHAIRIC KHEIćSMALL LETTER BOHAIRIC KHEI@2CF9",
    "ćOLD NUBIAN FULL STOPĒDIRECT QUESTION MARKĒINDIRECT QUESTION MARKĒVERSE DIVIDERćFRACTION ONE HAL",
    "FĈULL STOPćMORPHOLOGICAL DIVIDERĀGEORGIAN SMALL LETTER ANĖBANĖGANĖDONĖENĖVINĖZENĖTANĖINĖKANĖLASĖ",
    "MANĖNARĖONĖPARĖZHARĖRAEĖSANĖTARĖUNĖPHARĖKHARĖGHANĖQARĖSHINĖCHINėANĖJILĖCILėHARĖXANĖJHANĖHAEėEėIE",
    "ĖWEĖHARėOE@2D27ĖYN@2D2DĖAEN@2D30ĀTIFINAGH LETTER YAĒBēHĒGēHHĐBERBER ACADEMY YAJĐYAJĒDēHēDĔHđEYđA",
    "FĒKĐTUAREG YAKĐYAKHHĒHĐBERBER ACADEMY YAHĐTUAREG YAHĐYAHHĒAĒKHĐTUAREG YAKHĐYAQĐTUAREG YAQĐYIđAZH",
    "ĐAHAGGAR YAZHĐTUAREG YAZHĐYALĒMĒNĐTUAREG YAGNęNGĐYAPđUđARēRĒGHĐTUAREG YAGHĐAYER YAGHĐYASēSēHĒTēH",
    "ĒCHĒTTĒVĒWĒYĒZĐTAWELLEMET YAZĐYAZZđEđO@2D6FĉMODIFIER LETTER LABIALIZATION MARKĉSEPARATOR MARK@2D",
    "7FĉCONSONANT JOINERĀETHIOPIC SYLLABLE LOAĒMOAĒROAĒSOAēHOAĒBOAĒTOAĒCOAĒNOAēYOAĒGLOTTAL OAĒZOAĒDOA",
    "ēDOAĒJOAĒTHOAĒCHOAĒPHOAēOAĒGGWAĕIĕEEĖ@2DA0ĒSSAĔUĔIĔAAĔEEĕĔO@2DA8ĒCCAĔUĔIĔAAĔEEĕĔO@2DB0ĒZZAĔUĔIĔA",
    "AĔEEĕĔO@2DB8ĒCCHAĕUĕIĕAAĕEEĖĕO@2DC0ĒQYAĔUĔIĔAAĔEEĕĔO@2DC8ĒKYAĔUĔIĔAAĔEEĕĔO@2DD0ĒXYAĔUĔIĔAAĔEEĕĔO",
    "@2DD8ĒGYAĔUĔIĔAAĔEEĕĔO@2DE0ĀCOMBINING CYRILLIC LETTER BEĚVEĚGHEĚDEĚZHEěEĚKAĚELěMěNĚOĚPEĚERěSĚTEĚ",
    "HAĚTSEĚCHEĚSHAĜCHAĚFITAĚES-TEĚAĚIEĚDJERVĚMONOGRAPH UKĚYATěUĚIOTIFIED AĚLITTLE YUSĚBIG YUSĚIOTIFI",
    "ED BIG YUSĀRIGHT ANGLE SUBSTITUTION MARKERČDOTTED SUBSTITUTION MARKERĀLEFT SUBSTITUTION BRACKETĀ",
    "RIGHT SUBSTITUTION BRACKETĀLEFT DOTTED SUBSTITUTION BRACKETĀRIGHT DOTTED SUBSTITUTION BRACKETāAI",
    "SED INTERPOLATION MARKERćDOTTED INTERPOLATION MARKERĀDOTTED TRANSPOSITION MARKERĀLEFT TRANSPOSIT",
    "ION BRACKETĀRIGHT TRANSPOSITION BRACKETāAISED SQUAREĀLEFT RAISED OMISSION BRACKETĀRIGHT RAISED O",
    "MISSION BRACKETĀEDITORIAL CORONISĀPARAGRAPHOSĀFORKED PARAGRAPHOSĀREVERSED FORKED PARAGRAPHOSĀHYP",
    "ODIASTOLEĀDOTTED OBELOSĂWNWARDS ANCORAĀUPWARDS ANCORAĀDOTTED RIGHT-POINTING ANGLEĂUBLE OBLIQUE H",
    "YPHENĀINVERTED INTERROBANGĀPALM BRANCHĀHYPHEN WITH DIAERESISĀTILDE WITH RING ABOVEĀLEFT LOW PARA",
    "PHRASE BRACKETĀRIGHT LOW PARAPHRASE BRACKETĀTILDE WITH DOT ABOVEďBELOWĀLEFT VERTICAL BAR WITH QU",
    "ILLĀRIGHT VERTICAL BAR WITH QUILLĀTOP LEFT HALF BRACKETĄRIGHT HALF BRACKETĀBOTTOM LEFT HALF BRAC",
    "KETćRIGHT HALF BRACKETĀLEFT SIDEWAYS U BRACKETĀRIGHT SIDEWAYS U BRACKETĀLEFT DOUBLE PARENTHESISĀ",
    "RIGHT DOUBLE PARENTHESISĀTWO DOTS OVER ONE DOT PUNCTUATIONĀONE DOT OVER TWO DOTS PUNCTUATIONĀSQU",
    "ARED FOUR DOT PUNCTUATIONĀFIVE DOT MARKĀREVERSED QUESTION MARKĀVERTICAL TILDEĀRING POINTĀWORD SE",
    "PARATOR MIDDLE DOTĀTURNED COMMAĀRAISED DOTćCOMMAĀTURNED SEMICOLONĀDAGGER WITH LEFT GUARDČRIGHT G",
    "UARDĀTURNED DAGGERāOP HALF SECTION SIGNāWO-EM DASHāHREE-EM DASHĀSTENOGRAPHIC FULL STOPĀVERTICAL ",
    "SIX DOTSĀWIGGLY VERTICAL LINEĀCAPITULUMĀDOUBLE HYPHENĀREVERSED COMMAĀDOUBLE LOW-REVERSED-9 QUOTA",
    "TION MARKāASH WITH LEFT UPTURNāOUBLE SUSPENSION MARKĀINVERTED LOW KAVYKAē WITH KAVYKA ABOVEĀLOW ",
    "KAVYKAĊ WITH DOTĀDOUBLE STACKED COMMAĂTTED SOLIDUSĀTRIPLE DAGGERĀMEDIEVAL COMMAĀPARAGRAPHUS MARK",
    "āUNCTUS ELEVATUS MARKĀCORNISH VERSE DIVIDERāROSS PATTY WITH RIGHT CROSSBARđLEFT CROSSBARĀTIRONIA",
    "N SIGN CAPITAL ETĀMEDIEVAL EXCLAMATION MARKĉQUESTION MARKĀLEFT SQUARE BRACKET WITH STROKEĀRIGHT ",
    "SQUARE BRACKET WITH STROKEĀLEFT SQUARE BRACKET WITH DOUBLE STROKEĀRIGHT SQUARE BRACKET WITH DOUB",
    "LE STROKEĀTOP HALF LEFT PARENTHESISĉRIGHT PARENTHESISĀBOTTOM HALF LEFT PARENTHESISČRIGHT PARENTH"],
  String.join [
    "ESISĀOBLIQUE HYPHEN@2E80ĀCJK RADICAL REPEATČCLIFFČSECOND ONEēTWOĔHREEČPERSONČBOXČTABLEČKNIFE ONE",
    "ĒTWOČDIVINATIONČSEALčMALL ONEĒTWOČLAME ONEđTWOĒHREEđFOURČSNAKEČTHREADČSNOUT ONEĒTWOČHEART ONEĒTW",
    "OčANDČRAP@2E9BČCHOKEČSUNČMOONČDEATHČMOTHERČCIVILIANČWATER ONEĒTWOČFIREČPAW ONEĐTWOČSIMPLIFIED HA",
    "LF TREE TRUNKČCOWČDOGČJADEČBOLT OF CLOTHČEYEČSPIRIT ONEēTWOČBAMBOOČSILKČC-SIMPLIFIED SILKČNET ON",
    "EĐTWOđHREEĐFOURČMESHČSHEEPČRAMČEWEČOLDČBRUSH ONEĒTWOČMEATčORTARČGRASS ONEĒTWOēHREEČTIGERČCLOTHES",
    "ČWEST ONEđTWOČC-SIMPLIFIED SEEČSIMPLIFIED HORNČHORNČC-SIMPLIFIED SPEECHĚHELLČFOOTČC-SIMPLIFIED C",
    "ARTČSIMPLIFIED WALKČWALK ONEđTWOČCITYč-SIMPLIFIED GOLDČLONG ONEđTWOČC-SIMPLIFIED LONGęGATEČMOUND",
    " ONEĒTWOČRAINČBLUEČC-SIMPLIFIED TANNED LEATHERęLEAFęWINDęFLYČEAT ONEĐTWOđHREEČC-SIMPLIFIED EATČH",
    "EADČC-SIMPLIFIED HORSEČBONEČGHOSTČC-SIMPLIFIED FISHęBIRDęSALTČSIMPLIFIED WHEATėYELLOWČC-SIMPLIFI",
    "ED FROGČJ-SIMPLIFIED EVENČC-SIMPLIFIED EVENČJ-SIMPLIFIED TOOTHČC-SIMPLIFIED TOOTHČJ-SIMPLIFIED D",
    "RAGONČC-SIMPLIFIED DRAGONČTURTLEČJ-SIMPLIFIED TURTLEČC-SIMPLIFIED TURTLE@2F00ĀKANGXI RADICAL ONE",
    "ďLINEďDOTďSLASHĐECONDďHOOKďTWOďLIDďMANďLEGSďENTERĐIGHTďDOWN BOXďCOVERďICEďTABLEďOPEN BOXďKNIFEďP",
    "OWERďWRAPďSPOONďRIGHT OPEN BOXďHIDING ENCLOSUREďTENďDIVINATIONďSEALďCLIFFďPRIVATEďAGAINďMOUTHďEN",
    "CLOSUREĐARTHďSCHOLARďGOđ SLOWLYďEVENINGďBIGďWOMANďCHILDďROOFďINCHďSMALLďLAMEďCORPSEďSPROUTďMOUNT",
    "AINďRIVERďWORKďONESELFďTURBANďDRYďSHORT THREADďDOTTED CLIFFďLONG STRIDEďTWO HANDSďSHOOTďBOWďSNOU",
    "TďBRISTLEďSTEPďHEARTĐALBERDďDOORďHANDďBRANCHďRAPďSCRIPTďDIPPERďAXEďSQUAREďNOTďSUNĐAYďMOONďTREEďL",
    "ACKďSTOPďDEATHďWEAPONďDO NOTďCOMPAREďFURďCLANďSTEAMďWATERďFIREďCLAWďFATHERďDOUBLE XďHALF TREE TR",
    "UNKďSLICEďFANGďCOWďDOGďPROFOUNDďJADEďMELONďTILEďSWEETďLIFEďUSEďFIELDďBOLT OF CLOTHďSICKNESSďDOTT",
    "ED TENTďWHITEďSKINďDISHďEYEďSPEARďARROWďSTONEĐPIRITďTRACKďGRAINďCAVEďSTANDďBAMBOOďRICEďSILKďJARď",
    "NETďSHEEPďFEATHERďOLDďANDďPLOWďEARďBRUSHďMEATĐINISTERďSELFďARRIVEďMORTARďTONGUEďOPPOSEďBOATďSTOP",
    "PINGďCOLORďGRASSďTIGERďINSECTďBLOODďWALK ENCLOSUREďCLOTHESďWESTďSEEďHORNďSPEECHďVALLEYďBEANďPIGď",
    "BADGERďSHELLďREDĐUNďFOOTďBODYďCARTďBITTERďMORNINGďWALKďCITYďWINEďDISTINGUISHďVILLAGEďGOLDďLONGďG",
    "ATEďMOUNDďSLAVEĐHORT TAILED BIRDďRAINďBLUEďWRONGďFACEďLEATHERďTANNED LEATHERďLEEKďSOUNDďLEAFďWIN",
    "DďFLYďEATďHEADďFRAGRANTďHORSEďBONEďTALLďHAIRďFIGHTďSACRIFICIAL WINEďCAULDRONďGHOSTďFISHďBIRDďSAL",
    "TďDEERďWHEATďHEMPďYELLOWďMILLETďBLACKďEMBROIDERYďFROGďTRIPODďDRUMďRATďNOSEďEVENďTOOTHďDRAGONďTUR",
    "TLEďFLUTE@2FF0ĀIDEOGRAPHIC DESCRIPTION CHARACTER LEFT TO RIGHTĢABOVE TO BELOWĢLEFT TO MIDDLE AND",
    " RIGHTĢABOVE TO MIDDLE AND BELOWĢFULL SURROUNDĢSURROUND FROM ABOVEİBELOWİLEFTİUPPER LEFTĶRIGHTİL",
    "OWER LEFTĢOVERLAID@3000ČSPACEČCOMMAČFULL STOPĀDITTO MARKĀJAPANESE INDUSTRIAL STANDARD SYMBOLĀIDE",
    "OGRAPHIC ITERATION MARKČCLOSING MARKČNUMBER ZEROĀLEFT ANGLE BRACKETĀRIGHT ANGLE BRACKETĀLEFT DOU",
    "BLE ANGLE BRACKETĀRIGHT DOUBLE ANGLE BRACKETĀLEFT CORNER BRACKETĀRIGHT CORNER BRACKETĀLEFT WHITE",
    " CORNER BRACKETĀRIGHT WHITE CORNER BRACKETĀLEFT BLACK LENTICULAR BRACKETĀRIGHT BLACK LENTICULAR ",
    "BRACKETĀPOSTAL MARKĀGETA MARKĀLEFT TORTOISE SHELL BRACKETĀRIGHT TORTOISE SHELL BRACKETĀLEFT WHIT",
    "E LENTICULAR BRACKETĀRIGHT WHITE LENTICULAR BRACKETĀLEFT WHITE TORTOISE SHELL BRACKETĀRIGHT WHIT",
    "E TORTOISE SHELL BRACKETĀLEFT WHITE SQUARE BRACKETĀRIGHT WHITE SQUARE BRACKETĀWAVE DASHĀREVERSED",
    " DOUBLE PRIME QUOTATION MARKĀDOUBLE PRIME QUOTATION MARKĀLOW DOUBLE PRIME QUOTATION MARKĀPOSTAL ",
    "MARK FACEĀHANGZHOU NUMERAL ONEđTWOĒHREEđFOURĒIVEđSIXĒEVENđEIGHTđNINEĀIDEOGRAPHIC LEVEL TONE MARK",
    "ČRISING TONE MARKČDEPARTING TONE MARKČENTERING TONE MARKĀHANGUL SINGLE DOT TONE MARKćDOUBLE DOT ",
    "TONE MARKĀWAVY DASHĀVERTICAL KANA REPEAT MARKĕWITH VOICED SOUND MARKĕMARK UPPER HALFĕWITH VOICED",
    " SOUND MARK UPPER HALFĕMARK LOWER HALFĀCIRCLED POSTAL MARKĀIDEOGRAPHIC TELEGRAPH LINE FEED SEPAR",
    "ATOR SYMBOLĀHANGZHOU NUMERAL TENĒWENTYĒHIRTYĀVERTICAL IDEOGRAPHIC ITERATION MARKĀMASU MARKĀPART ",
    "ALTERNATION MARKĀIDEOGRAPHIC VARIATION INDICATORČHALF FILL SPACE@3041ĀHIRAGANA LETTER SMALL AĐAĐ",
    "SMALL IĐIĐSMALL UĐUĐSMALL EĐEĐSMALL OĐOĐKAĐGAĐKIĐGIĐKUĐGUĐKEĐGEĐKOĐGOĐSAĐZAĐSIĐZIĐSUĐZUĐSEĐZEĐSO",
    "ĐZOĐTAĐDAĐTIĐDIĐSMALL TUĐTUĐDUĐTEĐDEĐTOĐDOĐNAđIđUđEđOĐHAĐBAĐPAĐHIĐBIĐPIĐHUĐBUĐPUĐHEĐBEĐPEĐHOĐBOĐ",
    "POĐMAđIđUđEđOĐSMALL YAĐYAĐSMALL YUĐYUĐSMALL YOĐYOĐRAđIđUđEđOĐSMALL WAĐWAđIđEđOĐNĐVUĐSMALL KAėE@3",
    "099ĀCOMBINING KATAKANA-HIRAGANA VOICED SOUND MARKĜSEMI-VOICED SOUND MARKĀKATAKANA-HIRAGANA VOICE",
    "D SOUND MARKĒSEMI-VOICED SOUND MARKĀHIRAGANA ITERATION MARKĉVOICED ITERATION MARKĉDIGRAPH YORIĀK",
    "ATAKANA-HIRAGANA DOUBLE HYPHENĈ LETTER SMALL AĐAĐSMALL IĐIĐSMALL UĐUĐSMALL EĐEĐSMALL OĐOĐKAĐGAĐK",
    "IĐGIĐKUĐGUĐKEĐGEĐKOĐGOĐSAĐZAĐSIĐZIĐSUĐZUĐSEĐZEĐSOĐZOĐTAĐDAĐTIĐDIĐSMALL TUĐTUĐDUĐTEĐDEĐTOĐDOĐNAđI",
    "đUđEđOĐHAĐBAĐPAĐHIĐBIĐPIĐHUĐBUĐPUĐHEĐBEĐPEĐHOĐBOĐPOĐMAđIđUđEđOĐSMALL YAĐYAĐSMALL YUĐYUĐSMALL YOĐ",
    "YOĐRAđIđUđEđOĐSMALL WAĐWAđIđEđOĐNĐVUĐSMALL KAėEĐVAđIđEđOĉMIDDLE DOTĈ-HIRAGANA PROLONGED SOUND MA",
    "RKĈ ITERATION MARKĉVOICED ITERATION MARKĉDIGRAPH KOTO@3105ĀBOPOMOFO LETTER BĐPĐMĐFĐDĐTĐNĐLĐGĐKĐH",
    "ĐJĐQĐXĐZHĐCHĐSHĐRĐZĐCĐSĐAĐOĐEđHĐAIĐEIĐAUĐOUĐANĐENĐANGĐENGđRĐIĐUĐIUĐVĐNGĐGNĐIHĐO WITH DOT ABOVEĐN",
    "N@3131ĀHANGUL LETTER KIYEOKĎSSANGKIYEOKĎKIYEOK-SIOSĎNIEUNē-CIEUCĔHIEUHĎTIKEUTĎSSANGTIKEUTĎRIEULē",
    "-KIYEOKĔMIEUMĔPIEUPĔSIOSĔTHIEUTHĔPHIEUPHĔHIEUHĎMIEUMĎPIEUPĎSSANGPIEUPĎPIEUP-SIOSĎSIOSďSANGSIOSĎI",
    "EUNGĎCIEUCĎSSANGCIEUCĎCHIEUCHĎKHIEUKHĎTHIEUTHĎPHIEUPHĎHIEUHĎAďEĎYAĐEĎEOďĎYEOĐĎOĎWAĐEĎOEĎYOĎUĎWEO",
    "ĐďIĎYUĎEUĎYIĎIćFILLERćLETTER SSANGNIEUNĎNIEUN-TIKEUTĔSIOSĔPANSIOSĎRIEUL-KIYEOK-SIOSĔTIKEUTĔPIEUP",
    "-SIOSĕANSIOSĔYEORINHIEUHĎMIEUM-PIEUPĔSIOSĔPANSIOSĎKAPYEOUNMIEUMĎPIEUP-KIYEOKĔTIKEUTĔSIOS-KIYEOKę",
    "TIKEUTĔCIEUCĔTHIEUTHĎKAPYEOUNPIEUPĖSSANGPIEUPĎSIOS-KIYEOKēNIEUNēTIKEUTēPIEUPēCIEUCĎPANSIOSĎSSANG",
    "IEUNGĎYESIEUNGĖ-SIOSėPANSIOSĎKAPYEOUNPHIEUPHĎSSANGHIEUHĎYEORINHIEUHďO-YAēEđIďU-YEOēđIĎARAEAēE@31",
    "90ĀIDEOGRAPHIC ANNOTATION LINKING MARKėREVERSE MARKėONE MARKėTWO MARKĘHREE MARKėFOUR MARKėTOP MA",
    "RKėMIDDLE MARKėBOTTOM MARKėFIRST MARKėSECOND MARKėTHIRD MARKėFOURTH MARKėHEAVEN MARKėEARTH MARKė",
    "MAN MARKĀBOPOMOFO LETTER BUĐZIĐJIĐGUĐEEđNNĐOOđNNĐIRĐANNĐINNĐUNNĐIMĐNGGĐAINNđUNNđMĐOMđNGĐINNNĉFIN",
    "AL LETTER PĖTĖKĖHĉLETTER GHĐLHĐZYĉFINAL LETTER GĉLETTER GWĐKWĐOEĐAHĀCJK STROKE TċWGċXGċBXGċSWċHZ",
    "ZčGČPČZWGċSZWGċHZTčZPČPWGČZWčZZċNċHċSċPċSPċDċHZČGċSZČWZČTČGċPDČZċTNċSZZČWGċHXWGČZZZGċPGċQ@31F0ĀK",
    "ATAKANA LETTER SMALL KUĖSIėUĖTOĖNUĖHAėIėUėEėOĖMUĖRAėIėUėEėOĀPARENTHESIZED HANGUL KIYEOKĕNIEUNĕTI",
    "KEUTĕRIEULĕMIEUMĕPIEUPĕSIOSĕIEUNGĕCIEUCĖHIEUCHĕKHIEUKHĕTHIEUTHĕPHIEUPHĕHIEUHĕKIYEOK AĕNIEUN AĕTI",
    "KEUT AĕRIEUL AĕMIEUM AĕPIEUP AĕSIOS AĕIEUNG AĕCIEUC AĖHIEUCH AĕKHIEUKH AĕTHIEUTH AĕPHIEUPH AĕHIE",
    "UH AĕCIEUC UĎKOREAN CHARACTER OJEONĠ HU@3220ĎIDEOGRAPH ONEĘTWOęHREEĘFOURęIVEĘSIXęEVENĘEIGHTĘNINE",
    "ĘTENĘMOONĘFIREĘWATERęOODĘMETALĘEARTHĘSUNęTOCKĘHAVEĘSOCIETYĘNAMEĘSPECIALĘFINANCIALĘCONGRATULATION",
    "ĘLABORĘREPRESENTĘCALLĘSTUDYęUPERVISEĘENTERPRISEĘRESOURCEĘALLIANCEĘFESTIVALĘRESTĘSELFĘREACHĀCIRCL",
    "ED IDEOGRAPH QUESTIONĒKINDERGARTENĒSCHOOLĒKOTOĈNUMBER TEN ON BLACK SQUAREĐWENTY ON BLACK SQUAREĐ",
    "HIRTY ON BLACK SQUAREďFORTY ON BLACK SQUAREĐIFTY ON BLACK SQUAREďSIXTY ON BLACK SQUAREĐEVENTY ON",
    " BLACK SQUAREďEIGHTY ON BLACK SQUAREĀPARTNERSHIP SIGNĀCIRCLED NUMBER TWENTY ONEĖTWOėHREEĖFOURėIV",
    "EĖSIXėEVENĖEIGHTĖNINEĐHIRTYĕ ONEĖTWOėHREEĖFOURėIVEĈHANGUL KIYEOKďNIEUNďTIKEUTďRIEULďMIEUMďPIEUPď",
    "SIOSďIEUNGďCIEUCĐHIEUCHďKHIEUKHďTHIEUTHďPHIEUPHďHIEUHďKIYEOK AďNIEUN AďTIKEUT AďRIEUL AďMIEUM Aď",
    "PIEUP AďSIOS AďIEUNG AďCIEUC AĐHIEUCH AďKHIEUKH AďTHIEUTH AďPHIEUPH AďHIEUH AĈKOREAN CHARACTER C",
    "HAMKOęJUEUIĈHANGUL IEUNG UĀKOREAN STANDARD SYMBOLĀCIRCLED IDEOGRAPH ONEĒTWOēHREEĒFOURēIVEĒSIXēEV",
    "ENĒEIGHTĒNINEĒTENĒMOONĒFIREĒWATERēOODĒMETALĒEARTHĒSUNēTOCKĒHAVEĒSOCIETYĒNAMEĒSPECIALĒFINANCIALĒC",
    "ONGRATULATIONĒLABORĒSECRETĒMALEĒFEMALEĒSUITABLEĒEXCELLENTĒPRINTĒATTENTIONĒITEMĒRESTĒCOPYĔRRECTĒH",
    "IGHĒCENTREĒLOWēEFTĒRIGHTĒMEDICINEĒRELIGIONĒSTUDYēUPERVISEĒENTERPRISEĒRESOURCEĒALLIANCEĒNIGHTĈNUM",
    "BER THIRTY SIXėEVENĖEIGHTĖNINEďFORTYĔ ONEĕTWOĖHREEĕFOURĖIVEĕSIXĖEVENĕEIGHTĕNINEĐIFTYĀIDEOGRAPHIC",
    " TELEGRAPH SYMBOL FOR JANUARYġFEBRUARYġMARCHġAPRILġMAYġJUNEģLYġAUGUSTġSEPTEMBERġOCTOBERġNOVEMBER",
    "ġDECEMBERĀSQUARE HGćERGĈVĀLIMITED LIABILITY SIGNĀCIRCLED KATAKANA AđIđUđEđOđKAĒIĒUĒEĒOđSAĒIĒUĒEĒ",
    "OđTAĒIĒUĒEĒOđNAĒIĒUĒEĒOđHAĒIĒUĒEĒOđMAĒIĒUĒEĒOđYAĒUĒOđRAĒIĒUĒEĒOđWAĒIĒEĒOĀSQUARE ERA NAME REIWAćA",
    "PAATOĈRUHUAĈNPEAĈARUćININGUĉTIćUONćESUKUUDOĈEKAAćONSUĈOMUćKAIRIĉRATTOĊORIIćGARONĉNMAĈIGAĉNIIćKYU",
    "RIIćGIRUDAAćKIROċGURAMUċMEETORUċWATTOćGURAMUčTONćKURUZEIROĊOONEĈEESUĈORUNAĉOPOćSAIKURUĉNTIIMUĈIR",
    "INGUĈENTIċOćDAASUĈESIĈORUćTONćNANOĈOTTOćHAITUćPAASENTOĊTUćBAARERUćPIASUTORUĉKURUĊOćBIRUćHUARADDO",
    "ĉIITOćBUSSYERUćHURANĈEKUTAARUćPESOĉNIHIćHERUTUćPENSUĉEZIćBEETAćPOINTOćBORUTOćHONćPONDOćHOORUĊNćM",
    "AIKUROĊRUĉHHAĉRUKUĉNSYONĈIKURONĉRIċBAARUĈEGAċTONĉETORUćYAADOĊRUĈUANćRITTORUĉRAĈUPIIĉUBURUĈEMUĉNT",
    "OGENćWATTOĀIDEOGRAPHIC TELEGRAPH SYMBOL FOR HOUR ZEROĦONEĦTWOħHREEĦFOURħIVEĦSIXħEVENĦEIGHTĦNINEĦ",
    "TENĦELEVENĦTWELVEħHIRTEENĦFOURTEENħIFTEENĦSIXTEENħEVENTEENĦEIGHTEENĦNINETEENĦTWENTYĬ-ONEĭTWOĮHRE",
    "EĭFOURĀSQUARE HPAćDAćAUćBARćOVćPCćDMĉ SQUAREDĊCUBEDćIUćERA NAME HEISEIĐSYOUWAĐTAISYOUĐMEIZIćCORP",
    "ORATIONćPA AMPSćNAćMU AĈAćKAĈBćMBćGBćCALćKCALćPFćNFćMU FĊGĈGćKGćHZćKHZćMHZćGHZćTHZćMU LĈLćDLćKLć",
    "FMćNMćMU MĈMćCMćKMćMM SQUAREDćCM SQUAREDćM SQUAREDćKM SQUAREDćMM CUBEDćCM CUBEDćM CUBEDćKM CUBED",
    "ćM OVER Sď SQUAREDćPAćKPAćMPAćGPAćRADĊ OVER Sđ SQUAREDćPSćNSćMU SĈSćPVćNVćMU VĈVćKVćMV MEGAćPWćN",
    "WćMU WĈWćKWćMW MEGAćK OHMćM OHMćAMćBQćCCĈDĈ OVER KGĈOćDBćGYćHAĈPćINćKKĈM CAPITALĈTćLMĈNĈOGĈXćMB ",
    "SMALLĈILĈOLćPHĈMĈPMĈRćSRĈVćWBćV OVER MćA OVER MĀIDEOGRAPHIC TELEGRAPH SYMBOL FOR DAY ONEĥTWOĦHRE",
    "EĥFOURĦIVEĥSIXĦEVENĥEIGHTĥNINEĥTENĥELEVENĥTWELVEĦHIRTEENĥFOURTEENĦIFTEENĥSIXTEENĦEVENTEENĥEIGHTE",
    "ENĥNINETEENĥTWENTYī-ONEĬTWOĭHREEĬFOURĭIVEĬSIXĭEVENĬEIGHTĬNINEĦHIRTYī-ONEĀSQUARE GAL@4DC0ĀHEXAGRA",
    "M FOR THE CREATIVE HEAVENđRECEPTIVE EARTHčDIFFICULTY AT THE BEGINNINGčYOUTHFUL FOLLYčWAITINGčCON"],
  String.join [
    "FLICTčTHE ARMYčHOLDING TOGETHERčSMALL TAMINGčTREADINGčPEACEčSTANDSTILLčFELLOWSHIPčGREAT POSSESSI",
    "ONčMODESTYčENTHUSIASMčFOLLOWINGčWORK ON THE DECAYEDčAPPROACHčCONTEMPLATIONčBITING THROUGHčGRACEč",
    "SPLITTING APARTčRETURNčINNOCENCEčGREAT TAMINGčMOUTH CORNERSčGREAT PREPONDERANCEčTHE ABYSMAL WATE",
    "RđCLINGING FIREčINFLUENCEčDURATIONčRETREATčGREAT POWERčPROGRESSčDARKENING OF THE LIGHTčTHE FAMIL",
    "YčOPPOSITIONĎBSTRUCTIONčDELIVERANCEďCREASEčINCREASEčBREAKTHROUGHčCOMING TO MEETčGATHERING TOGETH",
    "ERčPUSHING UPWARDčOPPRESSIONčTHE WELLčREVOLUTIONčTHE CAULDRONđAROUSING THUNDERđKEEPING STILL MOU",
    "NTAINčDEVELOPMENTčTHE MARRYING MAIDENčABUNDANCEčTHE WANDERERđGENTLE WINDđJOYOUS LAKEčDISPERSIONč",
    "LIMITATIONčINNER TRUTHčSMALL PREPONDERANCEčAFTER COMPLETIONčBEFORE COMPLETION@A000ĀYI SYLLABLE I",
    "TčXččPčETĎXĎĎPČATčXččPČUOXĎĎPČOTčXččPČEXčČWUČBITĎXĎĎPĎETďXďďPčATĎXĎĎPčUOXďďPčOTĎXĎĎPčEXĎĎPčUTĎXĎ",
    "ĎPĎRXďčYTĎXĎĎPĎRXďČPITĎXĎĎPĎEXďďPčATĎXĎĎPčUOXďďPčOTĎXĎĎPčUTĎXĎĎPĎRXďčYTĎXĎĎPĎRXďČBBITďXďďPďETĐXĐ",
    "ĐPĎATďXďďPĎUOXĐĐPĎOTďXďďPĎEXďďPĎUTďXďďPďRXĐĎYTďXďďPČNBITďXďďPďEXĐĐPĎATďXďďPĎOTďXďďPĎUTďXďďPďRXĐĎ",
    "YTďXďďPďRXĐČHMITďXďďPďEXĐĐPĎATďXďďPĎUOXĐĐPĎOTďXďďPĎUTďXďďPďRXĐĎYXďďPďRXĐČMITĎXĎĎPĎEXďďPčATĎXĎĎPč",
    "UOTďXďďPčOTĎXĎĎPčEXĎčUTĎXĎĎPĎRXďčYTĎXĎĎPČFITĎXĎĎPčATĎXĎĎPčOXĎĎPčUTĎXĎĎPĎRXďčYTĎXĎĎPČVITĎXĎĎPĎETď",
    "XďďPčATĎXĎĎPčOTĎXĎĎPčEXĎPčUTĎXĎĎPĎRXďčYTĎXĎĎPĎRXďČDITĎXĎĎPĎEXďďPčATĎXĎĎPčUOXďčOTĎXĎĎPčEXĎĎPčUTĎX",
    "ĎĎPĎRXďČTITĎXĎĎPĎEXďďPčATĎXĎĎPčUOTďXďďPčOTĎXĎĎPčEXĎĎPčUTĎXĎĎPĎRXďČDDITďXďďPďEXĐĐPĎATďXďďPĎUOXĐĐP",
    "ĎOTďXďďPĎEXďďPĎUTďXďďPďRXĐČNDITďXďďPďEXĐĎATďXďďPĎOTďXďďPĎEXďďPĎUTďXďďPďRXĐČHNITďXďďPďETĐXĐĐPĎATď",
    "XďďPĎUOXĐĎOTďXďPĎEXďďPĎUTČNITĎXĎĎPĎEXďďPčAXĎĎPčUOXďďPčOTĎXĎĎPčEXĎĎPčUTĎXĎĎPĎRXďČHLITďXďďPďEXĐĐPĎ",
    "ATďXďďPĎUOXĐĐPĎOXďďPĎEXďďPĎUTďXďďPďRXĐĎYTďXďďPďRXĐČLITĎXĎĎPĎETďXďďPčATĎXĎĎPčUOTďXďďPčOTĎXĎĎPčEXĎ",
    "ĎPčUTĎXĎĎPĎRXďčYTĎXĎĎPĎRXďČGITĎXĎĎPĎETďXďďPčATĎXĎĎPčUOTďXďďPčOTĎXĎĎPčETĎXĎĎPčUTĎXĎĎPĎRXďČKITĎXĎĎ",
    "PĎEXďďPčATĎXĎĎPčUOXďďPčOTĎXĎĎPčETĎXĎĎPčUTĎXĎĎPĎRXďČGGITďXďďEXĐĐPĎATďXďďPĎUOTĐXĐĐPĎOTďXďďPĎETďXďď",
    "PĎUTďXďďPďRXĐČMGIEXĐĎATďXďďPĎUOXĐĐPĎOTďXďďPĎEXďďPĎUTďXďďPďRXĐČHXITďXďďPďETĐXĐĐPĎATďXďďPĎUOTĐXĐĐP",
    "ĎOTďXďďPĎEXďďPČNGIEXĐĐPĎATďXďďPĎUOTĐXĐĎOTďXďďPĎEXďďPČHITĎEXďčATĎXĎĎPčUOTďXďďPčOTĎXĎĎPčEXĎĎPČWATĎ",
    "XĎĎPčUOXďďPčOXĎĎPčEXĎĎPČZITĎXĎĎPĎEXďďPčATĎXĎĎPčUOXďďPčOTĎXĎĎPčEXĎĎPčUTĎXĎĎPĎRXďčYTĎXĎĎPĎRXďČCITĎ",
    "XĎĎPĎETďXďďPčATĎXĎĎPčUOXďďPčOTĎXĎĎPčEXĎĎPčUTĎXĎĎPĎRXďčYTĎXĎĎPĎRXďČZZITďXďďPďETĐXĐĐPĎATďXďďPĎOXďď",
    "PĎEXďďPĎUXďďPďRXĐĎYTďXďďPďRXĐČNZITďXďďPďEXĐĐPĎATďXďďPĎUOXĐĎOXďPĎEXďĎUXďďPďRXĐĎYTďXďďPďRXĐČSITĎXĎ",
    "ĎPĎEXďďPčATĎXĎĎPčUOXďďPčOTĎXĎĎPčEXĎĎPčUTĎXĎĎPĎRXďčYTĎXĎĎPĎRXďčSITďXďďPďEXĐĐPĎATďXďďPĎOTďXďďPĎEXď",
    "ďPĎUTďXďďPĎYTďXďďPďRXĐČZHATďXďďPĎUOXĐĐPĎOTďXďďPĎETďXďďPĎUTďXďďPďRXĐĎYTďXďďPďRXĐČCHATďXďďPĎUOTĐXĐ",
    "ĐPĎOTďXďďPĎETďXďďPĎUXďďPďRXĐĎYTďXďďPďRXĐČRRAXďĎUOXĐĎOTďXďďPĎETďXďďPĎUTďXďďPďRXĐĎYTďXďďPďRXĐČNRAT",
    "ďXďďPĎOXďďPĎETďXďďPĎUTďXďďPďRXĐĎYTďXďďPďRXĐČSHATďXďďPĎUOXĐĐPĎOTďXďďPĎETďXďďPĎUTďXďďPďRXĐĎYTďXďďP",
    "ďRXĐČRATĎXĎĎPčUOXďďPčOTĎXĎĎPčEXĎĎPčUTĎXĎĎPĎRXďčYTĎXĎĎPĎRXďČJITĎXĎĎPĎETďXďďPčUOTďXďďPčOTĎXĎĎPčUTĎ",
    "XĎĎPĎRXďčYTĎXĎĎPĎRXďČQITĎXĎĎPĎETďXďďPčUOTďXďďPčOTĎXĎĎPčUTĎXĎĎPĎRXďčYTĎXĎĎPĎRXďČJJITďXďďPďETĐXĐĐP",
    "ĎUOXĐĐPĎOTďXďďPĎUTďXďďPďRXĐĎYTďXďďPČNJITďXďďPďETĐXĐĐPĎUOXĐĎOTďXďďPĎUXďďPďRXĐĎYTďXďďPďRXĐčYITďXďď",
    "PďETĐXĐĐPĎUOXĐĐPĎOTďXďďPĎUTďXďďPČXITĎXĎĎPĎETďXďďPčUOXďčOTĎXĎĎPčYTĎXĎĎPĎRXďČYITĎXĎĎPĎETďXďďPčUOTď",
    "XďďPčOTĎXĎĎPčUTĎXĎĎPĎRXďčYTĎXĎĎPĎRXď@A490ăRADICAL QOTċLIċKITċNYIPċCYPċSSIċGGOPČEPċMIċHXITċLYRċBB",
    "UTċMOPċYOċPUTċHXUOċTATċGAċZUPċCYTċDDURċBURċGGUOċNYOPċTUċOPċJJUTċZOTċPYTċHMOċYITċVURċSHYċVEPċZAċJ",
    "OċNZUPċJJYċGOTċJJIEċWOċDUċSHURċLIEċCYČUOPČIPċHXOPċSHATċZURċSHOPċCHEċZZIETċNBIEċKE@A4D0ĀLISU LETT",
    "ER BAČPAčHAČDAČTAčHAČGAČKAčHAČJAČCAčHAČDZAČTSAĎHAČMAČNAČLAČSAČZHAčAČNGAČHAČXAČHHAČFAČWAČSHAČYAČG",
    "HAČAčEČEčUČIČOČUčEčHČOEČTONE MYA TIđNA POđMYA CYAĕBOĕNAĕJEUąPUNCTUATION COMMAđFULL STOPĀVAI SYLL",
    "ABLE EEďNčHEEčWEEĐNčPEEčBHEEĎEEčMBEEčKPEEčMGBEEčGBEEčFEEčVEEčTEEĎHEEčDHEEďHEEčLEEčREEčDEEčNDEEčS",
    "EEĎHEEčZEEĎHEEčCEEčJEEčNJEEčYEEčKEEčNGGEEčGEEčMEEčNEEĎYEEčIĎNčHIďNčWIďNčPIčBHIĎIčMBIčKPIčMGBIčGB",
    "IčFIčVIčTIĎHIčDHIďHIčLIčRIčDIčNDIčSIĎHIčZIĎHIčCIčJIčNJIčYIčKIčNGGIčGIčMIčNIĎYIčAĎNčNGANčHAďNčWAď",
    "NčPAčBHAĎAčMBAčKPAĐNčMGBAčGBAčFAčVAčTAĎHAčDHAďHAčLAčRAčDAčNDAčSAĎHAčZAĎHAčCAčJAčNJAčYAčKAďNčNGGA",
    "čGAčMAčNAĎYAčOOďNčHOOčWOOĐNčPOOčBHOOĎOOčMBOOčKPOOčMGBOOčGBOOčFOOčVOOčTOOĎHOOčDHOOďHOOčLOOčROOčDO",
    "OčNDOOčSOOĎHOOčZOOĎHOOčCOOčJOOčNJOOčYOOčKOOčNGGOOčGOOčMOOčNOOĎYOOčUĎNčHUďNčWUďNčPUčBHUĎUčMBUčKPU",
    "čMGBUčGBUčFUčVUčTUĎHUčDHUďHUčLUčRUčDUčNDUčSUĎHUčZUĎHUčCUčJUčNJUčYUčKUčNGGUčGUčMUčNUĎYUčOĎNčNGONč",
    "HOďNčWOďNčPOčBHOĎOčMBOčKPOčMGBOčGBOĐNčFOčVOčTOĎHOčDHOďHOčLOčROčDOčNDOčSOĎHOčZOĎHOčCOčJOčNJOčYOčK",
    "OčNGGOčGOčMOčNOĎYOčEĎNčNGENčHEďNčWEďNčPEčBHEĎEčMBEčKPEĐNčMGBEčGBEĐNčFEčVEčTEĎHEčDHEďHEčLEčREčDEč",
    "NDEčSEĎHEčZEĎHEčCEčJEčNJEčYEčKEčNGGEđNčGEďNčMEčNEĎYEĎGčLENGTHENERĄCOMMAĄFULL STOPĄQUESTION MARKĄ",
    "SYLLABLE NDOLE FAēKAēSOOĆMBOL FEENGċKEENGċTINGċNIIċBANGċFAAċTAAċDANGČOONGċKUNGċTONGċDO-OċJONGĄDI",
    "GIT ZEROĊONEĊTWOċHREEĊFOURċIVEĊSIXċEVENĊEIGHTĊNINEĄSYLLABLE NDOLE MAēDO@A640ĀCYRILLIC CAPITAL LE",
    "TTER ZEMLYAĉSMALL LETTER ZEMLYAĉCAPITAL LETTER DZELOĉSMALL LETTER DZELOĉCAPITAL LETTER REVERSED ",
    "DZEĉSMALL LETTER REVERSED DZEĉCAPITAL LETTER IOTAĉSMALL LETTER IOTAĉCAPITAL LETTER DJERVĉSMALL L",
    "ETTER DJERVĉCAPITAL LETTER MONOGRAPH UKĉSMALL LETTER MONOGRAPH UKĉCAPITAL LETTER BROAD OMEGAĉSMA",
    "LL LETTER BROAD OMEGAĉCAPITAL LETTER NEUTRAL YERĉSMALL LETTER NEUTRAL YERĉCAPITAL LETTER YERU WI",
    "TH BACK YERĉSMALL LETTER YERU WITH BACK YERĉCAPITAL LETTER IOTIFIED YATĉSMALL LETTER IOTIFIED YA",
    "TĉCAPITAL LETTER REVERSED YUĉSMALL LETTER REVERSED YUĉCAPITAL LETTER IOTIFIED AĉSMALL LETTER IOT",
    "IFIED AĉCAPITAL LETTER CLOSED LITTLE YUSĉSMALL LETTER CLOSED LITTLE YUSĉCAPITAL LETTER BLENDED Y",
    "USĉSMALL LETTER BLENDED YUSĉCAPITAL LETTER IOTIFIED CLOSED LITTLE YUSĉSMALL LETTER IOTIFIED CLOS",
    "ED LITTLE YUSĉCAPITAL LETTER YNĉSMALL LETTER YNĉCAPITAL LETTER REVERSED TSEĉSMALL LETTER REVERSE",
    "D TSEĉCAPITAL LETTER SOFT DEĉSMALL LETTER SOFT DEĉCAPITAL LETTER SOFT ELĉSMALL LETTER SOFT ELĉCA",
    "PITAL LETTER SOFT EMĉSMALL LETTER SOFT EMĉCAPITAL LETTER MONOCULAR OĉSMALL LETTER MONOCULAR OĉCA",
    "PITAL LETTER BINOCULAR OĉSMALL LETTER BINOCULAR OĉCAPITAL LETTER DOUBLE MONOCULAR OĉSMALL LETTER",
    " DOUBLE MONOCULAR OĉLETTER MULTIOCULAR OāOMBINING CYRILLIC VZMETēTEN MILLIONS SIGNēHUNDRED MILLI",
    "ONS SIGNēTHOUSAND MILLIONS SIGNĀSLAVONIC ASTERISKĀCOMBINING CYRILLIC LETTER UKRAINIAN IEĚIĚYIĚUĚ",
    "HARD SIGNĚYERUĚSOFT SIGNĚOMEGAēKAVYKAēPAYEROKāYRILLIC KAVYKAĉPAYEROKĉCAPITAL LETTER DWEĉSMALL LE",
    "TTER DWEĉCAPITAL LETTER DZWEĉSMALL LETTER DZWEĉCAPITAL LETTER ZHWEĉSMALL LETTER ZHWEĉCAPITAL LET",
    "TER CCHEĉSMALL LETTER CCHEĉCAPITAL LETTER DZZEĉSMALL LETTER DZZEĉCAPITAL LETTER TE WITH MIDDLE H",
    "OOKĉSMALL LETTER TE WITH MIDDLE HOOKĉCAPITAL LETTER TWEĉSMALL LETTER TWEĉCAPITAL LETTER TSWEĉSMA",
    "LL LETTER TSWEĉCAPITAL LETTER TSSEĉSMALL LETTER TSSEĉCAPITAL LETTER TCHEĉSMALL LETTER TCHEĉCAPIT",
    "AL LETTER HWEĉSMALL LETTER HWEĉCAPITAL LETTER SHWEĉSMALL LETTER SHWEĉCAPITAL LETTER DOUBLE OĉSMA",
    "LL LETTER DOUBLE OĉCAPITAL LETTER CROSSED OĉSMALL LETTER CROSSED OĀMODIFIER LETTER CYRILLIC HARD",
    " SIGNęSOFT SIGNĀCOMBINING CYRILLIC LETTER EFĚIOTIFIED EĀBAMUM LETTER AčKAčUčKUčEEčREEčTAEčOčNYIč",
    "IčLAčPAčRIIďEEčLEEEEčMEEEEčTAAčNDAAĎJAEMčMčSUUčMUčSHIIĎIĎHEUXĎEUXčKYEEĎETčNUAEďĎJUAEčYOQčSHUčYUQ",
    "ĎAčNSHAčKEUXčPEUXčNJEEĎTEEčPUEčWUEčPEEčFEEčRUčLUčMIčNIčREUXĎAEčKENčNGKWAENďGAďAčSHOčPUAEčFUĎOMčW",
    "AčNAčLIčPIčLOQčKOčMBENčRENčMENĎAčTIčKIčMOĎBAAčTETčKPAčTENčNTUUčSAMBAčFAAMAEčKOVUUďGHOMĆCOMBINING",
    " MARK KOQNDONĕTUKWENTISĆNJAEMLIĆFULL STOPĆCOLONĈMMAĆSEMICOLONĆQUESTION MARK@A700ĀMODIFIER LETTER",
    " CHINESE TONE YIN PINGĞANG PINGĞIN SHANGĞANG SHANGĞIN QUĞANG QUĞIN RUĞANG RUĐEXTRA-HIGH DOTTED T",
    "ONE BARĐHIGH DOTTED TONE BARĐMID DOTTED TONE BARĐLOW DOTTED TONE BARĐEXTRA-LOW DOTTED TONE BARĖH",
    "IGH DOTTED LEFT-STEM TONE BARĐHIGH DOTTED LEFT-STEM TONE BARĐMID DOTTED LEFT-STEM TONE BARĐLOW D",
    "OTTED LEFT-STEM TONE BARĐEXTRA-LOW DOTTED LEFT-STEM TONE BARĖHIGH LEFT-STEM TONE BARĐHIGH LEFT-S",
    "TEM TONE BARĐMID LEFT-STEM TONE BARĐLOW LEFT-STEM TONE BARĐEXTRA-LOW LEFT-STEM TONE BARĐDOT VERT",
    "ICAL BARĔSLASHĔHORIZONTAL BARĐLOWER RIGHT CORNER ANGLEĐRAISED UP ARROWėDOWN ARROWėEXCLAMATION MA",
    "RKėINVERTED EXCLAMATION MARKĐLOW INVERTED EXCLAMATION MARKĐSTRESS AND HIGH TONEěLOW TONEĀLATIN C",
    "APITAL LETTER EGYPTOLOGICAL ALEFĆSMALL LETTER EGYPTOLOGICAL ALEFĆCAPITAL LETTER EGYPTOLOGICAL AI",
    "NĆSMALL LETTER EGYPTOLOGICAL AINĆCAPITAL LETTER HENGĆSMALL LETTER HENGĆCAPITAL LETTER TZĆSMALL L",
    "ETTER TZĆCAPITAL LETTER TRESILLOĆSMALL LETTER TRESILLOĆCAPITAL LETTER CUATRILLOĆSMALL LETTER CUA",
    "TRILLOĆCAPITAL LETTER CUATRILLO WITH COMMAĆSMALL LETTER CUATRILLO WITH COMMAĆLETTER SMALL CAPITA",
    "L FěSĆCAPITAL LETTER AAĆSMALL LETTER AAĆCAPITAL LETTER AOĆSMALL LETTER AOĆCAPITAL LETTER AUĆSMAL",
    "L LETTER AUĆCAPITAL LETTER AVĆSMALL LETTER AVĆCAPITAL LETTER AV WITH HORIZONTAL BARĆSMALL LETTER",
    " AV WITH HORIZONTAL BARĆCAPITAL LETTER AYĆSMALL LETTER AYĆCAPITAL LETTER REVERSED C WITH DOTĆSMA",
    "LL LETTER REVERSED C WITH DOTĆCAPITAL LETTER K WITH STROKEĆSMALL LETTER K WITH STROKEĆCAPITAL LE",
    "TTER K WITH DIAGONAL STROKEĆSMALL LETTER K WITH DIAGONAL STROKEĆCAPITAL LETTER K WITH STROKE AND",
    " DIAGONAL STROKEĆSMALL LETTER K WITH STROKE AND DIAGONAL STROKEĆCAPITAL LETTER BROKEN LĆSMALL LE",
    "TTER BROKEN LĆCAPITAL LETTER L WITH HIGH STROKEĆSMALL LETTER L WITH HIGH STROKEĆCAPITAL LETTER O",
    " WITH LONG STROKE OVERLAYĆSMALL LETTER O WITH LONG STROKE OVERLAYĆCAPITAL LETTER O WITH LOOPĆSMA",
    "LL LETTER O WITH LOOPĆCAPITAL LETTER OOĆSMALL LETTER OOĆCAPITAL LETTER P WITH STROKE THROUGH DES",
    "CENDERĆSMALL LETTER P WITH STROKE THROUGH DESCENDERĆCAPITAL LETTER P WITH FLOURISHĆSMALL LETTER ",
    "P WITH FLOURISHĆCAPITAL LETTER P WITH SQUIRREL TAILĆSMALL LETTER P WITH SQUIRREL TAILĆCAPITAL LE",
    "TTER Q WITH STROKE THROUGH DESCENDERĆSMALL LETTER Q WITH STROKE THROUGH DESCENDERĆCAPITAL LETTER",
    " Q WITH DIAGONAL STROKEĆSMALL LETTER Q WITH DIAGONAL STROKEĆCAPITAL LETTER R ROTUNDAĆSMALL LETTE"],
  String.join [
    "R R ROTUNDAĆCAPITAL LETTER RUM ROTUNDAĆSMALL LETTER RUM ROTUNDAĆCAPITAL LETTER V WITH DIAGONAL S",
    "TROKEĆSMALL LETTER V WITH DIAGONAL STROKEĆCAPITAL LETTER VYĆSMALL LETTER VYĆCAPITAL LETTER VISIG",
    "OTHIC ZĆSMALL LETTER VISIGOTHIC ZĆCAPITAL LETTER THORN WITH STROKEĆSMALL LETTER THORN WITH STROK",
    "EĆCAPITAL LETTER THORN WITH STROKE THROUGH DESCENDERĆSMALL LETTER THORN WITH STROKE THROUGH DESC",
    "ENDERĆCAPITAL LETTER VENDĆSMALL LETTER VENDĆCAPITAL LETTER ETĆSMALL LETTER ETĆCAPITAL LETTER ISĆ",
    "SMALL LETTER ISĆCAPITAL LETTER CONĆSMALL LETTER CONĀMODIFIER LETTER USĀLATIN SMALL LETTER DUMēLU",
    "MēMUMēNUMēRUMĆLETTER SMALL CAPITAL RUMĆSMALL LETTER TUMēUMĆCAPITAL LETTER INSULAR DĆSMALL LETTER",
    " INSULAR DĆCAPITAL LETTER INSULAR FĆSMALL LETTER INSULAR FĆCAPITAL LETTER INSULAR GĕTURNED INSUL",
    "AR GĆSMALL LETTER TURNED INSULAR GĆCAPITAL LETTER TURNED LĆSMALL LETTER TURNED LĆCAPITAL LETTER ",
    "INSULAR RĆSMALL LETTER INSULAR RĆCAPITAL LETTER INSULAR SĆSMALL LETTER INSULAR SĆCAPITAL LETTER ",
    "INSULAR TĆSMALL LETTER INSULAR TĀMODIFIER LETTER LOW CIRCUMFLEX ACCENTĐCOLONĐSHORT EQUALS SIGNĀL",
    "ATIN CAPITAL LETTER SALTILLOĆSMALL LETTER SALTILLOĆCAPITAL LETTER TURNED HĆSMALL LETTER L WITH R",
    "ETROFLEX HOOK AND BELTĆLETTER SINOLOGICAL DOTĆCAPITAL LETTER N WITH DESCENDERĆSMALL LETTER N WIT",
    "H DESCENDERĆCAPITAL LETTER C WITH BARĆSMALL LETTER C WITH BARĚPALATAL HOOKēH WITH PALATAL HOOKĆC",
    "APITAL LETTER B WITH FLOURISHĆSMALL LETTER B WITH FLOURISHĆCAPITAL LETTER F WITH STROKEĆSMALL LE",
    "TTER F WITH STROKEĆCAPITAL LETTER VOLAPUK AEĆSMALL LETTER VOLAPUK AEĆCAPITAL LETTER VOLAPUK OEĆS",
    "MALL LETTER VOLAPUK OEĆCAPITAL LETTER VOLAPUK UEĆSMALL LETTER VOLAPUK UEĆCAPITAL LETTER G WITH O",
    "BLIQUE STROKEĆSMALL LETTER G WITH OBLIQUE STROKEĆCAPITAL LETTER K WITH OBLIQUE STROKEĆSMALL LETT",
    "ER K WITH OBLIQUE STROKEĆCAPITAL LETTER N WITH OBLIQUE STROKEĆSMALL LETTER N WITH OBLIQUE STROKE",
    "ĆCAPITAL LETTER R WITH OBLIQUE STROKEĆSMALL LETTER R WITH OBLIQUE STROKEĆCAPITAL LETTER S WITH O",
    "BLIQUE STROKEĆSMALL LETTER S WITH OBLIQUE STROKEĆCAPITAL LETTER H WITH HOOKĕREVERSED OPEN EĕSCRI",
    "PT GĕL WITH BELTĕSMALL CAPITAL IĆLETTER SMALL CAPITAL QĆCAPITAL LETTER TURNED KĜTĕJ WITH CROSSED",
    "-TAILĕCHIĕBETAĆSMALL LETTER BETAĆCAPITAL LETTER OMEGAĆSMALL LETTER OMEGAĆCAPITAL LETTER U WITH S",
    "TROKEĆSMALL LETTER U WITH STROKEĆCAPITAL LETTER GLOTTAL AĆSMALL LETTER GLOTTAL AĆCAPITAL LETTER ",
    "GLOTTAL IĆSMALL LETTER GLOTTAL IĆCAPITAL LETTER GLOTTAL UĆSMALL LETTER GLOTTAL UĆCAPITAL LETTER ",
    "OLD POLISH OĆSMALL LETTER OLD POLISH OĆCAPITAL LETTER ANGLICANA WĆSMALL LETTER ANGLICANA WĆCAPIT",
    "AL LETTER C WITH PALATAL HOOKĕS WITH HOOKĕZ WITH PALATAL HOOKĕD WITH SHORT STROKE OVERLAYĆSMALL ",
    "LETTER D WITH SHORT STROKE OVERLAYĆCAPITAL LETTER S WITH SHORT STROKE OVERLAYĆSMALL LETTER S WIT",
    "H SHORT STROKE OVERLAY@A7D0ĆCAPITAL LETTER CLOSED INSULAR GĆSMALL LETTER CLOSED INSULAR G@A7D3ēD",
    "OUBLE THORN@A7D5ĚWYNNĆCAPITAL LETTER MIDDLE SCOTS SĆSMALL LETTER MIDDLE SCOTS SĆCAPITAL LETTER S",
    "IGMOID SĆSMALL LETTER SIGMOID S@A7F2ĀMODIFIER LETTER CAPITAL CĘFĘQĀLATIN CAPITAL LETTER REVERSED",
    " HALF HĆSMALL LETTER REVERSED HALF HĆEPIGRAPHIC LETTER SIDEWAYS IĀMODIFIER LETTER CAPITAL H WITH",
    " STROKEĐSMALL LIGATURE OEĀLATIN LETTER SMALL CAPITAL TURNED MĆEPIGRAPHIC LETTER REVERSED FġPĘINV",
    "ERTED Mę LONGAĘARCHAIC MĀSYLOTI NAGRI LETTER AĔIčSIGN DVISVARAčLETTER UĔEĔOčSIGN HASANTAčLETTER ",
    "KOĕHOĔGOĕHOčSIGN ANUSVARAčLETTER COĕHOĔJOĕHOĔTTOĖHOĔDDOĖHOĔTOĕHOĔDOĕHOĔNOĔPOĕHOĔBOĕHOĔMOĔROĔLOĔR",
    "ROĔSOĔHOčVOWEL SIGN AĘIĘUĘEĘOOčPOETRY MARK-1ę2ę3ę4čSIGN ALTERNATE HASANTA@A830ĀNORTH INDIC FRACT",
    "ION ONE QUARTERęHALFĕTHREE QUARTERSĕONE SIXTEENTHęEIGHTHĕTHREE SIXTEENTHSČQUARTER MARKČPLACEHOLD",
    "ER MARKČRUPEE MARKČQUANTITY MARK@A840ĀPHAGS-PA LETTER KAđHAĐGAĐNGAĐCAđHAĐJAĐNYAĐTAđHAĐDAĐNAĐPAđH",
    "AĐBAĐMAĐTSAĒHAĐDZAĐWAĐZHAđAĐSMALL AĐYAĐRAĐLAĐSHAđAĐHAĐAĐIĐUĐEĐOĐQAĐXAĐFAĐGGAĐEEĉSUBJOINED LETTER",
    " WAĚYAĉLETTER TTAĒHAĐDDAĐNNAĐALTERNATE YAĐVOICELESS SHAĕD HAĐASPIRATED FAĉSUBJOINED LETTER RAċPE",
    "RFIXED LETTER RAĉLETTER CANDRABINDUĉSINGLE HEAD MARKĉDOUBLE HEAD MARKĉMARK SHADĎDOUBLE SHAD@A880",
    "ĀSAURASHTRA SIGN ANUSVARAĐVISARGAċLETTER AēAĒIēIĒUēUĒVOCALIC RěRĚLěLĒEēEĒAIĒOēOĒAUĒKAēHAĒGAēHAĒN",
    "GAĒCAēHAĒJAēHAĒNYAĒTTAĔHAĒDDAĔHAĒNNAĒTAēHAĒDAēHAĒNAĒPAēHAĒBAēHAĒMAĒYAĒRAĒLAĒVAĒSHAēSAēAĒHAĒLLAċC",
    "ONSONANT SIGN HAARUċVOWEL SIGN AAĖIėIĖUėUĖVOCALIC RğRĞLğLĖEėEĖAIĖOėOĖAUċSIGN VIRAMAĐCANDRABINDU@",
    "A8CEċDANDAČOUBLE DANDAČIGIT ZEROđONEđTWOĒHREEđFOURĒIVEđSIXĒEVENđEIGHTđNINE@A8E0ĀCOMBINING DEVANA",
    "GARI DIGIT ZEROěONEěTWOĜHREEěFOURĜIVEěSIXĜEVENěEIGHTěNINEĕLETTER AĜUĜKAĜNAĜPAĜRAĜVIĕSIGN AVAGRAH",
    "AĀDEVANAGARI SIGN SPACING CANDRABINDUĐCANDRABINDU VIRAMAĐDOUBLE CANDRABINDU VIRAMAĐCANDRABINDU T",
    "WOĝHREEĜAVAGRAHAĐPUSHPIKAċGAP FILLERċCARETċHEADSTROKEċSIGN SIDDHAMċJAIN OMċLETTER AYċVOWEL SIGN ",
    "AYĀKAYAH LI DIGIT ZEROďONEďTWOĐHREEďFOURĐIVEďSIXĐEVENďEIGHTďNINEĉLETTER KAđHAĐGAĐNGAĐSAđHAĐZAĐNY",
    "AĐTAĐHTAĐNAĐPAđHAĐMAĐDAĐBAĐRAĐYAĐLAĐWAĐTHAĐHAĐVAĐCAĐAĐOEĐIĐOOĉVOWEL UEďEďUďEEďOĉTONE PLOPHUĎCALY",
    "Aē PLOPHUĉSIGN CWIĎSHYAĀREJANG LETTER KAĎGAĎNGAĎTAĎDAĎNAĎPAĎBAĎMAĎCAĎJAĎNYAĎSAĎRAĎLAĎYAĎWAĎHAĎMB",
    "AĎNGGAďDAďYJAĎAćVOWEL SIGN IĒUĒEĒAIĒOĒAUĒEUēAćCONSONANT SIGN NGėĖRĖHćVIRAMA@A95FćSECTION MARKĀHA",
    "NGUL CHOSEONG TIKEUT-MIEUMėPIEUPėSIOSėCIEUCĐRIEUL-KIYEOKĖSSANGKIYEOKĖTIKEUTĖSSANGTIKEUTĖMIEUMĖPI",
    "EUPĖSSANGPIEUPĖKAPYEOUNPIEUPĖSIOSĖCIEUCĖKHIEUKHĐMIEUM-KIYEOKĖTIKEUTĖSIOSĐPIEUP-SIOS-THIEUTHĖKHIE",
    "UKHĖHIEUHĐSSANGSIOS-PIEUPĐIEUNG-RIEULĖHIEUHĐSSANGCIEUC-HIEUHĕTHIEUTHĐPHIEUPH-HIEUHĐHIEUH-SIOSĐSS",
    "ANGYEORINHIEUH@A980ĀJAVANESE SIGN PANYANGGAĎCECAKĎLAYARĎWIGNYANĉLETTER AĐI KAWIđđIĐUĐPA CEREKĐNG",
    "A LELETę RASWADIĐEĐAIĐOĐKAĒ SASAKēMURDAĐGAĒ MURDAĐNGAĐCAĒ MURDAĐJAĐNYA MURDAĐJA MAHAPRANAĐNYAĐTT",
    "Aē MAHAPRANAĐDDAē MAHAPRANAĐNA MURDAĐTAĒ MURDAĐDAĒ MAHAPRANAĐNAĐPAĒ MURDAĐBAĒ MURDAĐMAĐYAĐRAĒ AG",
    "UNGĐLAĐWAĐSA MURDAĔAHAPRANAĒĐHAĉSIGN CECAK TELUĉVOWEL SIGN TARUNGĕOLONGĔWULUĘ MELIKĔSUKUĘ MENDUT",
    "ĔTALINGĔDIRGA MUREĔPEPETĉCONSONANT SIGN KERETĘPENGKALĘCAKRAĉPANGKONĉLEFT RERENGGANĉRIGHT RERENGG",
    "ANĉPADA ANDAPĎMADYAĎLUHURĎWINDUĎPANGKATĎLINGSAďUNGSIĎADEGĒ ADEGĎPISELEHĉTURNED PADA PISELEH@A9CF",
    "ĉPANGRANGKEPĉDIGIT ZEROďONEďTWOĐHREEďFOURĐIVEďSIXĐEVENďEIGHTďNINE@A9DEĉPADA TIRTA TUMETESĎISEN-I",
    "SENĀMYANMAR LETTER SHAN GHAĔCHAĔJHAĔNNAĔBHAĈSIGN SHAN SAWĈMODIFIER LETTER SHAN REDUPLICATIONĈLET",
    "TER TAI LAING NYAęFAęGAĚHAęJAĚHAęDDAěHAęNNAĈTAI LAING DIGIT ZEROĘONEĘTWOęHREEĘFOURęIVEĘSIXęEVENĘ",
    "EIGHTĘNINEĈLETTER TAI LAING LLAęDAĚHAęBAĚHA@AA00ĀCHAM LETTER AČIČUČEČAIČOČKAčHAČGAčHAČNGUEĎAČCHA",
    "ĎHAČJAčHAČNHUEĎAĎJAČTAčHAČDAčHAČNUEčAČDDAČPAčPAčHAČBAčHAČMUEčAČBBAČYAČRAČLAČVAČSSAčAČHAąVOWEL SI",
    "GN AAĐIđIĐEIĐUĐOEđĐAIđUĐUEąCONSONANT SIGN YAĔRAĔLAĔWA@AA40ąLETTER FINAL KĒGĒNGąCONSONANT SIGN FI",
    "NAL NGąLETTER FINAL CHĒTĒNĒPĒYĒRĒLĒSSąCONSONANT SIGN FINAL MĚH@AA50ąDIGIT ZEROċONEċTWOČHREEċFOUR",
    "ČIVEċSIXČEVENċEIGHTċNINE@AA5CąPUNCTUATION SPIRALđDANDAĒOUBLE DANDAđTRIPLE DANDAĀMYANMAR LETTER K",
    "HAMTI GAĖCAėHAĖJAėHAĖNYAĖTTAĘHAĖDDAĘHAėHAĖNAĖSAĖHAėHAĖFAĈMODIFIER LETTER KHAMTI REDUPLICATIONĈLE",
    "TTER KHAMTI XAĖZAĖRAĉOGOGRAM KHAMTI OAYĘQNĘHMĈSYMBOL AITON EXCLAMATIONĕONEĕTWOĈLETTER AITON RAĈS",
    "IGN PAO KAREN TONEčTAI LAING TONE-2Ĝ5ĈLETTER SHWE PALAUNG CHAĜSHAĀTAI VIET LETTER LOW KOĐHIGH KO",
    "ĐLOW KHOĐHIGH KHOĐLOW KHHOĐHIGH KHHOĐLOW GOĐHIGH GOĐLOW NGOĐHIGH NGOĐLOW COĐHIGH COĐLOW CHOĐHIGH",
    " CHOĐLOW SOĐHIGH SOĐLOW NYOĐHIGH NYOĐLOW DOĐHIGH DOĐLOW TOĐHIGH TOĐLOW THOĐHIGH THOĐLOW NOĐHIGH ",
    "NOĐLOW BOĐHIGH BOĐLOW POĐHIGH POĐLOW PHOĐHIGH PHOĐLOW FOĐHIGH FOĐLOW MOĐHIGH MOĐLOW YOĐHIGH YOĐL",
    "OW ROĐHIGH ROĐLOW LOĐHIGH LOĐLOW VOĐHIGH VOĐLOW HOĐHIGH HOĐLOW OĐHIGH OĉMAI KANGĉVOWEL AAďIďUEĐď",
    "EďOĉMAI KHITĉVOWEL IAďUEAĐAďAUEĐYĐNĐMĉTONE MAI EKĒNUENGĒTHOĒSONG@AADBĉSYMBOL KONĐNUENGĐSAMĐHO HO",
    "IĐKOI KOIĀMEETEI MAYEK LETTER EĔOĔCHAĔNYAĔTTAĖHAĔDDAĖHAĔNNAĔSHAĕSAčVOWEL SIGN IIĘUUĘAAIęUęAUčCHE",
    "IKHANčAHANG KHUDAMĎNJIčSYLLABLE REPETITION MARKčWORD REPETITION MARKčVOWEL SIGN VISARGAĎIRAMA@AB",
    "01ĀETHIOPIC SYLLABLE TTHUĕIĕAAĕEEĖĕO@AB09ĒDDHUĕIĕAAĕEEĖĕO@AB11ēZUĔIĔAAĔEEĕĔO@AB20ĒCCHHAĖUĖIĖAAĖE",
    "EėĖO@AB28ĒBBAĔUĔIĔAAĔEEĕĔO@AB30ĀLATIN SMALL LETTER BARRED ALPHAēA REVERSED-SCHWAēBLACKLETTER EĔA",
    "RRED EēE WITH FLOURISHēLENIS FēSCRIPT G WITH CROSSED-TAILēL WITH INVERTED LAZY SĚDOUBLE MIDDLE T",
    "ILDEĚMIDDLE RINGēM WITH CROSSED-TAILēN WITH CROSSED-TAILēENG WITH CROSSED-TAILēBLACKLETTER OĠ WI",
    "TH STROKEēOPEN O WITH STROKEēINVERTED OEēTURNED OE WITH STROKEĢHORIZONTAL STROKEě OPEN-OĢ WITH S",
    "TROKEēSTIRRUP RĆLETTER SMALL CAPITAL R WITH RIGHT LEGĆSMALL LETTER R WITHOUT HANDLEēDOUBLE RēR W",
    "ITH CROSSED-TAILēDOUBLE R WITH CROSSED-TAILēSCRIPT Rě WITH RINGēBASELINE ESHēU WITH SHORT RIGHT ",
    "LEGĕBAR WITH SHORT RIGHT LEGĔIēTURNED UIēU WITH LEFT HOOKēCHIĖ WITH LOW RIGHT RINGĠLEFT SERIFēX ",
    "WITH LOW RIGHT RINGĜNG LEFT LEGħ AND LOW RIGHT RINGĨWITH SERIFēY WITH SHORT RIGHT LEGĀMODIFIER B",
    "REVE WITH INVERTED BREVEĉLETTER SMALL HENGĖL WITH INVERTED LAZY SĝMIDDLE TILDEĖU WITH LEFT HOOKĀ",
    "LATIN SMALL LETTER SAKHA YATēIOTIFIED EēOPEN OEēUOēINVERTED ALPHAĀGREEK LETTER SMALL CAPITAL OME",
    "GAĀLATIN SMALL LETTER DZ DIGRAPH WITH RETROFLEX HOOKēTS DIGRAPH WITH RETROFLEX HOOKĔURNED R WITH",
    " MIDDLE TILDEĀMODIFIER LETTER SMALL TURNED WĐLEFT TACKĐRIGHT TACK@AB70ĀCHEROKEE SMALL LETTER AĖE",
    "ĖIĖOĖUĖVĖGAĖKAĖGEėIėOėUėVĖHAėEėIėOėUėVĖLAėEėIėOėUėVĖMAėEėIėOėUĖNAĖHNAĖNAHėEėIėOėUėVĖQUAĘEĘIĘOĘUĘ",
    "VĖSAėėEėIėOėUėVĖDAĖTAĖDEĖTEĖDIĖTIĖDOėUėVėLAĖTLAĘEĘIĘOĘUĘVėSAĘEĘIĘOĘUĘVĖWAėEėIėOėUėVĖYAĀMEETEI MA",
    "YEK LETTER KOKĔSAMĔLAIĔMITĔPAĔNAĔCHILĔTILĔKHOUĔNGOUĔTHOUĔWAIĔYANGĔHUKĔUNĔIĔPHAMĔATIYAĔGOKĔJHAMĔR",
    "AIĔBAĔJILĔDILĔGHOUĔDHOUĔBHAMĔKOK LONSUMĔLAI LONSUMĔMIT LONSUMĔPA LONSUMĔNA LONSUMĔTIL LONSUMĔNGO",
    "U LONSUMĔI LONSUMčVOWEL SIGN ONAPĘINAPĘANAPĘYENAPĘSOUNAPĘUNAPĘCHEINAPĘNUNGčCHEIKHEIčLUM IYEKčAPU",
    "N IYEK@ABF0čDIGIT ZEROēONEēTWOĔHREEēFOURĔIVEēSIXĔEVENēEIGHTēNINE@D7B0ĀHANGUL JUNGSEONG O-YEOēO-I",
    "đYO-AĕEĔEOđU-YEOēI-IđYU-AEĔOđEU-AĔEOĕĔOđI-YA-OĕEĔEOĕēO-IēYOĔUēIđARAEA-AėE@D7CBĈONGSEONG NIEUN-RI",
    "EULėCHIEUCHđSSANGTIKEUTĜ-PIEUPđTIKEUT-PIEUPĘSIOSĜ-KIYEOKĘCIEUCęHIEUCHĘTHIEUTHđRIEUL-SSANGKIYEOKė"],
  String.join [
    "KIYEOK-HIEUHđSSANGRIEUL-KHIEUKHđRIEUL-MIEUM-HIEUHėPIEUP-TIKEUTĝPHIEUPHėYESIEUNGęORINHIEUH-HIEUHđ",
    "KAPYEOUNRIEULđMIEUM-NIEUNėSSANGNIEUNđSSANGMIEUMđMIEUM-PIEUP-SIOSėCIEUCđPIEUP-TIKEUTėRIEUL-PHIEUP",
    "HėMIEUMđSSANGPIEUPđPIEUP-SIOS-TIKEUTėCIEUCĘHIEUCHđSIOS-MIEUMĖKAPYEOUNPIEUPĒSANGSIOS-KIYEOKěTIKEU",
    "TĒIOS-PANSIOSĖCIEUCėHIEUCHĖTHIEUTHĖHIEUHđPANSIOS-PIEUPęKAPYEOUNPIEUPđYESIEUNG-MIEUMĚHIEUHđCIEUC-",
    "PIEUPėSSANGPIEUPđSSANGCIEUCđPHIEUPH-SIOSęTHIEUTH@F900ĀCJK COMPATIBILITY IDEOGRAPH-F900ğ1ğ2ğ3ğ4ğ5",
    "ğ6ğ7ğ8ğ9ğAğBğCğDğEğFĞ10ğ1ğ2ğ3ğ4ğ5ğ6ğ7ğ8ğ9ğAğBğCğDğEğFĞ20ğ1ğ2ğ3ğ4ğ5ğ6ğ7ğ8ğ9ğAğBğCğDğEğFĞ30ğ1ğ2ğ3ğ",
    "4ğ5ğ6ğ7ğ8ğ9ğAğBğCğDğEğFĞ40ğ1ğ2ğ3ğ4ğ5ğ6ğ7ğ8ğ9ğAğBğCğDğEğFĞ50ğ1ğ2ğ3ğ4ğ5ğ6ğ7ğ8ğ9ğAğBğCğDğEğFĞ60ğ1ğ2",
    "ğ3ğ4ğ5ğ6ğ7ğ8ğ9ğAğBğCğDğEğFĞ70ğ1ğ2ğ3ğ4ğ5ğ6ğ7ğ8ğ9ğAğBğCğDğEğFĞ80ğ1ğ2ğ3ğ4ğ5ğ6ğ7ğ8ğ9ğAğBğCğDğEğFĞ90ğ",
    "1ğ2ğ3ğ4ğ5ğ6ğ7ğ8ğ9ğAğBğCğDğEğFĞA0ğ1ğ2ğ3ğ4ğ5ğ6ğ7ğ8ğ9ğAğBğCğDğEğFĞB0ğ1ğ2ğ3ğ4ğ5ğ6ğ7ğ8ğ9ğAğBğCğDğEğFĞ",
    "C0ğ1ğ2ğ3ğ4ğ5ğ6ğ7ğ8ğ9ğAğBğCğDğEğFĞD0ğ1ğ2ğ3ğ4ğ5ğ6ğ7ğ8ğ9ğAğBğCğDğEğFĞE0ğ1ğ2ğ3ğ4ğ5ğ6ğ7ğ8ğ9ğAğBğCğDğE",
    "ğFĞF0ğ1ğ2ğ3ğ4ğ5ğ6ğ7ğ8ğ9ğAğBğCğDğEğFĝA00ğ1ğ2ğ3ğ4ğ5ğ6ğ7ğ8ğ9ğAğBğCğDğEğFĞ10ğ1ğ2ğ3ğ4ğ5ğ6ğ7ğ8ğ9ğAğBğC",
    "ğDğEğFĞ20ğ1ğ2ğ3ğ4ğ5ğ6ğ7ğ8ğ9ğAğBğCğDğEğFĞ30ğ1ğ2ğ3ğ4ğ5ğ6ğ7ğ8ğ9ğAğBğCğDğEğFĞ40ğ1ğ2ğ3ğ4ğ5ğ6ğ7ğ8ğ9ğAğ",
    "BğCğDğEğFĞ50ğ1ğ2ğ3ğ4ğ5ğ6ğ7ğ8ğ9ğAğBğCğDğEğFĞ60ğ1ğ2ğ3ğ4ğ5ğ6ğ7ğ8ğ9ğAğBğCğD@FA70Ğ70ğ1ğ2ğ3ğ4ğ5ğ6ğ7ğ8ğ",
    "9ğAğBğCğDğEğFĞ80ğ1ğ2ğ3ğ4ğ5ğ6ğ7ğ8ğ9ğAğBğCğDğEğFĞ90ğ1ğ2ğ3ğ4ğ5ğ6ğ7ğ8ğ9ğAğBğCğDğEğFĞA0ğ1ğ2ğ3ğ4ğ5ğ6ğ7",
    "ğ8ğ9ğAğBğCğDğEğFĞB0ğ1ğ2ğ3ğ4ğ5ğ6ğ7ğ8ğ9ğAğBğCğDğEğFĞC0ğ1ğ2ğ3ğ4ğ5ğ6ğ7ğ8ğ9ğAğBğCğDğEğFĞD0ğ1ğ2ğ3ğ4ğ5ğ",
    "6ğ7ğ8ğ9@FB00ĀLATIN SMALL LIGATURE FFĖIĖLĖFIėLĕLONG S TĕST@FB13ĀARMENIAN SMALL LIGATURE MEN NOWĜE",
    "CHĜINIĘVEW NOWĘMEN XEH@FB1DĀHEBREW LETTER YOD WITH HIRIQćPOINT JUDEO-SPANISH VARIKAćLIGATURE YID",
    "DISH YOD YOD PATAHĈETTER ALTERNATIVE AYINĎWIDE ALEFēDALETēHEēKAFēLAMEDēFINAL MEMēRESHēTAVĎALTERN",
    "ATIVE PLUS SIGNĎSHIN WITH SHIN DOTęIN DOTĘDAGESH AND SHIN DOTĤIN DOTĎALEF WITH PATAHĘQAMATSĘMAPI",
    "QĎBET WITH DAGESHĎGIMEL WITH DAGESHĎDALET WITH DAGESHĎHE WITH MAPIQĎVAV WITH DAGESHĎZAYIN WITH D",
    "AGESH@FB38ĎTET WITH DAGESHĎYOD WITH DAGESHĎFINAL KAF WITH DAGESHĎKAF WITH DAGESHĎLAMED WITH DAGE",
    "SH@FB3EĎMEM WITH DAGESH@FB40ĎNUN WITH DAGESHĎSAMEKH WITH DAGESH@FB43ĎFINAL PE WITH DAGESHĎPE WIT",
    "H DAGESH@FB46ĎTSADI WITH DAGESHĎQOF WITH DAGESHĎRESH WITH DAGESHĎSHIN WITH DAGESHĎTAV WITH DAGES",
    "HĎVAV WITH HOLAMĎBET WITH RAFEĎKAF WITH RAFEĎPE WITH RAFEĈIGATURE ALEF LAMEDĀARABIC LETTER ALEF ",
    "WASLA ISOLATED FORMęFINAL FORMĎBEEH ISOLATED FORMēFINAL FORMēINITIAL FORMēMEDIAL FORMĎPEH ISOLAT",
    "ED FORMĒFINAL FORMĒINITIAL FORMĒMEDIAL FORMĎBEHEH ISOLATED FORMĔFINAL FORMĔINITIAL FORMĔMEDIAL F",
    "ORMĎTTEHEH ISOLATED FORMĕFINAL FORMĕINITIAL FORMĕMEDIAL FORMďEHEH ISOLATED FORMĔFINAL FORMĔINITI",
    "AL FORMĔMEDIAL FORMďTEH ISOLATED FORMēFINAL FORMēINITIAL FORMēMEDIAL FORMĎVEH ISOLATED FORMĒFINA",
    "L FORMĒINITIAL FORMĒMEDIAL FORMĎPEHEH ISOLATED FORMĔFINAL FORMĔINITIAL FORMĔMEDIAL FORMĎDYEH ISO",
    "LATED FORMēFINAL FORMēINITIAL FORMēMEDIAL FORMĎNYEH ISOLATED FORMēFINAL FORMēINITIAL FORMēMEDIAL",
    " FORMĎTCHEH ISOLATED FORMĔFINAL FORMĔINITIAL FORMĔMEDIAL FORMēEH ISOLATED FORMĖFINAL FORMĖINITIA",
    "L FORMĖMEDIAL FORMĎDDAHAL ISOLATED FORMĕFINAL FORMďAHAL ISOLATED FORMĔFINAL FORMďUL ISOLATED FOR",
    "MĒFINAL FORMďDAL ISOLATED FORMēFINAL FORMĎJEH ISOLATED FORMĒFINAL FORMĎRREH ISOLATED FORMēFINAL ",
    "FORMĎKEHEH ISOLATED FORMĔFINAL FORMĔINITIAL FORMĔMEDIAL FORMĎGAF ISOLATED FORMĒFINAL FORMĒINITIA",
    "L FORMĒMEDIAL FORMďUEH ISOLATED FORMēFINAL FORMēINITIAL FORMēMEDIAL FORMĎNGOEH ISOLATED FORMĔFIN",
    "AL FORMĔINITIAL FORMĔMEDIAL FORMďOON GHUNNA ISOLATED FORMĚFINAL FORMĎRNOON ISOLATED FORMĔFINAL F",
    "ORMĔINITIAL FORMĔMEDIAL FORMĎHEH WITH YEH ABOVE ISOLATED FORMġFINAL FORMĒGOAL ISOLATED FORMėFINA",
    "L FORMėINITIAL FORMėMEDIAL FORMĒDOACHASHMEE ISOLATED FORMĞFINAL FORMĞINITIAL FORMĞMEDIAL FORMĎYE",
    "H BARREE ISOLATED FORMęFINAL FORMęWITH HAMZA ABOVE ISOLATED FORMĪFINAL FORMćSYMBOL DOT ABOVEĒBEL",
    "OWĎTWO DOTS ABOVEėBELOWďHREE DOTS ABOVEęBELOWęPOINTING DOWNWARDS ABOVEĬBELOWĎFOUR DOTS ABOVEĘBEL",
    "OWĎDOUBLE VERTICAL BAR BELOWĎTWO DOTS VERTICALLY ABOVEĢBELOWĎRINGĎSMALL TAH ABOVEĘBELOWĎWASLA AB",
    "OVE@FBD3ćLETTER NG ISOLATED FORMđFINAL FORMđINITIAL FORMđMEDIAL FORMĎU ISOLATED FORMĐFINAL FORMĎ",
    "OE ISOLATED FORMđFINAL FORMĎYU ISOLATED FORMđFINAL FORMĎU WITH HAMZA ABOVE ISOLATED FORMĎVE ISOL",
    "ATED FORMđFINAL FORMĎKIRGHIZ OE ISOLATED FORMęFINAL FORMĖYU ISOLATED FORMęFINAL FORMĎE ISOLATED ",
    "FORMĐFINAL FORMĐINITIAL FORMĐMEDIAL FORMĎUIGHUR KAZAKH KIRGHIZ ALEF MAKSURA INITIAL FORMıMEDIAL ",
    "FORMĈIGATURE YEH WITH HAMZA ABOVE WITH ALEF ISOLATED FORMįFINAL FORMīE ISOLATED FORMĭFINAL FORMĪ",
    "WAW ISOLATED FORMĮFINAL FORMĪU ISOLATED FORMĬFINAL FORMĪOE ISOLATED FORMĭFINAL FORMĪYU ISOLATED ",
    "FORMĭFINAL FORMĪE ISOLATED FORMĬFINAL FORMĬINITIAL FORMĐUIGHUR KIRGHIZ YEH WITH HAMZA ABOVE WITH",
    " ALEF MAKSURA ISOLATED FORMņFINAL FORMņINITIAL FORMĈETTER FARSI YEH ISOLATED FORMĘFINAL FORMĘINI",
    "TIAL FORMĘMEDIAL FORMĈIGATURE YEH WITH HAMZA ABOVE WITH JEEM ISOLATED FORMĪHAH ISOLATED FORMĪMEE",
    "M ISOLATED FORMĪALEF MAKSURA ISOLATED FORMĪYEH ISOLATED FORMĐBEH WITH JEEM ISOLATED FORMęHAH ISO",
    "LATED FORMęKHAH ISOLATED FORMęMEEM ISOLATED FORMęALEF MAKSURA ISOLATED FORMęYEH ISOLATED FORMĐTE",
    "H WITH JEEM ISOLATED FORMęHAH ISOLATED FORMęKHAH ISOLATED FORMęMEEM ISOLATED FORMęALEF MAKSURA I",
    "SOLATED FORMęYEH ISOLATED FORMđHEH WITH JEEM ISOLATED FORMĚMEEM ISOLATED FORMĚALEF MAKSURA ISOLA",
    "TED FORMĚYEH ISOLATED FORMĐJEEM WITH HAH ISOLATED FORMĚMEEM ISOLATED FORMĐHAH WITH JEEM ISOLATED",
    " FORMęMEEM ISOLATED FORMĐKHAH WITH JEEM ISOLATED FORMĚHAH ISOLATED FORMĚMEEM ISOLATED FORMĐSEEN ",
    "WITH JEEM ISOLATED FORMĚHAH ISOLATED FORMĚKHAH ISOLATED FORMĚMEEM ISOLATED FORMđAD WITH HAH ISOL",
    "ATED FORMęMEEM ISOLATED FORMĐDAD WITH JEEM ISOLATED FORMęHAH ISOLATED FORMęKHAH ISOLATED FORMęME",
    "EM ISOLATED FORMĐTAH WITH HAH ISOLATED FORMęMEEM ISOLATED FORMĐZAH WITH MEEM ISOLATED FORMĐAIN W",
    "ITH JEEM ISOLATED FORMęMEEM ISOLATED FORMĐGHAIN WITH JEEM ISOLATED FORMěMEEM ISOLATED FORMĐFEH W",
    "ITH JEEM ISOLATED FORMęHAH ISOLATED FORMęKHAH ISOLATED FORMęMEEM ISOLATED FORMęALEF MAKSURA ISOL",
    "ATED FORMęYEH ISOLATED FORMĐQAF WITH HAH ISOLATED FORMęMEEM ISOLATED FORMęALEF MAKSURA ISOLATED ",
    "FORMęYEH ISOLATED FORMĐKAF WITH ALEF ISOLATED FORMęJEEM ISOLATED FORMęHAH ISOLATED FORMęKHAH ISO",
    "LATED FORMęLAM ISOLATED FORMęMEEM ISOLATED FORMęALEF MAKSURA ISOLATED FORMęYEH ISOLATED FORMĐLAM",
    " WITH JEEM ISOLATED FORMęHAH ISOLATED FORMęKHAH ISOLATED FORMęMEEM ISOLATED FORMęALEF MAKSURA IS",
    "OLATED FORMęYEH ISOLATED FORMĐMEEM WITH JEEM ISOLATED FORMĚHAH ISOLATED FORMĚKHAH ISOLATED FORMĚ",
    "MEEM ISOLATED FORMĚALEF MAKSURA ISOLATED FORMĚYEH ISOLATED FORMĐNOON WITH JEEM ISOLATED FORMĚHAH",
    " ISOLATED FORMĚKHAH ISOLATED FORMĚMEEM ISOLATED FORMĚALEF MAKSURA ISOLATED FORMĚYEH ISOLATED FOR",
    "MĐHEH WITH JEEM ISOLATED FORMęMEEM ISOLATED FORMęALEF MAKSURA ISOLATED FORMęYEH ISOLATED FORMĐYE",
    "H WITH JEEM ISOLATED FORMęHAH ISOLATED FORMęKHAH ISOLATED FORMęMEEM ISOLATED FORMęALEF MAKSURA I",
    "SOLATED FORMęYEH ISOLATED FORMĐTHAL WITH SUPERSCRIPT ALEF ISOLATED FORMĐREH WITH SUPERSCRIPT ALE",
    "F ISOLATED FORMĐALEF MAKSURA WITH SUPERSCRIPT ALEF ISOLATED FORMĐSHADDA WITH DAMMATAN ISOLATED F",
    "ORMĜKASRATAN ISOLATED FORMĜFATHA ISOLATED FORMĜDAMMA ISOLATED FORMĜKASRA ISOLATED FORMĜSUPERSCRI",
    "PT ALEF ISOLATED FORMĐYEH WITH HAMZA ABOVE WITH REH FINAL FORMĪZAIN FINAL FORMĪMEEM FINAL FORMĪN",
    "OON FINAL FORMĪALEF MAKSURA FINAL FORMĪYEH FINAL FORMĐBEH WITH REH FINAL FORMęZAIN FINAL FORMęME",
    "EM FINAL FORMęNOON FINAL FORMęALEF MAKSURA FINAL FORMęYEH FINAL FORMĐTEH WITH REH FINAL FORMęZAI",
    "N FINAL FORMęMEEM FINAL FORMęNOON FINAL FORMęALEF MAKSURA FINAL FORMęYEH FINAL FORMđHEH WITH REH",
    " FINAL FORMĚZAIN FINAL FORMĚMEEM FINAL FORMĚNOON FINAL FORMĚALEF MAKSURA FINAL FORMĚYEH FINAL FO",
    "RMĐFEH WITH ALEF MAKSURA FINAL FORMęYEH FINAL FORMĐQAF WITH ALEF MAKSURA FINAL FORMęYEH FINAL FO",
    "RMĐKAF WITH ALEF FINAL FORMęLAM FINAL FORMęMEEM FINAL FORMęALEF MAKSURA FINAL FORMęYEH FINAL FOR",
    "MĐLAM WITH MEEM FINAL FORMęALEF MAKSURA FINAL FORMęYEH FINAL FORMĐMEEM WITH ALEF FINAL FORMĚMEEM",
    " FINAL FORMĐNOON WITH REH FINAL FORMĚZAIN FINAL FORMĚMEEM FINAL FORMĚNOON FINAL FORMĚALEF MAKSUR",
    "A FINAL FORMĚYEH FINAL FORMĐALEF MAKSURA WITH SUPERSCRIPT ALEF FINAL FORMĐYEH WITH REH FINAL FOR",
    "MęZAIN FINAL FORMęMEEM FINAL FORMęNOON FINAL FORMęALEF MAKSURA FINAL FORMęYEH FINAL FORMęHAMZA A",
    "BOVE WITH JEEM INITIAL FORMĪHAH INITIAL FORMĪKHAH INITIAL FORMĪMEEM INITIAL FORMĪHEH INITIAL FOR",
    "MĐBEH WITH JEEM INITIAL FORMęHAH INITIAL FORMęKHAH INITIAL FORMęMEEM INITIAL FORMęHEH INITIAL FO",
    "RMĐTEH WITH JEEM INITIAL FORMęHAH INITIAL FORMęKHAH INITIAL FORMęMEEM INITIAL FORMęHEH INITIAL F",
    "ORMđHEH WITH MEEM INITIAL FORMĐJEEM WITH HAH INITIAL FORMĚMEEM INITIAL FORMĐHAH WITH JEEM INITIA",
    "L FORMęMEEM INITIAL FORMĐKHAH WITH JEEM INITIAL FORMĚMEEM INITIAL FORMĐSEEN WITH JEEM INITIAL FO",
    "RMĚHAH INITIAL FORMĚKHAH INITIAL FORMĚMEEM INITIAL FORMđAD WITH HAH INITIAL FORMęKHAH INITIAL FO",
    "RMęMEEM INITIAL FORMĐDAD WITH JEEM INITIAL FORMęHAH INITIAL FORMęKHAH INITIAL FORMęMEEM INITIAL ",
    "FORMĐTAH WITH HAH INITIAL FORMĐZAH WITH MEEM INITIAL FORMĐAIN WITH JEEM INITIAL FORMęMEEM INITIA",
    "L FORMĐGHAIN WITH JEEM INITIAL FORMěMEEM INITIAL FORMĐFEH WITH JEEM INITIAL FORMęHAH INITIAL FOR",
    "MęKHAH INITIAL FORMęMEEM INITIAL FORMĐQAF WITH HAH INITIAL FORMęMEEM INITIAL FORMĐKAF WITH JEEM ",
    "INITIAL FORMęHAH INITIAL FORMęKHAH INITIAL FORMęLAM INITIAL FORMęMEEM INITIAL FORMĐLAM WITH JEEM",
    " INITIAL FORMęHAH INITIAL FORMęKHAH INITIAL FORMęMEEM INITIAL FORMęHEH INITIAL FORMĐMEEM WITH JE",
    "EM INITIAL FORMĚHAH INITIAL FORMĚKHAH INITIAL FORMĚMEEM INITIAL FORMĐNOON WITH JEEM INITIAL FORM",
    "ĚHAH INITIAL FORMĚKHAH INITIAL FORMĚMEEM INITIAL FORMĚHEH INITIAL FORMĐHEH WITH JEEM INITIAL FOR",
    "MęMEEM INITIAL FORMęSUPERSCRIPT ALEF INITIAL FORMĐYEH WITH JEEM INITIAL FORMęHAH INITIAL FORMęKH",
    "AH INITIAL FORMęMEEM INITIAL FORMęHEH INITIAL FORMĚAMZA ABOVE WITH MEEM MEDIAL FORMĪHEH MEDIAL F"],
  String.join [
    "ORMĐBEH WITH MEEM MEDIAL FORMęHEH MEDIAL FORMĐTEH WITH MEEM MEDIAL FORMęHEH MEDIAL FORMđHEH WITH",
    " MEEM MEDIAL FORMĚHEH MEDIAL FORMĐSEEN WITH MEEM MEDIAL FORMĚHEH MEDIAL FORMđHEEN WITH MEEM MEDI",
    "AL FORMěHEH MEDIAL FORMĐKAF WITH LAM MEDIAL FORMęMEEM MEDIAL FORMĐLAM WITH MEEM MEDIAL FORMĐNOON",
    " WITH MEEM MEDIAL FORMĚHEH MEDIAL FORMĐYEH WITH MEEM MEDIAL FORMęHEH MEDIAL FORMĐSHADDA WITH FAT",
    "HA MEDIAL FORMĜDAMMA MEDIAL FORMĜKASRA MEDIAL FORMĐTAH WITH ALEF MAKSURA ISOLATED FORMęYEH ISOLA",
    "TED FORMĐAIN WITH ALEF MAKSURA ISOLATED FORMęYEH ISOLATED FORMĐGHAIN WITH ALEF MAKSURA ISOLATED ",
    "FORMěYEH ISOLATED FORMĐSEEN WITH ALEF MAKSURA ISOLATED FORMĚYEH ISOLATED FORMđHEEN WITH ALEF MAK",
    "SURA ISOLATED FORMěYEH ISOLATED FORMĐHAH WITH ALEF MAKSURA ISOLATED FORMęYEH ISOLATED FORMĐJEEM ",
    "WITH ALEF MAKSURA ISOLATED FORMĚYEH ISOLATED FORMĐKHAH WITH ALEF MAKSURA ISOLATED FORMĚYEH ISOLA",
    "TED FORMĐSAD WITH ALEF MAKSURA ISOLATED FORMęYEH ISOLATED FORMĐDAD WITH ALEF MAKSURA ISOLATED FO",
    "RMęYEH ISOLATED FORMĐSHEEN WITH JEEM ISOLATED FORMěHAH ISOLATED FORMěKHAH ISOLATED FORMěMEEM ISO",
    "LATED FORMěREH ISOLATED FORMđEEN WITH REH ISOLATED FORMđAD WITH REH ISOLATED FORMĐDAD WITH REH I",
    "SOLATED FORMĐTAH WITH ALEF MAKSURA FINAL FORMęYEH FINAL FORMĐAIN WITH ALEF MAKSURA FINAL FORMęYE",
    "H FINAL FORMĐGHAIN WITH ALEF MAKSURA FINAL FORMěYEH FINAL FORMĐSEEN WITH ALEF MAKSURA FINAL FORM",
    "ĚYEH FINAL FORMđHEEN WITH ALEF MAKSURA FINAL FORMěYEH FINAL FORMĐHAH WITH ALEF MAKSURA FINAL FOR",
    "MęYEH FINAL FORMĐJEEM WITH ALEF MAKSURA FINAL FORMĚYEH FINAL FORMĐKHAH WITH ALEF MAKSURA FINAL F",
    "ORMĚYEH FINAL FORMĐSAD WITH ALEF MAKSURA FINAL FORMęYEH FINAL FORMĐDAD WITH ALEF MAKSURA FINAL F",
    "ORMęYEH FINAL FORMĐSHEEN WITH JEEM FINAL FORMěHAH FINAL FORMěKHAH FINAL FORMěMEEM FINAL FORMěREH",
    " FINAL FORMđEEN WITH REH FINAL FORMđAD WITH REH FINAL FORMĐDAD WITH REH FINAL FORMĐSHEEN WITH JE",
    "EM INITIAL FORMěHAH INITIAL FORMěKHAH INITIAL FORMěMEEM INITIAL FORMđEEN WITH HEH INITIAL FORMđH",
    "EEN WITH HEH INITIAL FORMĐTAH WITH MEEM INITIAL FORMĐSEEN WITH JEEM MEDIAL FORMĚHAH MEDIAL FORMĚ",
    "KHAH MEDIAL FORMđHEEN WITH JEEM MEDIAL FORMěHAH MEDIAL FORMěKHAH MEDIAL FORMĐTAH WITH MEEM MEDIA",
    "L FORMĐZAH WITH MEEM MEDIAL FORMĐALEF WITH FATHATAN FINAL FORMģISOLATED FORMĀORNATE LEFT PARENTH",
    "ESISćRIGHT PARENTHESISĀARABIC LIGATURE RAHIMAHU ALLAAHĒDI ALLAAHU ANHĠAAĠUMĢAAġNNAĐSALLALLAAHU A",
    "LAYHI WA-AALIHĐALAYHI AS-SALAAMĖM AS-SALAAMėAA AS-SALAAMĖ AS-SALAATU WAS-SALAAMĐQUDDISA SIRRAHĐS",
    "ALLALLAHU ALAYHI WAAALIHEE WA-SALLAMĐALAYHAA AS-SALAAMĐTABAARAKA WA-TAAALAAĐRAHIMAHUM ALLAAHĐTEH",
    " WITH JEEM WITH MEEM INITIAL FORMęHAH WITH JEEM FINAL FORMħINITIAL FORMĢMEEM INITIAL FORMęKHAH W",
    "ITH MEEM INITIAL FORMęMEEM WITH JEEM INITIAL FORMģHAH INITIAL FORMģKHAH INITIAL FORMĐJEEM WITH M",
    "EEM WITH HAH FINAL FORMĨINITIAL FORMĐHAH WITH MEEM WITH YEH FINAL FORMģALEF MAKSURA FINAL FORMĐS",
    "EEN WITH HAH WITH JEEM INITIAL FORMĚJEEM WITH HAH INITIAL FORMĤALEF MAKSURA FINAL FORMĚMEEM WITH",
    " HAH FINAL FORMĨINITIAL FORMĤJEEM INITIAL FORMĤMEEM FINAL FORMĩINITIAL FORMđAD WITH HAH WITH HAH",
    " FINAL FORMĦINITIAL FORMęMEEM WITH MEEM FINAL FORMđHEEN WITH HAH WITH MEEM FINAL FORMĩINITIAL FO",
    "RMěJEEM WITH YEH FINAL FORMěMEEM WITH KHAH FINAL FORMĪINITIAL FORMĥMEEM FINAL FORMĪINITIAL FORMĐ",
    "DAD WITH HAH WITH ALEF MAKSURA FINAL FORMęKHAH WITH MEEM FINAL FORMĨINITIAL FORMĐTAH WITH MEEM W",
    "ITH HAH FINAL FORMħINITIAL FORMģMEEM INITIAL FORMģYEH FINAL FORMĐAIN WITH JEEM WITH MEEM FINAL F",
    "ORMęMEEM WITH MEEM FINAL FORMĨINITIAL FORMģALEF MAKSURA FINAL FORMĐGHAIN WITH MEEM WITH MEEM FIN",
    "AL FORMĥYEH FINAL FORMĥALEF MAKSURA FINAL FORMĐFEH WITH KHAH WITH MEEM FINAL FORMĨINITIAL FORMĐQ",
    "AF WITH MEEM WITH HAH FINAL FORMģMEEM FINAL FORMĐLAM WITH HAH WITH MEEM FINAL FORMĢYEH FINAL FOR",
    "MĢALEF MAKSURA FINAL FORMęJEEM WITH JEEM INITIAL FORMĨFINAL FORMęKHAH WITH MEEM FINAL FORMĨINITI",
    "AL FORMęMEEM WITH HAH FINAL FORMħINITIAL FORMĐMEEM WITH HAH WITH JEEM INITIAL FORMģMEEM INITIAL ",
    "FORMģYEH FINAL FORMĚJEEM WITH HAH INITIAL FORMĤMEEM INITIAL FORMĚKHAH WITH JEEM INITIAL FORMĤMEE",
    "M INITIAL FORM@FD92ĚJEEM WITH KHAH INITIAL FORMĐHEH WITH MEEM WITH JEEM INITIAL FORMģMEEM INITIA",
    "L FORMĐNOON WITH HAH WITH MEEM INITIAL FORMģALEF MAKSURA FINAL FORMĚJEEM WITH MEEM FINAL FORMĩIN",
    "ITIAL FORMĤALEF MAKSURA FINAL FORMĚMEEM WITH YEH FINAL FORMĤALEF MAKSURA FINAL FORMĐYEH WITH MEE",
    "M WITH MEEM FINAL FORMĨINITIAL FORMĐBEH WITH KHAH WITH YEH FINAL FORMĐTEH WITH JEEM WITH YEH FIN",
    "AL FORMģALEF MAKSURA FINAL FORMęKHAH WITH YEH FINAL FORMģALEF MAKSURA FINAL FORMęMEEM WITH YEH F",
    "INAL FORMģALEF MAKSURA FINAL FORMĐJEEM WITH MEEM WITH YEH FINAL FORMĚHAH WITH ALEF MAKSURA FINAL",
    " FORMĚMEEM WITH ALEF MAKSURA FINAL FORMĐSEEN WITH KHAH WITH ALEF MAKSURA FINAL FORMđAD WITH HAH ",
    "WITH YEH FINAL FORMđHEEN WITH HAH WITH YEH FINAL FORMĐDAD WITH HAH WITH YEH FINAL FORMĐLAM WITH ",
    "JEEM WITH YEH FINAL FORMęMEEM WITH YEH FINAL FORMĐYEH WITH HAH WITH YEH FINAL FORMęJEEM WITH YEH",
    " FINAL FORMęMEEM WITH YEH FINAL FORMĐMEEM WITH MEEM WITH YEH FINAL FORMĐQAF WITH MEEM WITH YEH F",
    "INAL FORMĐNOON WITH HAH WITH YEH FINAL FORMĐQAF WITH MEEM WITH HAH INITIAL FORMĐLAM WITH HAH WIT",
    "H MEEM INITIAL FORMĐAIN WITH MEEM WITH YEH FINAL FORMĐKAF WITH MEEM WITH YEH FINAL FORMĐNOON WIT",
    "H JEEM WITH HAH INITIAL FORMĐMEEM WITH KHAH WITH YEH FINAL FORMĐLAM WITH JEEM WITH MEEM INITIAL ",
    "FORMĐKAF WITH MEEM WITH MEEM FINAL FORMĐLAM WITH JEEM WITH MEEM FINAL FORMĐNOON WITH JEEM WITH H",
    "AH FINAL FORMĐJEEM WITH HAH WITH YEH FINAL FORMĐHAH WITH JEEM WITH YEH FINAL FORMĐMEEM WITH JEEM",
    " WITH YEH FINAL FORMĐFEH WITH MEEM WITH YEH FINAL FORMĐBEH WITH HAH WITH YEH FINAL FORMĐKAF WITH",
    " MEEM WITH MEEM INITIAL FORMĐAIN WITH JEEM WITH MEEM INITIAL FORMĐSAD WITH MEEM WITH MEEM INITIA",
    "L FORMđEEN WITH KHAH WITH YEH FINAL FORMĐNOON WITH JEEM WITH YEH FINAL FORM@FDCFĐSALAAMUHU ALAYN",
    "AA@FDF0ēLA USED AS KORANIC STOP SIGN ISOLATED FORMĐQALA USED AS KORANIC STOP SIGN ISOLATED FORMĐ",
    "ALLAH ISOLATED FORMđKBAR ISOLATED FORMĐMOHAMMAD ISOLATED FORMĐSALAM ISOLATED FORMĐRASOUL ISOLATE",
    "D FORMĐALAYHE ISOLATED FORMĐWASALLAM ISOLATED FORMĐSALLA ISOLATED FORMĕLLAHOU ALAYHE WASALLAMĐJA",
    "LLAJALALOUHOUĀRIAL SIGNĀARABIC LIGATURE BISMILLAH AR-RAHMAN AR-RAHEEMĐSUBHAANAHU WA TAAALAAĐAZZA",
    " WA JALLĀVARIATION SELECTOR-1ē2ē3ē4ē5ē6ē7ē8ē9ē10Ĕ1Ĕ2Ĕ3Ĕ4Ĕ5Ĕ6ĀPRESENTATION FORM FOR VERTICAL COMM",
    "AğIDEOGRAPHIC COMMAīFULL STOPğCOLONğSEMICOLONğEXCLAMATION MARKğQUESTION MARKğLEFT WHITE LENTICUL",
    "AR BRACKETğRIGHT WHITE LENTICULAR BRAKCETğHORIZONTAL ELLIPSIS@FE20ĀCOMBINING LIGATURE LEFT HALFē",
    "RIGHT HALFĊDOUBLE TILDE LEFT HALFėRIGHT HALFĊMACRON LEFT HALFđRIGHT HALFĊCONJOINING MACRONĊLIGAT",
    "URE LEFT HALF BELOWēRIGHT HALF BELOWĊTILDE LEFT HALF BELOWĐRIGHT HALF BELOWĊMACRON LEFT HALF BEL",
    "OWđRIGHT HALF BELOWĊCONJOINING MACRON BELOWċYRILLIC TITLO LEFT HALFęRIGHT HALFĀPRESENTATION FORM",
    " FOR VERTICAL TWO DOT LEADERğEM DASHĠN DASHğLOW LINEğWAVY LOW LINEğLEFT PARENTHESISğRIGHT PARENT",
    "HESISğLEFT CURLY BRACKETğRIGHT CURLY BRACKETğLEFT TORTOISE SHELL BRACKETğRIGHT TORTOISE SHELL BR",
    "ACKETğLEFT BLACK LENTICULAR BRACKETğRIGHT BLACK LENTICULAR BRACKETğLEFT DOUBLE ANGLE BRACKETğRIG",
    "HT DOUBLE ANGLE BRACKETğLEFT ANGLE BRACKETğRIGHT ANGLE BRACKETğLEFT CORNER BRACKETğRIGHT CORNER ",
    "BRACKETğLEFT WHITE CORNER BRACKETğRIGHT WHITE CORNER BRACKETĀSESAME DOTĀWHITE SESAME DOTĀPRESENT",
    "ATION FORM FOR VERTICAL LEFT SQUARE BRACKETğRIGHT SQUARE BRACKETĀDASHED OVERLINEĀCENTRELINE OVER",
    "LINEĀWAVY OVERLINEĀDOUBLE WAVY OVERLINEāASHED LOW LINEĀCENTRELINE LOW LINEĀWAVY LOW LINEĀSMALL C",
    "OMMAĆIDEOGRAPHIC COMMAĆFULL STOP@FE54ĆSEMICOLONĆCOLONĆQUESTION MARKĆEXCLAMATION MARKćM DASHĆLEFT",
    " PARENTHESISĆRIGHT PARENTHESISĆLEFT CURLY BRACKETĆRIGHT CURLY BRACKETĆLEFT TORTOISE SHELL BRACKE",
    "TĆRIGHT TORTOISE SHELL BRACKETĆNUMBER SIGNĆAMPERSANDćSTERISKĆPLUS SIGNĆHYPHEN-MINUSĆLESS-THAN SI",
    "GNĆGREATER-THAN SIGNĆEQUALS SIGN@FE68ĆREVERSE SOLIDUSĆDOLLAR SIGNĆPERCENT SIGNĆCOMMERCIAL AT@FE7",
    "0ĀARABIC FATHATAN ISOLATED FORMćTATWEEL WITH FATHATAN ABOVEćDAMMATAN ISOLATED FORMćTAIL FRAGMENT",
    "ćKASRATAN ISOLATED FORM@FE76ćFATHA ISOLATED FORMčMEDIAL FORMćDAMMA ISOLATED FORMčMEDIAL FORMćKAS",
    "RA ISOLATED FORMčMEDIAL FORMćSHADDA ISOLATED FORMĎMEDIAL FORMĈUKUN ISOLATED FORMčMEDIAL FORMćLET",
    "TER HAMZA ISOLATED FORMĎALEF WITH MADDA ABOVE ISOLATED FORMĤFINAL FORMĘHAMZA ABOVE ISOLATED FORM",
    "ĤFINAL FORMĎWAW WITH HAMZA ABOVE ISOLATED FORMģFINAL FORMĎALEF WITH HAMZA BELOW ISOLATED FORMĤFI",
    "NAL FORMĎYEH WITH HAMZA ABOVE ISOLATED FORMģFINAL FORMģINITIAL FORMģMEDIAL FORMĎALEF ISOLATED FO",
    "RMēFINAL FORMĎBEH ISOLATED FORMĒFINAL FORMĒINITIAL FORMĒMEDIAL FORMĎTEH MARBUTA ISOLATED FORMĚFI",
    "NAL FORMĒISOLATED FORMĒFINAL FORMĒINITIAL FORMĒMEDIAL FORMďHEH ISOLATED FORMēFINAL FORMēINITIAL ",
    "FORMēMEDIAL FORMĎJEEM ISOLATED FORMēFINAL FORMēINITIAL FORMēMEDIAL FORMĎHAH ISOLATED FORMĒFINAL ",
    "FORMĒINITIAL FORMĒMEDIAL FORMĎKHAH ISOLATED FORMēFINAL FORMēINITIAL FORMēMEDIAL FORMĎDAL ISOLATE",
    "D FORMĒFINAL FORMĎTHAL ISOLATED FORMēFINAL FORMĎREH ISOLATED FORMĒFINAL FORMĎZAIN ISOLATED FORMē",
    "FINAL FORMĎSEEN ISOLATED FORMēFINAL FORMēINITIAL FORMēMEDIAL FORMďHEEN ISOLATED FORMĔFINAL FORMĔ",
    "INITIAL FORMĔMEDIAL FORMďAD ISOLATED FORMĒFINAL FORMĒINITIAL FORMĒMEDIAL FORMĎDAD ISOLATED FORMĒ",
    "FINAL FORMĒINITIAL FORMĒMEDIAL FORMĎTAH ISOLATED FORMĒFINAL FORMĒINITIAL FORMĒMEDIAL FORMĎZAH IS",
    "OLATED FORMĒFINAL FORMĒINITIAL FORMĒMEDIAL FORMĎAIN ISOLATED FORMĒFINAL FORMĒINITIAL FORMĒMEDIAL",
    " FORMĎGHAIN ISOLATED FORMĔFINAL FORMĔINITIAL FORMĔMEDIAL FORMĎFEH ISOLATED FORMĒFINAL FORMĒINITI",
    "AL FORMĒMEDIAL FORMĎQAF ISOLATED FORMĒFINAL FORMĒINITIAL FORMĒMEDIAL FORMĎKAF ISOLATED FORMĒFINA",
    "L FORMĒINITIAL FORMĒMEDIAL FORMĎLAM ISOLATED FORMĒFINAL FORMĒINITIAL FORMĒMEDIAL FORMĎMEEM ISOLA",
    "TED FORMēFINAL FORMēINITIAL FORMēMEDIAL FORMĎNOON ISOLATED FORMēFINAL FORMēINITIAL FORMēMEDIAL F",
    "ORMĎHEH ISOLATED FORMĒFINAL FORMĒINITIAL FORMĒMEDIAL FORMĎWAW ISOLATED FORMĒFINAL FORMĎALEF MAKS"],
  String.join [
    "URA ISOLATED FORMěFINAL FORMĎYEH ISOLATED FORMĒFINAL FORMĒINITIAL FORMĒMEDIAL FORMĈIGATURE LAM W",
    "ITH ALEF WITH MADDA ABOVE ISOLATED FORMįFINAL FORMģHAMZA ABOVE ISOLATED FORMįFINAL FORMĩBELOW IS",
    "OLATED FORMįFINAL FORMĞISOLATED FORMĞFINAL FORM@FEFFĀZERO WIDTH NO-BREAK SPACE@FF01ĀFULLWIDTH EX",
    "CLAMATION MARKĊQUOTATION MARKĊNUMBER SIGNĊDOLLAR SIGNĊPERCENT SIGNĊAMPERSANDċPOSTROPHEĊLEFT PARE",
    "NTHESISĊRIGHT PARENTHESISĊASTERISKĊPLUS SIGNĊCOMMAĊHYPHEN-MINUSĊFULL STOPĊSOLIDUSĊDIGIT ZEROĐONE",
    "ĐTWOđHREEĐFOURđIVEĐSIXđEVENĐEIGHTĐNINEĊCOLONĊSEMICOLONĊLESS-THAN SIGNĊEQUALS SIGNĊGREATER-THAN S",
    "IGNĊQUESTION MARKĊCOMMERCIAL ATĊLATIN CAPITAL LETTER AğBğCğDğEğFğGğHğIğJğKğLğMğNğOğPğQğRğSğTğUğV",
    "ğWğXğYğZċEFT SQUARE BRACKETĊREVERSE SOLIDUSċIGHT SQUARE BRACKETĊCIRCUMFLEX ACCENTĊLOW LINEĊGRAVE",
    " ACCENTĊLATIN SMALL LETTER AĝBĝCĝDĝEĝFĝGĝHĝIĝJĝKĝLĝMĝNĝOĝPĝQĝRĝSĝTĝUĝVĝWĝXĝYĝZċEFT CURLY BRACKET",
    "ĊVERTICAL LINEĊRIGHT CURLY BRACKETĊTILDEĊLEFT WHITE PARENTHESISĊRIGHT WHITE PARENTHESISĀHALFWIDT",
    "H IDEOGRAPHIC FULL STOPĊLEFT CORNER BRACKETĊRIGHT CORNER BRACKETĊIDEOGRAPHIC COMMAĊKATAKANA MIDD",
    "LE DOTēLETTER WOĚSMALL AĠIĠUĠEĠOĠYAġUġOĠTUĒ-HIRAGANA PROLONGED SOUND MARKĒ LETTER AĚIĚUĚEĚOĚKAěI",
    "ěUěEěOĚSAěIěUěEěOĚTAěIěUěEěOĚNAěIěUěEěOĚHAěIěUěEěOĚMAěIěUěEěOĚYAěUěOĚRAěIěUěEěOĚWAĚNēVOICED SOUN",
    "D MARKēSEMI-VOICED SOUND MARKĊHANGUL FILLERđLETTER KIYEOKĘSSANGKIYEOKĘKIYEOK-SIOSĘNIEUNĝ-CIEUCĞH",
    "IEUHĘTIKEUTĘSSANGTIKEUTĘRIEULĝ-KIYEOKĞMIEUMĞPIEUPĞSIOSĞTHIEUTHĞPHIEUPHĞHIEUHĘMIEUMĘPIEUPĘSSANGPI",
    "EUPĘPIEUP-SIOSĘSIOSęSANGSIOSĘIEUNGĘCIEUCĘSSANGCIEUCĘCHIEUCHĘKHIEUKHĘTHIEUTHĘPHIEUPHĘHIEUH@FFC2ĘA",
    "ęEĘYAĚEĘEOę@FFCAĘYEOĚĘOĘWAĚEĘOE@FFD2ĘYOĘUĘWEOĚęIĘYU@FFDAĘEUĘYIĘI@FFE0ĀFULLWIDTH CENT SIGNĊPOUND ",
    "SIGNĊNOT SIGNĊMACRONĊBROKEN BARĊYEN SIGNĊWON SIGN@FFE8ĀHALFWIDTH FORMS LIGHT VERTICALĊLEFTWARDS ",
    "ARROWĊUPWARDS ARROWĊRIGHTWARDS ARROWĊDOWNWARDS ARROWĊBLACK SQUAREĊWHITE CIRCLE@FFF9ĀINTERLINEAR ",
    "ANNOTATION ANCHORėSEPARATORėTERMINATORĀOBJECT REPLACEMENT CHARACTERĀREPLACEMENT CHARACTER@10000Ā",
    "LINEAR B SYLLABLE B008 AĔ38 EĔ28 IĔ61 OĔ10 UĔ01 DAĔ45 DEĔ07 DIĔ14 DOĔ51 DUĕ7 JAĔ46 JE@1000DĔ36 J",
    "OĔ65 JUĔ77 KAĔ44 KEĔ67 KIĔ70 KOĔ81 KUĕ0 MAĔ13 MEĔ73 MIĔ15 MOĔ23 MUĔ06 NAĔ24 NEĔ30 NIĔ52 NOĕ5 NUĔ",
    "03 PAĔ72 PEĔ39 PIĔ11 POĔ50 PUĔ16 QAĔ78 QEĔ21 QIĔ32 QO@10028Ĕ60 RAĔ27 REĔ53 RIĔ02 ROĔ26 RUĔ31 SAĔ",
    "09 SEĔ41 SIĔ12 SOĔ58 SUĕ9 TAĔ04 TEĔ37 TIĔ05 TOĔ69 TUĔ54 WAĔ75 WEĔ40 WIĕ2 WO@1003CĔ17 ZAĔ74 ZE@10",
    "03FĔ20 ZOĕ5 A2Ĕ43 A3Ĕ85 AUĔ71 DWEĔ90 DWOĔ48 NWAĔ29 PU2Ĕ62 PTEĔ76 RA2Ĕ33 RA3Ĕ68 RO2ĕ6 TA2Ĕ87 TWEĔ",
    "91 TWO@10050ċMBOL B018ē9Ē22Ē34Ē47ē9Ē56Ē63ē4Ē79Ē82ē3ē6ē9@10080ĉIDEOGRAM B100 MANĕ2 WOMANĕ4 DEERĕ5",
    " EQUIDĖF MAREĖM STALLIONĕ6F EWEĖM RAMĕ7F SHE-GOATĖM HE-GOATĕ8F SOWĖM BOARĕ9F COWĖM BULLĔ20 WHEAT",
    "ĕ1 BARLEYĕ2 OLIVEĕ3 SPICEĕ5 CYPERUSĉMONOGRAM B127 KAPOĕ8 KANAKOĉIDEOGRAM B130 OILĕ1 WINEĕ2ĉMONOG",
    "RAM B133 AREPAĕ5 MERIĉIDEOGRAM B140 BRONZEĕ1 GOLDĕ2ĕ5 WOOLĕ6Ĕ50ĕ1 HORNĕ2ĕ3ĕ4ĉMONOGRAM B156 TURO2",
    "ĉIDEOGRAM B157ĕ8ĕ9 CLOTHĔ60ĕ1ĕ2 GARMENTĕ3 ARMOURĕ4ĕ5ĕ6ĕ7ĕ8ĕ9Ĕ70ĕ1ĕ2ĕ3 MONTHĕ4ĕ6 TREEĕ7ĕ8ĕ9Ĕ80ĕ1ĕ",
    "2ĕ3ĕ4ĕ5ĕ9Ĕ90ĕ1 HELMETē220 FOOTSTOOLĕ5 BATHTUBĔ30 SPEARĕ1 ARROWĕ2ĕ3 SWORDĕ4ĕ6Ĕ40 WHEELED CHARIOTĕ",
    "1 CHARIOTĕ2 CHARIOT FRAMEĕ3 WHEELĕ5ĕ6ĉMONOGRAM B247 DIPTEĉIDEOGRAM B248ĕ9Ĕ51ĕ2ĕ3ĕ4 DARTĕ5ĕ6ĕ7ĕ8ĕ",
    "9ĒVESSEL B155Ě200Ĝ1Ĝ2Ĝ3Ĝ4Ĝ5Ĝ6Ĝ7Ĝ8Ĝ9ě10Ĝ1Ĝ2Ĝ3Ĝ4Ĝ5Ĝ6Ĝ7Ĝ8Ĝ9ě21Ĝ2Ĝ6Ĝ7Ĝ8Ĝ9ě50Ě305@10100ĀAEGEAN WORD S",
    "EPARATOR LINEĖDOTćCHECK MARK@10107ćNUMBER ONEĎTWOďHREEĎFOURďIVEĎSIXďEVENĎEIGHTĎNINEĎTENďWENTYďHI",
    "RTYĎFORTYďIFTYĎSIXTYďEVENTYĎEIGHTYĎNINETYĎONE HUNDREDĎTWO HUNDREDďHREE HUNDREDĎFOUR HUNDREDďIVE ",
    "HUNDREDĎSIX HUNDREDďEVEN HUNDREDĎEIGHT HUNDREDĎNINE HUNDREDĎONE THOUSANDĎTWO THOUSANDďHREE THOUS",
    "ANDĎFOUR THOUSANDďIVE THOUSANDĎSIX THOUSANDďEVEN THOUSANDĎEIGHT THOUSANDĎNINE THOUSANDĎTEN THOUS",
    "ANDďWENTY THOUSANDďHIRTY THOUSANDĎFORTY THOUSANDďIFTY THOUSANDĎSIXTY THOUSANDďEVENTY THOUSANDĎEI",
    "GHTY THOUSANDĎNINETY THOUSAND@10137ćWEIGHT BASE UNITĎFIRST SUBUNITĎSECOND SUBUNITĎTHIRD SUBUNITĎ",
    "FOURTH SUBUNITćDRY MEASURE FIRST SUBUNITćLIQUID MEASURE FIRST SUBUNITćMEASURE SECOND SUBUNITďTHI",
    "RD SUBUNITĀGREEK ACROPHONIC ATTIC ONE QUARTERěHALFěDRACHMAėFIVEęFTYęVE HUNDREDĜTHOUSANDęFTY THOU",
    "SANDęVE TALENTSėTEN TALENTSėFIFTY TALENTSėONE HUNDRED TALENTSėFIVE HUNDRED TALENTSėONE THOUSAND ",
    "TALENTSėFIVE THOUSAND TALENTSĜSTATERSėTEN STATERSėFIFTY STATERSėONE HUNDRED STATERSėFIVE HUNDRED",
    " STATERSėONE THOUSAND STATERSėTEN THOUSAND STATERSėFIFTY THOUSAND STATERSėTEN MNASđHERAEUM ONE P",
    "LETHRONđTHESPIAN ONEđHERMIONIAN ONEđEPIDAUREAN TWOđTHESPIAN TWOđCYRENAIC TWO DRACHMASđEPIDAUREAN",
    " TWO DRACHMASđTROEZENIAN FIVEĜTENğ ALTERNATE FORMđHERMIONIAN TENđMESSENIAN TENđTHESPIAN TENěHIRT",
    "YĒROEZENIAN FIFTYġ ALTERNATE FORMđHERMIONIAN FIFTYđTHESPIAN FIFTYĚONE HUNDREDĚTHREE HUNDREDđEPID",
    "AUREAN FIVE HUNDREDđTROEZENIAN FIVE HUNDREDĒHESPIAN FIVE HUNDREDđCARYSTIAN FIVE HUNDREDđNAXIAN F",
    "IVE HUNDREDđTHESPIAN ONE THOUSANDĚFIVE THOUSANDđDELPHIC FIVE MNASđSTRATIAN FIFTY MNASĆONE HALF S",
    "IGNē ALTERNATE FORMĆTWO THIRDS SIGNćHREE QUARTERS SIGNĆYEAR SIGNĆTALENT SIGNĆDRACHMA SIGNĆOBOL S",
    "IGNĆTWO OBOLS SIGNćHREE OBOLS SIGNĆFOUR OBOLS SIGNćIVE OBOLS SIGNĆMETRETES SIGNĆKYATHOS BASE SIG",
    "NĆLITRA SIGNĆOUNKIA SIGNĆXESTES SIGNĆARTABE SIGNĈOURA SIGNĆGRAMMA SIGNĆTRYBLION BASE SIGNĆZERO S",
    "IGNĆONE QUARTER SIGNĆSINUSOID SIGNĆINDICTION SIGNĀNOMISMA SIGN@10190ĀROMAN SEXTANS SIGNĆUNCIA SI",
    "GNĆSEMUNCIA SIGNĈXTULA SIGNĆDIMIDIA SEXTULA SIGNĆSILIQUA SIGNĆDENARIUS SIGNĆQUINARIUS SIGNĆSESTE",
    "RTIUS SIGNĆDUPONDIUS SIGNĆAS SIGNĆCENTURIAL SIGNĀASCIA SYMBOL@101A0ĀGREEK SYMBOL TAU RHO@101D0ĀP",
    "HAISTOS DISC SIGN PEDESTRIANĔLUMED HEADēTATTOOED HEADēCAPTIVEĔHILDēWOMANēHELMETēGAUNTLETēTIARAēA",
    "RROWēBOWēSHIELDēCLUBēMANACLESĕTTOCKēSAWēLIDēBOOMERANGēCARPENTRY PLANEēDOLIUMēCOMBēSLINGēCOLUMNēB",
    "EEHIVEēSHIPēHORNĔIDEēBULLS LEGēCATēRAMēEAGLEēDOVEēTUNNYēBEEēPLANE TREEēVINEēPAPYRUSēROSETTEēLILY",
    "ēOX BACKēFLUTEēGRATERēSTRAINERĔMALL AXEēWAVY BANDēCOMBINING OBLIQUE STROKE@10280ĀLYCIAN LETTER A",
    "ĎEĎBďHĎGĎDĎIĎWĎZĎTHĎJĎKĎQĎLĎMĎNĎMMĎNNĎUĎPĎKKĎRĎSĎTďTĎANĎENĎHĎX@102A0ĀCARIAN LETTER AĎP2ĎDĎLĎUUUĎ",
    "RĎLDĎA2ĎQĎBĎMĎOĎD2ĎTĎSHĐ2ďĎC-18ĎUĎNNĎXĎNĎTT2ĎPĎSSĎIĎEĎUUUUĎKď2ĎNDĎUUĎGď2ĎSTĐ2ĎNGĎIIĎC-39ĎTTĎUUU2",
    "ĎRRĎMBĐ2Đ3Đ4ĎLD2ĎE2ĎUUU3@102E0āOPTIC EPACT THOUSANDS MARKčDIGIT ONEēTWOĔHREEēFOURĔIVEēSIXĔEVENēE",
    "IGHTēNINEčNUMBER TENĕWENTYĕHIRTYĔFORTYĕIFTYĔSIXTYĕEVENTYĔEIGHTYĔNINETYĔONE HUNDREDĔTWO HUNDREDĕH",
    "REE HUNDREDĔFOUR HUNDREDĕIVE HUNDREDĔSIX HUNDREDĕEVEN HUNDREDĔEIGHT HUNDREDĔNINE HUNDRED@10300ĀO",
    "LD ITALIC LETTER AĒBEĒKEĒDEĒEĒVEĒZEĒHEĒTHEĒIĒKAĒELēMēNēSHĒOĒPEĒSHEĒKUĒERēSĒTEĒUĒEKSĒPHEĒKHEĒEFēR",
    "SĒCHEĒIIĒUUĒESSċNUMERAL ONEēFIVEēTENēFIFTY@1032DċLETTER YEĒNORTHERN TSEĒSOUTHERN TSEĀGOTHIC LETT",
    "ER AHSAĎBAIRKANĎGIBAĎDAGSĎAIHVUSĎQAIRTHRAĎIUJAĎHAGLĎTHIUTHĎEISĎKUSMAĎLAGUSĎMANNAĎNAUTHSĎJERĎURUS",
    "ĎPAIRTHRAĎNINETYĎRAIDAĎSAUILĎTEIWSĎWINJAĎFAIHUĎIGGWSĎHWAIRĎOTHALĎNINE HUNDRED@10350ĀOLD PERMIC L",
    "ETTER ANĒBURĒGAIĒDOIĒEĒZHOIĒDZHOIĒZATAĒDZITAĒIĒKOKEĒLEIĒMENOEĒNENOEĒVOOIĒPEEIĒREIĒSIIĒTAIĒUĒCHER",
    "YĒSHOOIĔCHOOIĒYRYēERUĒOēOĒEFĒHAĒTSIUĒVERĒYERĕIēATĒIEĒYUēAĒIAĀCOMBINING OLD PERMIC LETTER ANĜDOIĜ",
    "ZATAĜNENOEĜSII@10380ĀUGARITIC LETTER ALPAĐBETAĐGAMLAĐKHAĐDELTAĐHOĐWOĐZETAĐHOTAĐTETĐYODĐKAFĐSHINĐ",
    "LAMDAĐMEMĐDHALĐNUNĐZUĐSAMKAĐAINĐPUĐSADEĐQOPAĐRASHAĐTHANNAĐGHAINĐTOĐIĐUĐSSU@1039FĉWORD DIVIDERĀOL",
    "D PERSIAN SIGN AđIđUđKAĒUđGAĒUđXAđCAđJAĒIđTAĒUđDAĒIĒUđTHAđPAđBAđFAđNAĒUđMAĒIĒUđYAđVAĒIđRAĒUđLAđS",
    "AđZAđSHAĒSAđHA@103C8đAURAMAZDAAě-2ěHAđXSHAAYATHIYAđDAHYAAUSHĚ-2đBAGAĒUUMISHČWORD DIVIDERČNUMBER ",
    "ONEēTWOĔENĔWENTYēHUNDRED@10400ĀDESERET CAPITAL LETTER LONG IĜEĜAĝHĜOĝOėSHORT IĝEĝAĞHĝOĞOėAYėOWėW",
    "UėYEEėHėPEEėBEEėTEEėDEEėCHEEėJEEėKAYėGAYėEFėVEEėETHėTHEEėESėZEEėESHėZHEEėERĘLĘMĘNęGėOIėEWĈSMALL ",
    "LETTER LONG IĚEĚAěHĚOěOĕSHORT IěEěAĜHěOĜOĕAYĕOWĕWUĕYEEĕHĕPEEĕBEEĕTEEĕDEEĕCHEEĕJEEĕKAYĕGAYĕEFĕVEE",
    "ĕETHĕTHEEĕESĕZEEĕESHĕZHEEĕERĖLĖMĖNėGĕOIĕEWĀSHAVIAN LETTER PEEPďTOTďKICKďFEEďTHIGHďSOĐUREďCHURCHď",
    "YEAďHUNGďBIBďDEADďGAGďVOWďTHEYďZOOďMEASUREďJUDGEďWOEďHA-HAďLOLLďMIMEďIFďEGGďASHĐDOďONďWOOLďOUTďA",
    "HďROARďNUNďEATďAGEďICEďUPďOAKĐOZEĐILďAWEĐREďORďAIRďERRďARRAYďEARďIANďYEWĀOSMANYA LETTER ALEFďBAď",
    "TAďJAďXAďKHAďDEELďRAďSAĐHIINďDHAďCAYNďGAďFAďQAAFďKAAFďLAANďMIINďNUUNďWAWďHAďYAďAďEďIďOďUďAAďEEďO",
    "O@104A0ĈDIGIT ZEROĎONEĎTWOďHREEĎFOURďIVEĎSIXďEVENĎEIGHTĎNINE@104B0ĂAGE CAPITAL LETTER AĖIėNĖHĕBR",
    "AĕCHAĕEHCHAĖĖINĕHAĖYAĕIĕKAĕEHKAĕKYAĕLAĕMAĕNAĕOĖINĕPAĕEHPAĕSAĖHAĕTAĕEHTAĕTSAĕEHTSAĕTSHAĕDHAĕUĕWAĕ",
    "KHAĕGHAĕZAĖHA@104D8ĆSMALL LETTER AĔIĕNĔHēBRAēCHAēEHCHAĔĔINēHAĔYAēIēKAēEHKAēKYAēLAēMAēNAēOĔINēPAē",
    "EHPAēSAĔHAēTAēEHTAēTSAēEHTSAēTSHAēDHAēUēWAēKHAēGHAēZAĔHA@10500ĀELBASAN LETTER AďBEďCEĐHEďDEďNDEď",
    "DHEďEIĐďFEďGEĐJEďHEďIďJEďKEďLEĐLEďMEďNEĐAĐJEďOďPEďQEďREĐREďSEĐHEďTEĐHEďUďVEďXEďYďZEĐHEďGHEđAMMAď",
    "KHE@10530ĀCAUCASIAN ALBANIAN LETTER ALTĚBETĚGIMĚDATĚEBĚZARLĚEYNĚZHILĚTASĚCHAĚYOWDĚZHAĚIRBĚSHAĚLA",
    "NĚINYAĚXEYNĚDYANĚCARĚJHOXĚKARĚLYITĚHEYTĚQAYĚAORĚCHOYĜIěYAYĚMAQĚQARĚNOWCĚDZYAYĚSHAKĚJAYNĚONĚTYAYĚ",
    "FAMĚDZAYĚCHATĚPENĚGHEYSĚRATĚSEYKĚVEYZĚTIWRĚSHOYĚIWNĚCYAWěAYNĚYAYDĚPIWRĚKIW@1056FēCITATION MARKĀV",
    "ITHKUQI CAPITAL LETTER AĘBBEęEĘCEęHEĘDEęHEĘEIęĘFEĘGA@1057CĘHAęHAĘIęJEĘJEĘKAĘLAęLAĘMEĘNEęJEĘOĘPEĘ",
    "QAĘRE@1058CĘSEęHEĘTEęHEĘUĘVEĘXE@10594ĘYĘZE@10597ĉSMALL LETTER AĖBBEėEĖCEėHEĖDEėHEĖEIėĖFEĖGA@105A",
    "3ĖHAėHAĖIėJEĖJEĖKAĖLAėLAĖMEĖNEėJEĖOĖPEĖQAĖRE@105B3ĖSEėHEĖTEėHEĖUĖVEĖXE@105BBĖYĖZE@10600ĀLINEAR A",
    " SIGN AB001Ē2Ē3Ē4Ē5Ē6Ē7Ē8Ē9đ10Ē1Ē3Ē6Ē7đ20Ē1ēFēMĒ2ēFēMĒ3ēMĒ4Ē6Ē7Ē8ď028BďB029đ30Ē1Ē4Ē7Ē8Ē9đ40Ē1Ē4Ē",
    "5Ē6Ē7Ē8Ē9đ50Ē1Ē3Ē4Ē5Ē6Ē7Ē8Ē9đ60Ē1Ē5Ē6Ē7Ē9đ70Ē3Ē4Ē6Ē7Ē8Ē9đ80Ē1Ē2Ē5Ē6Ē7ď100-102ďB118đ20ď120BďB122Ē",
    "3đ31AēBď131CďB164đ71đ80Ē8đ91ď301đ2đ3đ4đ5đ6đ7đ8đ9AĒBĒCĐ10đ1đ2đ3AĒBĒCđ4đ5đ6đ7đ8đ9Đ20đ1đ2đ3đ4đ5đ6đ7",
    "đ8đ9Đ30đ1đ2đ3đ4đ5đ6đ7đ8đ9Đ40đ1đ2đ3đ4đ5đ6đ7đ8đ9Đ50đ1đ2đ3đ4đ5đ6đ7đ8đ9Đ60đ1đ2đ3đ4đ5đ6đ7đ8đ9Đ70đ1ď40",
    "0-VASđ1-VASđ2-VASđ3-VASđ4-VASđ5-VASđ6-VASđ7-VASđ8-VASđ9-VASĐ10-VASđ1-VASđ2-VASđ3-VASđ4-VASđ5-VAS",
    "đ6-VASđ7-VASđ8-VASď501đ2đ3đ4đ5đ6đ8đ9Đ10đ1đ2đ3đ5đ6Đ20đ1đ3đ4đ5đ6đ7đ8đ9Đ30đ1đ2đ4đ5đ6đ7đ8đ9Đ40đ1đ2đ5",
    "đ7đ8đ9Đ50đ1đ2đ3đ4đ5đ6đ7đ9Đ63đ4đ5đ6đ8đ9Đ70đ1đ2đ3đ4đ5đ6đ7đ8đ9Đ80đ1đ2đ3đ4đ5đ6đ7đ8đ9Đ91đ2đ4đ5đ6đ8ď60",
    "0đ1đ2đ3đ4đ6đ8đ9Đ10đ1đ2đ3đ4đ5đ6đ7đ8đ9Đ20đ1đ2đ3đ4đ6đ7đ8đ9Đ34đ7đ8Đ40đ2đ3đ4đ5đ6đ8đ9Đ51đ2đ3đ4đ5đ6đ7đ8"],
  String.join [
    "đ9Đ60đ1đ2đ3đ4@10740ď701 Ađ2 Bđ3 Dđ4 Eđ5 Fđ6 Hđ7 Jđ8 Kđ9 LĒ-2 L2ē3 L3ē4 L4ē6 L6Đ10 Wđ1 Xđ2 Yđ3 OM",
    "EGAđ4 ABBđ5 BBđ7 DDĐ26 EYYYĐ32 JE@10760ď800đ1đ2đ3đ4đ5đ6đ7@10780ĀMODIFIER LETTER SMALL CAPITAL AA",
    "đUPERSCRIPT TRIANGULAR COLONĜHALF TRIANGULAR COLONđMALL AEĖCAPITAL BĖB WITH HOOK@10787ĖDZ DIGRAP",
    "HĠ WITH RETROFLEX HOOKĦCURLėEZH DIGRAPHė WITH TAILĝHOOKġ AND TAILĖREVERSED EĖCLOSED REVERSED OPE",
    "N EĖFENG DIGRAPHĖRAMS HORNĖCAPITAL GĖG WITH HOOKĖCAPITAL G WITH HOOKĖH WITH STROKEĖCAPITAL HĖHEN",
    "G WITH HOOKĖDOTLESS J WITH STROKE AND HOOKĖLS DIGRAPHėZ DIGRAPHė WITH BELTĖCAPITAL L WITH BELTĖL",
    " WITH RETROFLEX HOOK AND BELTėEZHĚ WITH RETROFLEX HOOKĖTURNED YĞ WITH BELTĖO WITH STROKEĖCAPITAL",
    " OEėLOSED OMEGAĖQĖTURNED R WITH LONG LEGĬ AND RETROFLEX HOOKĖR WITH TAILĝFISHHOOKĖCAPITAL RĖTC D",
    "IGRAPH WITH CURLėS DIGRAPHĠ WITH RETROFLEX HOOKėESH DIGRAPHė WITH RETROFLEX HOOKĖV WITH RIGHT HO",
    "OK@107B2ĖCAPITAL YĐGLOTTAL STOP WITH STROKEĐREVERSED GLOTTAL STOP WITH STROKEĐBILABIAL CLICKĐDEN",
    "TAL CLICKĐLATERAL CLICKĐALVEOLAR CLICKĐRETROFLEX CLICK WITH RETROFLEX HOOKĐSMALL S WITH CURL@108",
    "00ĀCYPRIOT SYLLABLE AđEđIđOđUđJA@10808ĒO@1080AđKAĒEĒIĒOĒUđLAĒEĒIĒOĒUđMAĒEĒIĒOĒUđNAĒEĒIĒOĒUđPAĒEĒ",
    "IĒOĒUđRAĒEĒIĒOĒUđSAĒEĒIĒOĒUđTAĒEĒIĒOĒUđWAĒEĒIĒO@10837đXAĒE@1083CđZA@1083FĒOĀIMPERIAL ARAMAIC LET",
    "TER ALEPHĘBETHĘGIMELĘDALETHĘHEĘWAWĘZAYINĘHETHĘTETHĘYODHĘKAPHĘLAMEDHĘMEMĘNUNĘSAMEKHĘAYINĘPEĘSADHE",
    "ĘQOPHĘRESHĘSHINĘTAW@10857đSECTION SIGNđNUMBER ONEĘTWOęHREEęENęWENTYĘONE HUNDREDĜTHOUSANDĘTEN THO",
    "USANDĀPALMYRENE LETTER ALEPHđBETHđGIMELđDALETHđHEđWAWđZAYINđHETHđTETHđYODHđKAPHđLAMEDHđMEMđFINAL",
    " NUNđNUNđSAMEKHđAYINđPEđSADHEđQOPHđRESHđSHINđTAWČFT-POINTING FLEURONĊRIGHT-POINTING FLEURONĊNUMB",
    "ER ONEđTWOĒHREEđFOURĒIVEđTENĒWENTYĀNABATAEAN LETTER FINAL ALEPHđALEPHđFINAL BETHđBETHđGIMELđDALE",
    "THđFINAL HEđHEđWAWđZAYINđHETHđTETHđFINAL YODHđYODHđFINAL KAPHđKAPHđFINAL LAMEDHđLAMEDHđFINAL MEM",
    "đMEMđFINAL NUNđNUNđSAMEKHđAYINđPEđSADHEđQOPHđRESHđFINAL SHINđSHINđTAW@108A7ĊNUMBER ONEđTWOĒHREEđ",
    "FOURĊCRUCIFORM NUMBER FOURĊNUMBER FIVEđTENĒWENTYđONE HUNDRED@108E0ĀHATRAN LETTER ALEPHĎBETHĎGIME",
    "LĎDALETH-RESHĎHEĎWAWĎZAYNĎHETHĎTETHĎYODHĎKAPHĎLAMEDHĎMEMĎNUNĎSAMEKHĎAYNĎPEĎSADHEĎQOPH@108F4ĎSHIN",
    "ĎTAW@108FBćNUMBER ONEĎFIVEĎTENďWENTYĎONE HUNDREDĀPHOENICIAN LETTER ALFĒBETĒGAMLĒDELTĒHEĒWAUĒZAIĒ",
    "HETĒTETĒYODĒKAFĒLAMDĒMEMĒNUNĒSEMKĒAINĒPEĒSADEĒQOFĒROSHĒSHINĒTAUċNUMBER ONEĒTENēWENTYĒONE HUNDRED",
    "ĒTWOēHREE@1091FċWORD SEPARATORĀLYDIAN LETTER AĎBĎGĎDĎEĎVĎIĎYĎKĎLĎMĎNĎOĎRĎSSĎTĎUĎFĎQĎSĎTTĎANĎENĎL",
    "YĎNNĎC@1093FćTRIANGULAR MARK@10980ĀMEROITIC HIEROGLYPHIC LETTER AĝEĝIĝOĝYAĝWAĝBAğ-2ĝPAĝMAĝNAğ-2Ğ",
    "Eğ-2ĝRAğ-2ĝLAĝKHAĝHHAĝSAğ-2ĞEĝKAĝQAĝTAğ-2ĞEğ-2ĞOĝDAĖSYMBOL VIDJġ-2ĉCURSIVE LETTER AĘEĘIĘOĘYAĘWAĘ",
    "BAĘPAĘMAĘNAęEĘRAĘLAĘKHAĘHHAĘSAĘARCHAIC SAĘSEĘKAĘQAĘTAęEęOĘDA@109BCđFRACTION ELEVEN TWELFTHSĚONE ",
    "HALFđLOGOGRAM RMTĚIMNđNUMBER ONEĘTWOęHREEĘFOURęIVEĘSIXęEVENĘEIGHTĘNINEĘTENęWENTYęHIRTYĘFORTYęIFT",
    "YĘSIXTYęEVENTY@109D2ĘONE HUNDREDĘTWO HUNDREDęHREE HUNDREDĘFOUR HUNDREDęIVE HUNDREDĘSIX HUNDREDęE",
    "VEN HUNDREDĘEIGHT HUNDREDĘNINE HUNDREDĘONE THOUSANDĘTWO THOUSANDęHREE THOUSANDĘFOUR THOUSANDęIVE",
    " THOUSANDĘSIX THOUSANDęEVEN THOUSANDĘEIGHT THOUSANDĘNINE THOUSANDĘTEN THOUSANDęWENTY THOUSANDęHI",
    "RTY THOUSANDĘFORTY THOUSANDęIFTY THOUSANDĘSIXTY THOUSANDęEVENTY THOUSANDĘEIGHTY THOUSANDĘNINETY ",
    "THOUSANDĘONE HUNDRED THOUSANDĘTWO HUNDRED THOUSANDęHREE HUNDRED THOUSANDĘFOUR HUNDRED THOUSANDęI",
    "VE HUNDRED THOUSANDĘSIX HUNDRED THOUSANDęEVEN HUNDRED THOUSANDĘEIGHT HUNDRED THOUSANDĘNINE HUNDR",
    "ED THOUSANDđFRACTION ONE TWELFTHĚTWO TWELFTHSěHREE TWELFTHSĚFOUR TWELFTHSěIVE TWELFTHSĚSIX TWELF",
    "THSěEVEN TWELFTHSĚEIGHT TWELFTHSĚNINE TWELFTHSĚTEN TWELFTHSĀKHAROSHTHI LETTER AċVOWEL SIGN IĖUĖV",
    "OCALIC R@10A05ĖEĖO@10A0CđLENGTH MARKċSIGN DOUBLE RING BELOWĐANUSVARAĐVISARGAċLETTER KAēHAĒGAēHA@",
    "10A15ĒCAēHAĒJA@10A19ĒNYAĒTTAĔHAĒDDAĔHAĒNNAĒTAēHAĒDAēHAĒNAĒPAēHAĒBAēHAĒMAĒYAĒRAĒLAĒVAĒSHAēSAēAĒZA",
    "ĒHAĒKKAĒTTTHAĕAĒVHA@10A38ċSIGN BAR ABOVEĐCAUDAĐDOT BELOW@10A3FċVIRAMAċDIGIT ONEđTWOĒHREEđFOURċNU",
    "MBER TENēWENTYĒONE HUNDREDĖTHOUSANDċFRACTION ONE HALF@10A50ċPUNCTUATION DOTėSMALL CIRCLEėCIRCLEĘ",
    "RESCENT BARėMANGALAMėLOTUSėDANDAĘOUBLE DANDAėLINES@10A60ĀOLD SOUTH ARABIAN LETTER HEęLAMEDHęHETH",
    "ęMEMęQOPHęWAWęSHINęRESHęBETHęTAWęSATęKAPHęNUNęKHETHęSADHEěMEKHęFEęALEFĚYNęDHADHEęGIMELęDALETHęGH",
    "AYNęTETHęZAYNęDHALETHęYODHęTHAWěETHĒNUMBER ONEęFIFTYĕERIC INDICATORĄNORTH ARABIAN LETTER HEHęLAM",
    "ęHAHęMEEMęQAFęWAWęES-2ęREHęBEHęTEHęES-1ęKAFęNOONęKHAHęSADęES-3ęFEHęALEFĚINęDADęGEEMęDALęGHAINęTA",
    "HęZAINęTHALęYEHęTHEHęZAHĒNUMBER ONEęTENĚWENTY@10AC0ĀMANICHAEAN LETTER ALEPHĒBETHēHETHĒGIMELēHIME",
    "LĒDALETHĒHEĒWAWċSIGN UDċLETTER ZAYINēHAYINĒJAYINēHAYINĒHETHĒTETHĒYODHĒKAPHĒXAPHĒKHAPHĒLAMEDHĒDHA",
    "MEDHĒTHAMEDHĒMEMĒNUNĒSAMEKHĒAYINēAYINĒPEĒFEĒSADHEĒQOPHĒXOPHĒQHOPHĒRESHĒSHINēSHINĒTAWċABBREVIATIO",
    "N MARK ABOVEĝBELOW@10AEBċNUMBER ONEĒFIVEĒTENēWENTYĒONE HUNDREDċPUNCTUATION STARėFLEURONėDOUBLE D",
    "OT WITHIN DOTęT WITHIN DOTĚėTWO DOTSėLINE FILLER@10B00ĀAVESTAN LETTER AĐAĐOĐAOĐNĐANĐEđEďEĐEďOĐOď",
    "IĐIďUĐUďKEďXEĐYEĐVEďGEĐGEĐHEďCEďJEďTEĐHEďDEĐHEďTTEďPEďFEďBEĐHEďNGEđYEđVEĐEĐYEĐNEďMEďHMEďYYEĐEďVE",
    "ďREďLEďSEďZEďSHEďZHEďSHYEĐSHEďHE@10B39ĈABBREVIATION MARKĀTINY TWO DOTS OVER ONE DOT PUNCTUATIONĀ",
    "SMALL TWO DOTS OVER ONE DOT PUNCTUATIONĀLARGE TWO DOTS OVER ONE DOT PUNCTUATIONĆONE DOT OVER TWO",
    " DOTS PUNCTUATIONĆTWO RINGS OVER ONE RING PUNCTUATIONĆONE RING OVER TWO RINGS PUNCTUATIONĀINSCRI",
    "PTIONAL PARTHIAN LETTER ALEPHĞBETHĞGIMELĞDALETHĞHEĞWAWĞZAYINĞHETHĞTETHĞYODHĞKAPHĞLAMEDHĞMEMĞNUNĞ",
    "SAMEKHĞAYINĞPEĞSADHEĞQOPHĞRESHĞSHINĞTAW@10B58ėNUMBER ONEĞTWOğHREEĞFOURĞTENğWENTYĞONE HUNDREDĢTHO",
    "USANDĐHLAVI LETTER ALEPHĝBETHĝGIMELĝDALETHĝHEĝWAW-AYIN-RESHĝZAYINĝHETHĝTETHĝYODHĝKAPHĝLAMEDHĝMEM",
    "-QOPHĝNUNĝSAMEKHĝPEĝSADHEĞHINĝTAW@10B78ĖNUMBER ONEĝTWOĞHREEĝFOURĝTENĞWENTYĝONE HUNDREDġTHOUSANDĀ",
    "PSALTER PAHLAVI LETTER ALEPHėBETHėGIMELėDALETHėHEėWAW-AYIN-RESHėZAYINėHETHėYODHėKAPHėLAMEDHėMEM-",
    "QOPHėNUNėSAMEKHėPEėSADHEĘHINėTAW@10B99ĐSECTION MARKĐTURNED SECTION MARKĐFOUR DOTS WITH CROSSğDOT",
    "@10BA9ĐNUMBER ONEėTWOĘHREEėFOURėTENĘWENTYėONE HUNDRED@10C00ĀOLD TURKIC LETTER ORKHON AĒYENISEI A",
    "ěEĒORKHON IĒYENISEI IĚEĒORKHON OĚEĒYENISEI OEĒORKHON ABĒYENISEI ABĒORKHON AEBĒYENISEI AEBĒORKHON",
    " AGĒYENISEI AGĒORKHON AEGĒYENISEI AEGĒORKHON ADĒYENISEI ADĒORKHON AEDęEZĒYENISEI EZĒORKHON AYĒYE",
    "NISEI AYĒORKHON AEYĒYENISEI AEYĒORKHON AEKĒYENISEI AEKĒORKHON OEKĒYENISEI OEKĒORKHON ALĒYENISEI ",
    "ALĒORKHON AELęELTĚMęANĚENĒYENISEI AENĒORKHON ENTĒYENISEI ENTĒORKHON ENCĒYENISEI ENCĒORKHON ENYĒY",
    "ENISEI ENYĚANGĒORKHON ENGĒYENISEI AENGĒORKHON EPęOPęICęECĒYENISEI ECĒORKHON AQĒYENISEI AQĒORKHON",
    " IQĒYENISEI IQĒORKHON OQĒYENISEI OQĒORKHON ARĒYENISEI ARĒORKHON AERĚSĚESĚSHĒYENISEI ASHĒORKHON E",
    "SHĒYENISEI ESHĒORKHON ATĒYENISEI ATĒORKHON AETĒYENISEI AETĒORKHON OTęBASH@10C80ĄHUNGARIAN CAPITA",
    "L LETTER AĞAĝEBĝAMBĝECĞNCĞCSĞDĝANDĝEĝCLOSE EĝEEĞFĞGğYĞHĝIĞIĝEJĞKĝAKĝUNKĝELğYĞMĞNğYĝOĞOĝNIKOLSBUR",
    "G OEĝRUDIMENTA OEĝOEEĝEPĞMPĞRĝSHORT ERĝESğZĞTĞNTĞTYĞCHĝUĞUĝNIKOLSBURG UEĝRUDIMENTA UEĝEVĞZğSĞNT-",
    "SHAPED SIGNĝUS@10CC0ĎSMALL LETTER AĜAěEBěAMBěECĜNCĜCSĜDěANDěEěCLOSE EěEEĜFĜGĝYĜHěIĜIěEJĜKěAKěUNK",
    "ěELĝYĜMĜNĝYěOĜOěNIKOLSBURG OEěRUDIMENTA OEěOEEěEPĜMPĜRěSHORT ERěESĝZĜTĜNTĜTYĜCHěUĜUěNIKOLSBURG U",
    "EěRUDIMENTA UEěEVĜZĝSĜNT-SHAPED SIGNěUS@10CFAĎNUMBER ONEĕFIVEĕTENĕFIFTYĕONE HUNDREDęTHOUSANDĀHAN",
    "IFI ROHINGYA LETTER AėBAėPAėTAĘTAėJAėCAėHAėKHAėFAėDAĘDAėRAĘRAėZAėSAĘHAėKAėGAėLAėMAėNAėWAėKINNA W",
    "AėYAėKINNA YAėNGAĘYAėVAĐVOWEL AĖIĖUĖEĖOĐMARK SAKINĕNA KHONNAĐSIGN HARBAHAYĕTAHALAėNAėSSI@10D30ĐD",
    "IGIT ZEROĖONEĖTWOėHREEĖFOURėIVEĖSIXėEVENĖEIGHTĖNINE@10E60ĀRUMI DIGIT ONEċTWOČHREEċFOURČIVEċSIXČE",
    "VENċEIGHTċNINEąNUMBER TENčWENTYčHIRTYČFORTYčIFTYČSIXTYčEVENTYČEIGHTYČNINETYČONE HUNDREDČTWO HUND",
    "REDčHREE HUNDREDČFOUR HUNDREDčIVE HUNDREDČSIX HUNDREDčEVEN HUNDREDČEIGHT HUNDREDČNINE HUNDREDąFR",
    "ACTION ONE HALFĒQUARTERĒTHIRDĎTWO THIRDS@10E80ĀYEZIDI LETTER ELIFĎBEĎPEďHEĎTHEĎSEĎCIMďHIMĐHIMĎHH",
    "AĎXAĎDALĎZALĎRAďHAĎZAĎJAĎSINďHINďADĎDADĎTAĎZEĎEYNĎXHEYNĎFAĎVAĐ ALTERNATE FORMĎQAFĎKAFďHAFĎGAFĎLA",
    "MĎMIMĎNUNĎUMĎWAWĎOWĎEWĎHAYĎYOTĎET@10EABćCOMBINING HAMZA MARKđMADDA MARKćHYPHENATION MARK@10EB0ćL",
    "ETTER LAM WITH DOT ABOVEĎYOT WITH CIRCUMFLEX ABOVE@10F00ĀOLD SOGDIAN LETTER ALEPHēFINAL ALEPHēBE",
    "THēFINAL BETHēGIMELēHEēFINAL HEēWAWēZAYINēHETHēYODHēKAPHēLAMEDHēMEMēNUNēFINAL NUNĜ WITH VERTICAL",
    " TAILēSAMEKHēAYINĔLTERNATE AYINēPEēSADHEēFINAL SADHEĞ WITH VERTICAL TAILēRESH-AYIN-DALETHēSHINēT",
    "AWēFINAL TAWĜ WITH VERTICAL TAILČNUMBER ONEēTWOĔHREEēFOURĔIVEēTENĔWENTYĔHIRTYēONE HUNDREDČFRACTI",
    "ON ONE HALFČLIGATURE AYIN-DALETH@10F30ĀSOGDIAN LETTER ALEPHďBETHďGIMELďHEďWAWďZAYINďHETHďYODHďKA",
    "PHďLAMEDHďMEMďNUNďSAMEKHďAYINďPEďSADHEďRESH-AYINďSHINďTAWďFETHďLESHĈINDEPENDENT SHINĈCOMBINING D",
    "OT BELOWĒTWO DOTS BELOWĒDOT ABOVEĒTWO DOTS ABOVEĒCURVE ABOVEĘBELOWĒHOOK ABOVEėBELOWĒLONG HOOK BE",
    "LOWĒRESH BELOWĒSTROKE BELOWĈNUMBER ONEďTENĐWENTYďONE HUNDREDĈPUNCTUATION TWO VERTICAL BARSĥ WITH",
    " DOTSĔCIRCLE WITH DOTĔTWO CIRCLES WITH DOTSĔHALF CIRCLE WITH DOT@10F70ĀOLD UYGHUR LETTER ALEPHĒB",
    "ETHĒGIMEL-HETHĒWAWĒZAYINĒFINAL HETHĒYODHĒKAPHĒLAMEDHĒMEMĒNUNĒSAMEKHĒPEĒSADHEĒRESHĒSHINĒTAWĒLESHċ",
    "COMBINING DOT ABOVEęBELOWĕTWO DOTS ABOVEĞBELOWċPUNCTUATION BARėTWO BARSěDOTSėFOUR DOTS@10FB0ĀCHO",
    "RASMIAN LETTER ALEPHĒSMALL ALEPHĒBETHĒGIMELĒDALETHĒHEĒWAWĒCURLED WAWĒZAYINĒHETHĒYODHĒKAPHĒLAMEDH",
    "ĒMEMĒNUNĒSAMEKHĒAYINĒPEĒRESHĒSHINĒTAWċNUMBER ONEĒTWOēHREEĒFOURĒTENēWENTYĒONE HUNDRED@10FE0ĀELYMA",
    "IC LETTER ALEPHďBETHďGIMELďDALETHďHEďWAWďZAYINďHETHďTETHďYODHďKAPHďLAMEDHďMEMďNUNďSAMEKHďAYINďPE",
    "ďSADHEďQOPHďRESHďSHINďTAWĉIGATURE ZAYIN-YODH@11000ĀBRAHMI SIGN CANDRABINDUČANUSVARAČVISARGAČJIHV",
    "AMULIYAČUPADHMANIYAćLETTER AďAĎIďIĎUďUĎVOCALIC RėRĖLėLĎEĎAIĎOĎAUĎKAďHAĎGAďHAĎNGAĎCAďHAĎJAďHAĎNYA",
    "ĎTTAĐHAĎDDAĐHAĎNNAĎTAďHAĎDAďHAĎNAĎPAďHAĎBAďHAĎMAĎYAĎRAĎLAĎVAĎSHAďSAďAĎHAĎLLAĎOLD TAMIL LLLAĘRRAĘ",
    "NNNAćVOWEL SIGN AAĒBHATTIPROLU AAĒIēIĒUēUĒVOCALIC RěRĚLěLĒEĒAIĒOĒAUĈIRAMAćDANDAĈOUBLE DANDAćPUNC",
    "TUATION DOTĕUBLE DOTēLINEēCRESCENT BARēLOTUS@11052ćNUMBER ONEĎTWOďHREEĎFOURďIVEĎSIXďEVENĎEIGHTĎN"],
  String.join [
    "INEĎTENďWENTYďHIRTYĎFORTYďIFTYĎSIXTYďEVENTYĎEIGHTYĎNINETYĎONE HUNDREDĒTHOUSANDćDIGIT ZEROčONEčTW",
    "OĎHREEčFOURĎIVEčSIXĎEVENčEIGHTčNINEćSIGN OLD TAMIL VIRAMAćLETTER OLD TAMIL SHORT EĞOćVOWEL SIGN ",
    "OLD TAMIL SHORT EĢOćLETTER OLD TAMIL LLA@1107FćNUMBER JOINERĀKAITHI SIGN CANDRABINDUČANUSVARAČVI",
    "SARGAćLETTER AďAĎIďIĎUďUĎEĎAIĎOĎAUĎKAďHAĎGAďHAĎNGAĎCAďHAĎJAďHAĎNYAĎTTAĐHAĎDDAĐDHAĐHAĎRHAĎNNAĎTAď",
    "HAĎDAďHAĎNAĎPAďHAĎBAďHAĎMAĎYAĎRAĎLAĎVAĎSHAďSAďAĎHAćVOWEL SIGN AAĒIēIĒUēUĒEĒAIĒOĒAUćSIGN VIRAMAČN",
    "UKTAćABBREVIATION SIGNćENUMERATION SIGNćNUMBER SIGNćSECTION MARKćDOUBLE SECTION MARKĈANDAĈOUBLE ",
    "DANDAćVOWEL SIGN VOCALIC R@110CDćNUMBER SIGN ABOVE@110D0ĀSORA SOMPENG LETTER SAHĔTAHĔBAHĔCAHĔDAH",
    "ĔGAHĔMAHĔNGAHĔLAHĔNAHĔVAHĔPAHĔYAHĔRAHĔHAHĔKAHĔJAHĔNYAHĔAHĔEEHĔIHĔUHĔOHĔEHĔMAE@110F0čDIGIT ZEROēO",
    "NEēTWOĔHREEēFOURĔIVEēSIXĔEVENēEIGHTēNINE@11100ĀCHAKMA SIGN CANDRABINDUČANUSVARAČVISARGAćLETTER A",
    "AĎIĎUĎEĎKAAďHAAĎGAAďHAAĎNGAAĎCAAďHAAĎJAAďHAAĎNYAAĎTTAAĐHAAĎDDAAĐHAAĎNNAAĎTAAďHAAĎDAAďHAAĎNAAĎPAA",
    "ďHAAĎBAAďHAAĎMAAĎYYAAďAAĎRAAĎLAAĎWAAĎSAAĎHAAćVOWEL SIGN AĒIēIĒUēUĒEĒAIĒOĒAUĒOIćO MARKćAU MARKćVI",
    "RAMAćMAAYYAA@11136ćDIGIT ZEROčONEčTWOĎHREEčFOURĎIVEčSIXĎEVENčEIGHTčNINEćSECTION MARKćDANDAĈOUBLE",
    " DANDAćQUESTION MARKćLETTER LHAAćVOWEL SIGN AAĒEIćLETTER VAA@11150ĀMAHAJANI LETTER AĐIĐUĐEĐOĐKAđ",
    "HAĐGAđHAĐCAđHAĐJAđHAĐNYAĐTTAĒHAĐDDAĒHAĐNNAĐTAđHAĐDAđHAĐNAĐPAđHAĐBAđHAĐMAĐRAĐLAĐVAĐSAĐHAĐRRAĉSIGN",
    " NUKTAĉABBREVIATION SIGNĉSECTION MARKĉLIGATURE SHRI@11180ĀSHARADA SIGN CANDRABINDUčANUSVARAčVISA",
    "RGAĈLETTER AĐAďIĐIďUĐUďVOCALIC RĘRėLĘLďEďAIďOďAUďKAĐHAďGAĐHAďNGAďCAĐHAďJAĐHAďNYAďTTAđHAďDDAđHAďN",
    "NAďTAĐHAďDAĐHAďNAďPAĐHAďBAĐHAďMAďYAďRAďLAĐLAďVAďSHAĐSAĐAďHAĈVOWEL SIGN AAēIĔIēUĔUēVOCALIC RĜRěLĜ",
    "LēEēAIēOēAUĈSIGN VIRAMAčAVAGRAHAčJIHVAMULIYAčUPADHMANIYAĈOMĈDANDAĉOUBLE DANDAĈABBREVIATION SIGNĈ",
    "SEPARATORĉANDHI MARKĉIGN NUKTAĈVOWEL MODIFIER MARKĈEXTRA SHORT VOWEL MARKĈSUTRA MARKĈVOWEL SIGN ",
    "PRISHTHAMATRA EĈSIGN INVERTED CANDRABINDUĈDIGIT ZEROĎONEĎTWOďHREEĎFOURďIVEĎSIXďEVENĎEIGHTĎNINEĈE",
    "KAMĈSIGN SIDDHAMĈHEADSTROKEĈCONTINUATION SIGNĈSECTION MARK-1ĕ2@111E1āINHALA ARCHAIC DIGIT ONEĖTW",
    "OėHREEĖFOURėIVEĖSIXėEVENĖEIGHTĖNINEĐNUMBER TENĘWENTYĘHIRTYėFORTYĘIFTYėSIXTYĘEVENTYėEIGHTYėNINETY",
    "ėONE HUNDREDěTHOUSAND@11200ĀKHOJKI LETTER AďAĎIĎUĎEĎAIĎOĎAUĎKAďHAĎGAďGAďHAĎNGAĎCAďHAĎJAďJA@11213",
    "ĎNYAĎTTAĐHAĎDDAĐHAĎNNAĎTAďHAĎDAďDDAďHAĎNAĎPAďHAĎBAďBAďHAĎMAĎYAĎRAĎLAĎVAĎSAĎHAĎLLAćVOWEL SIGN AAĒ",
    "IēIĒUĒEĒAIĒOĒAUćSIGN ANUSVARAČVIRAMAČNUKTAČSHADDAćDANDAĈOUBLE DANDAćWORD SEPARATORćSECTION MARKć",
    "DOUBLE SECTION MARKćABBREVIATION SIGNćSIGN SUKUN@11280ĀMULTANI LETTER AďIďUďEďKAĐHAďGA@11288ĐHA@",
    "1128AďCAĐHAďJAĐJA@1128FďNYAďTTAđHAďDDAđDAđHAďNNAďTAĐHAďDAĐHAďNAďPAĐHAďBA@1129FĐHAďMAďYAďRAďLAďVA",
    "ďSAďHAďRRAĐHAĈSECTION MARK@112B0ĀKHUDAWADI LETTER AĒAđIĒIđUĒUđEđAIđOđAUđKAĒHAđGAĒGAĒHAđNGAđCAĒHA",
    "đJAĒJAĒHAđNYAđTTAēHAđDDAēDAđRRAđDDHAđNNAđTAĒHAđDAĒHAđNAđPAĒHAđBAĒBAĒHAđMAđYAđRAđLAđVAđSHAĒAđHAĊS",
    "IGN ANUSVARAĊVOWEL SIGN AAĕIĖIĕUĖUĕEĕAIĕOĕAUĊSIGN NUKTAďVIRAMA@112F0ĊDIGIT ZEROĐONEĐTWOđHREEĐFOU",
    "RđIVEĐSIXđEVENĐEIGHTĐNINE@11300ĀGRANTHA SIGN COMBINING ANUSVARA ABOVEĎANDRABINDUčANUSVARAčVISARG",
    "A@11305ĈLETTER AĐAďIĐIďUĐUďVOCALIC RėL@1130FďEEďAI@11313ďOOďAUďKAĐHAďGAĐHAďNGAďCAĐHAďJAĐHAďNYAďT",
    "TAđHAďDDAđHAďNNAďTAĐHAďDAĐHAďNA@1132AďPAĐHAďBAĐHAďMAďYAďRA@11332ďLAĐLA@11335ďVAďSHAĐSAĐAďHA@1133",
    "BĀCOMBINING BINDU BELOWĀGRANTHA SIGN NUKTAčAVAGRAHAĈVOWEL SIGN AAēIĔIēUĔUēVOCALIC RĜR@11347ēEEēA",
    "I@1134BēOOēAUĈSIGN VIRAMA@11350ĈOM@11357ĈAU LENGTH MARK@1135DĈSIGN PLUTAĈLETTER VEDIC ANUSVARAĕD",
    "OUBLE ANUSVARAĐOCALIC RRėLLĈVOWEL SIGN VOCALIC LĜL@11366ĀCOMBINING GRANTHA DIGIT ZEROĘONEĘTWOęHR",
    "EEĘFOURęIVEĘSIX@11370ĒLETTER AęKAęNAęVIęPA@11400ĀNEWA LETTER AčAČIčIČUčUČVOCALIC RĕRĔLĕLČEČAIČOČ",
    "AUČKAčHAČGAčHAČNGAĎHAČCAčHAČJAčHAČNYAĎHAČTTAĎHAČDDAĎHAČNNAČTAčHAČDAčHAČNAčHAČPAčHAČBAčHAČMAčHAČY",
    "AČRAčHAČLAčHAČWAČSHAčSAčAČHAąVOWEL SIGN AAĐIđIĐUđUĐVOCALIC RęRĘLęLĐEĐAIĐOĐAUąSIGN VIRAMAĊCANDRAB",
    "INDUĊANUSVARAĊVISARGAĊNUKTAĊAVAGRAHAĊFINAL ANUSVARAąOMąSIDDHIąDANDAĆOUBLE DANDAąCOMMAąGAP FILLER",
    "ąABBREVIATION SIGNąDIGIT ZEROċONEċTWOČHREEċFOURČIVEċSIXČEVENċEIGHTċNINEĆOUBLE COMMAąPLACEHOLDER ",
    "MARK@1145DąINSERTION SIGNąSANDHI MARKąLETTER VEDIC ANUSVARAąSIGN JIHVAMULIYAĊUPADHMANIYA@11480ĀT",
    "IRHUTA ANJIĈLETTER AĐAďIĐIďUĐUďVOCALIC RĘRėLĘLďEďAIďOďAUďKAĐHAďGAĐHAďNGAďCAĐHAďJAĐHAďNYAďTTAđHAď",
    "DDAđHAďNNAďTAĐHAďDAĐHAďNAďPAĐHAďBAĐHAďMAďYAďRAďLAďVAďSHAĐSAĐAďHAĈVOWEL SIGN AAēIĔIēUĔUēVOCALIC R",
    "ĜRěLĜLēEēSHORT EēAIēOēSHORT OēAUĈSIGN CANDRABINDUčANUSVARAčVISARGAďRAMAčNUKTAčAVAGRAHAĈGVANGĈABB",
    "REVIATION SIGNĈOM@114D0ĈDIGIT ZEROĎONEĎTWOďHREEĎFOURďIVEĎSIXďEVENĎEIGHTĎNINE@11580ĀSIDDHAM LETTE",
    "R AĐAďIĐIďUĐUďVOCALIC RĘRėLĘLďEďAIďOďAUďKAĐHAďGAĐHAďNGAďCAĐHAďJAĐHAďNYAďTTAđHAďDDAđHAďNNAďTAĐHAď",
    "DAĐHAďNAďPAĐHAďBAĐHAďMAďYAďRAďLAďVAďSHAĐSAĐAďHAĈVOWEL SIGN AAēIĔIēUĔUēVOCALIC RĜR@115B8ēEēAIēOēA",
    "UĈSIGN CANDRABINDUčANUSVARAčVISARGAďRAMAčNUKTAčSIDDHAMĈDANDAĉOUBLE DANDAĈSEPARATOR DOTĒBARĈREPET",
    "ITION MARK-1Ę2Ę3ĈEND OF TEXT MARKĈSECTION MARK WITH TRIDENT AND U-SHAPED ORNAMENTSĦDOTTED CRESCE",
    "NTSĚRAYS AND DOTTED CRESCENTSĪDOUBLE CRESCENTSĪTRIPLE CRESCENTSĕDOUBLE RINGĠ WITH RAYSĕWITH DOUB",
    "LE CRESCENTSĚTRIPLE CRESCENTSĚQUADRUPLE CRESCENTSĚSEPTUPLE CRESCENTSĚCIRCLES AND RAYSĦTWO ENCLOS",
    "URESĦFOUR ENCLOSURESĈLETTER THREE-CIRCLE ALTERNATE IĐWO-CIRCLE ALTERNATE IĥIďALTERNATE UĈVOWEL S",
    "IGN ALTERNATE UĞU@11600ĀMODI LETTER AčAČIčIČUčUČVOCALIC RĕRĔLĕLČEČAIČOČAUČKAčHAČGAčHAČNGAČCAčHAČ",
    "JAčHAČNYAČTTAĎHAČDDAĎHAČNNAČTAčHAČDAčHAČNAČPAčHAČBAčHAČMAČYAČRAČLAČVAČSHAčSAčAČHAČLLAąVOWEL SIGN",
    " AAĐIđIĐUđUĐVOCALIC RęRĘLęLĐEĐAIĐOĐAUąSIGN ANUSVARAĊVISARGAČRAMAĊARDHACANDRAąDANDAĆOUBLE DANDAąA",
    "BBREVIATION SIGNąSIGN HUVA@11650ąDIGIT ZEROċONEċTWOČHREEċFOURČIVEċSIXČEVENċEIGHTċNINE@11660ĂNGOL",
    "IAN BIRGA WITH ORNAMENTĊROTATED BIRGAĊDOUBLE BIRGA WITH ORNAMENTĊTRIPLE BIRGA WITH ORNAMENTĊBIRG",
    "A WITH DOUBLE ORNAMENTĊROTATED BIRGA WITH ORNAMENTĝDOUBLE ORNAMENTĊINVERTED BIRGAĘ WITH DOUBLE O",
    "RNAMENTĊSWIRL BIRGAĕ WITH ORNAMENTěDOUBLE ORNAMENTĊTURNED SWIRL BIRGA WITH DOUBLE ORNAMENT@11680",
    "ĀTAKRI LETTER AĎAčIĎIčUĎUčEčAIčOčAUčKAĎHAčGAĎHAčNGAčCAĎHAčJAĎHAčNYAčTTAďHAčDDAďHAčNNAčTAĎHAčDAĎH",
    "AčNAčPAĎHAčBAĎHAčMAčYAčRAčLAčVAčSHAĎAčHAčRRAĆSIGN ANUSVARAċVISARGAĆVOWEL SIGN AAđIĒIđUĒUđEđAIđOđ",
    "AUĆSIGN VIRAMAċNUKTAĆLETTER ARCHAIC KHAĆABBREVIATION SIGN@116C0ĆDIGIT ZEROČONEČTWOčHREEČFOURčIVE",
    "ČSIXčEVENČEIGHTČNINE@11700ĀAHOM LETTER KAčHAČNGAčAČTAČALTERNATE TAČPAčHAČBAČMAČJAČCHAČTHAČRAČLAČ",
    "SAČNYAČHAČAČDAčHAČGAČALTERNATE GAČGHAČBHAČJHAČALTERNATE BA@1171DąCONSONANT SIGN MEDIAL LAěRAěLIG",
    "ATING RAąVOWEL SIGN AđAĐIđIĐUđUĐEĐAWĐOĐAIđMąSIGN KILLER@11730ąDIGIT ZEROċONEċTWOČHREEċFOURČIVEċS",
    "IXČEVENċEIGHTċNINEąNUMBER TENčWENTYąSIGN SMALL SECTIONċECTIONĊRULAIĆYMBOL VIąLETTER CAČTTAĎHAČDD",
    "AĎHAČNNAČLLA@11800ĀDOGRA LETTER AĎAčIĎIčUĎUčEčAIčOčAUčKAĎHAčGAĎHAčNGAčCAĎHAčJAĎHAčNYAčTTAďHAčDDA",
    "ďHAčNNAčTAĎHAčDAĎHAčNAčPAĎHAčBAĎHAčMAčYAčRAčLAčVAčSHAĎSAĎAčHAčRRAĆVOWEL SIGN AAđIĒIđUĒUđVOCALIC ",
    "RĚRđEđAIđOđAUĆSIGN ANUSVARAċVISARGAčRAMAċNUKTAĆABBREVIATION SIGN@118A0ĀWARANG CITI CAPITAL LETTE",
    "R NGAAěAěWIěYUĜAĜOěIIěUUěEěOěANGěGAěKOěENYěYUJěUCěENNěODDěTTEěNUNGěDAěATĜMěBUěPUěHIYOĜOLOĝRRĜARě",
    "SSUUĜIIěVIYOČSMALL LETTER NGAAęAęWIęYUĚAĚOęIIęUUęEęOęANGęGAęKOęENYęYUJęUCęENNęODDęTTEęNUNGęDAęAT",
    "ĚMęBUęPUęHIYOĚOLOěRRĚARęSSUUĚIIęVIYOČDIGIT ZEROĒONEĒTWOēHREEĒFOURēIVEĒSIXēEVENĒEIGHTĒNINEČNUMBER",
    " TENĔWENTYĔHIRTYēFORTYĔIFTYēSIXTYĔEVENTYēEIGHTYēNINETY@118FFČOMĀDIVES AKURU LETTER AĔAēIĔIēUĔUēE",
    "@11909ēO@1190CēKAĔHAēGAĔHAēNGAēCAĔHAēJA@11915ēNYAēTTA@11918ēDDAĕHAēNNAēTAĔHAēDAĔHAēNAēPAĔHAēBAĔH",
    "AēMAēYAĔYAēRAēLAēVAēSHAĔSAĔAēHAēLLAēZAČVOWEL SIGN AAėIĘIėUĘUėE@11937ėAIėO@1193BČSIGN ANUSVARAđCA",
    "NDRABINDUđHALANTAČVIRAMAČPREFIXED NASAL SIGNČMEDIAL YAČINITIAL RAČMEDIAL RAČSIGN NUKTAČDOUBLE DA",
    "NDAČGAP FILLERČEND OF TEXT MARK@11950ČDIGIT ZEROĒONEĒTWOēHREEĒFOURēIVEĒSIXēEVENĒEIGHTĒNINE@119A0",
    "ĀNANDINAGARI LETTER AĔAēIĔIēUĔUēVOCALIC RĜR@119AAēEēAIēOēAUēKAĔHAēGAĔHAēNGAēCAĔHAēJAĔHAēNYAēTTAĕ",
    "HAēDDAĕHAēNNAēTAĔHAēDAĔHAēNAēPAĔHAēBAĔHAēMAēYAēRAēLAēVAēSHAĔSAĔAēHAēLLAēRRAČVOWEL SIGN AAėIĘIėUĘ",
    "UėVOCALIC RĠR@119DAėEėAIėOėAUČSIGN ANUSVARAđVISARGAēRAMAđAVAGRAHAđSIDDHAMČHEADSTROKEČVOWEL SIGN ",
    "PRISHTHAMATRA E@11A00ĀZANABAZAR SQUARE LETTER AđVOWEL SIGN IĜUEĝĜEĜOEĝĜAIĝUĜREVERSED IėLENGTH MA",
    "RKđLETTER KAęHAĘGAęHAĘNGAĘCAęHAĘJAĘNYAĘTTAĚHAĘDDAĚHAĘNNAĘTAęHAĘDAęHAĘNAĘPAęHAĘBAęHAĘMAĘTSAĚHAĘDZ",
    "AĚHAĘZHAęAĘ-AĘYAĘRAĘLAĘVAĘSHAęSAęAĘHAĘKSSAđFINAL CONSONANT MARKđSIGN VIRAMAĖCANDRABINDUġ WITH OR",
    "NAMENTĜ WITH ORNAMENTĖANUSVARAĖVISARGAđCLUSTER-INITIAL LETTER RAęFINAL LETTER YAĦRAĦLAĦVAđINITIA",
    "L HEAD MARKđCLOSING HEAD MARKđMARK TSHEGĖSHADĖDOUBLE SHADĖLONG TSHEGđINITIAL DOUBLE-LINED HEAD M",
    "ARKđCLOSING DOUBLE-LINED HEAD MARKđSUBJOINER@11A50ĀSOYOMBO LETTER AĈVOWEL SIGN IēUEĔēEēOĔEēAIĔUē",
    "VOCALIC RěLĎLENGTH MARKĈLETTER KAĐHAďGAĐHAďNGAďCAĐHAďJAĐHAďNYAďTTAđHAďDDAđHAďNNAďTAĐHAďDAĐHAďNAď",
    "PAĐHAďBAĐHAďMAďTSAđHAďDZAďZHAĐAď-AďYAďRAďLAďVAďSHAĐSAĐAďHAďKSSAĈSIGN JIHVAMULIYAčUPADHMANIYAĈCLU",
    "STER-INITIAL LETTER RAğLAğSHAĠAĈFINAL CONSONANT SIGN GĝKĝNGĝDĝNĝBĝMĝRĝLĝSHĞĝ-AĈSIGN ANUSVARAčVIS",
    "ARGAĈGEMINATION MARKĈSUBJOINERĈMARK TSHEGčSHADčDOUBLE SHADčPLUTAĈHEAD MARK WITH MOON AND SUN AND",
    " TRIPLE FLAMEĨFLAMEģĈTERMINAL MARK-1Ė2@11AB0ĀCANADIAN SYLLABICS NATTILIK HIĞIĝOĞOĝAĞAĜSHRIĠIğOĠO",
    "ğAĠAēSPEĕIĕOĕAĀPAU CIN HAU LETTER PAēKAēLAēMAēDAēZAēVAēNGAēHAēGAēKHAēSAēBAēCAēTAĔHAēNAēPHAēRAēFA",
    "ēCHAēAēEēIēOēUĔAēIAēFINAL PęKęTęMęNęLęWęNGęYČRISING TONE LONGėČSANDHI GLOTTAL STOPČRISING TONE L",
    "ONG FINALĘFINALČSANDHI GLOTTAL STOP FINALēTONE LONGėė LONG FINALĘFINALČMID-LEVEL TONEČGLOTTAL ST",
    "OP VARIANTČMID-LEVEL TONE LONG FINALěFINALČLOW-FALLING TONE LONGĜČGLOTTAL STOPČLOW-FALLING TONE ",
    "LONG FINALĝFINALČGLOTTAL STOP FINAL@11C00ĀBHAIKSUKI LETTER AĒAđIĒIđUĒUđVOCALIC RĚRęL@11C0AđEđAIđ",
    "OđAUđKAĒHAđGAĒHAđNGAđCAĒHAđJAĒHAđNYAđTTAēHAđDDAēHAđNNAđTAĒHAđDAĒHAđNAđPAĒHAđBAĒHAđMAđYAđRAđLAđVA",
    "đSHAĒSAĒAđHAĊVOWEL SIGN AAĕIĖIĕUĖUĕVOCALIC RĞRĝL@11C38ĕEĕAIĕOĕAUĊSIGN CANDRABINDUďANUSVARAďVISAR",
    "GAđRAMAďAVAGRAHAĊDANDAċOUBLE DANDAĊWORD SEPARATORĊGAP FILLER-1ĕ2@11C50ĊDIGIT ZEROĐONEĐTWOđHREEĐF"],
  String.join [
    "OURđIVEĐSIXđEVENĐEIGHTĐNINEĊNUMBER ONEđTWOĒHREEđFOURĒIVEđSIXĒEVENđEIGHTđNINEđTENĒWENTYĒHIRTYđFOR",
    "TYĒIFTYđSIXTYĒEVENTYđEIGHTYđNINETYĊHUNDREDS UNIT MARK@11C70ĀMARCHEN HEAD MARKĈMARK SHADĈLETTER K",
    "AĐHAďGAďNGAďCAĐHAďJAďNYAďTAĐHAďDAďNAďPAĐHAďBAďMAďTSAđHAďDZAďWAďZHAĐAď-AďYAďRAďLAďSHAĐAďHAďA@11C9",
    "2ĈSUBJOINED LETTER KAĚHAęGAęNGAęCAĚHAęJAęNYAęTAĚHAęDAęNAęPAĚHAęBAęMAęTSAěHAęDZAęWAęZHAĚA@11CA9ęY",
    "AęRAęLAęSHAĚAęHAęAĈVOWEL SIGN AAēIēUēEēOĈSIGN ANUSVARAčCANDRABINDU@11D00ĂSARAM GONDI LETTER AĖAĕ",
    "IĖIĕUĖUĕE@11D08ĕAIĕO@11D0BĕAUĕKAĖHAĕGAĖHAĕNGAĕCAĖHAĕJAĖHAĕNYAĕTTAėHAĕDDAėHAĕNNAĕTAĖHAĕDAĖHAĕNAĕP",
    "AĖHAĕBAĖHAĕMAĕYAĕRAĕLAĕVAĕSHAĖSAĖAĕHAĕLLAĕKSSAĕJNYAĕTRAĎVOWEL SIGN AAęIĚIęUĚUęVOCALIC R@11D3AęE@",
    "11D3CęAIęO@11D3FęAUĎSIGN ANUSVARAēVISARGAēNUKTAēCANDRAēHALANTAĎVIRAMAĎREPHAďA-KARA@11D50ĎDIGIT Z",
    "EROĔONEĔTWOĕHREEĔFOURĕIVEĔSIXĕEVENĔEIGHTĔNINE@11D60ĀGUNJALA GONDI LETTER AĖAĕIĖIĕUĖU@11D67ĕEEĕAI",
    "@11D6AĕOOĕAUĕYAĕVAĕBAĖHAĕMAĕKAĖHAĕTAĖHAĕLAĕGAĖHAĕDAĖHAĕNAĕCAĖHAĕTTAėHAĕLLAĕJAĖHAĕDDAėHAĕNGAĕPAĖH",
    "AĕHAĕRAĕSAĎVOWEL SIGN AAęIĚIęUĚU@11D90ęEEęAI@11D93ęOOęAUĎSIGN ANUSVARAēVISARGAĎVIRAMAĎOM@11DA0ĎD",
    "IGIT ZEROĔONEĔTWOĕHREEĔFOURĕIVEĔSIXĕEVENĔEIGHTĔNINE@11EE0ĀMAKASAR LETTER KAďGAďNGAďPAďBAďMAďTAďD",
    "AďNAďCAďJAďNYAďYAďRAďLAďVAďSAďAĈANGKAĈVOWEL SIGN IēUēEēOĈPASSIMBANGĈEND OF SECTION@11FB0ĀLISU LE",
    "TTER YHA@11FC0ĀTAMIL FRACTION ONE THREE-HUNDRED-AND-TWENTIETHēONE-HUNDRED-AND-SIXTIETHēEIGHTIETH",
    "ēSIXTY-FOURTHēFORTIETHēTHIRTY-SECONDďTHREE EIGHTIETHSĕSIXTY-FOURTHSďONE TWENTIETHēSIXTEENTH-1ĝ2ē",
    "TENTHēEIGHTHďTHREE TWENTIETHSĕSIXTEENTHSďONE FIFTHēQUARTERēHALF-1Ę2ďTHREE QUARTERSďDOWNSCALING F",
    "ACTOR KIIZHĆSIGN NELċCEVITUċAAZHAAKKUċUZHAKKUċMUUVUZHAKKUċKURUNIċPATHAKKUċMUKKURUNIċKAACUċPANAMČ",
    "ONċVARAAKANċPAARAMċKUZHIċVELIĆWET CULTIVATION SIGNĆDRY CULTIVATION SIGNĆLAND SIGNĆSALT PAN SIGNĆ",
    "TRADITIONAL CREDIT SIGNĒNUMBER SIGNĆCURRENT SIGNĆAND ODD SIGNĆSPENT SIGNĆTOTAL SIGNĆIN POSSESSIO",
    "N SIGNĆSTARTING FROM SIGNćIGN MUTHALIYAċVAKAIYARAA@11FFFĆPUNCTUATION END OF TEXTĀCUNEIFORM SIGN ",
    "AĐ TIMES AėBADėGAN2 TENUėHAėIGIėLAGAR GUNUėMUSHėSAGĐ2ĐBđ TIMES ASH2ĘDUN3 GUNUĘGALĚN2 TENUĘHAĘIGI",
    " GUNUęMINĘLAGABĘSHESHĘU PLUS U PLUS UĒGUNUđ2Ē TIMES BALAGęGAN2 TENUęME PLUS ENęSHA3ęTAK4ĐDĐKđ TI",
    "MES ERIN2ĘSHITA PLUS GISHĐLđ TIMES ALĘDIM2ĘGISHĘHAĘKAD3ęIĘSHEĘUSHđANđEPHĐMARē TIMES SHEĐNđ OVER ",
    "ANĒTHREE TIMESĒPLUS NAGA OPPOSING AN PLUS NAGAĜSQUAREDđSHEĐPINĐRADē TIMES KURđKABĐSAL2đHĒ ZIDA T",
    "ENUēKABA TENUēOVER ASH TUG2 OVER TUG2 TUG2 OVER TUG2 PAPĜOVER ASHĤ CROSSING ASH OVER ASH OVER AS",
    "HĒ2ĒGABďBAđDđG3đHAR2đLĒ OVER BALĒAGđRĒA2ĐIđ TIMES AĘGARĘIGI GUNUĐUđ OVER BU ABĚUNĒCROSSING BUđLU",
    "GĔ OVER BULUGđRĒ2ďDAđGĒ KISIM5 TIMES A PLUS MASHġMARĠBALAGġIĠGAĢ PLUS MASHġIĢR2ġUDĠHAĠIRĢ PLUS L",
    "UĠKAKĠLAġUĢ PLUS MASH2ĢMĠNEĠPAP PLUS PAPĠSIĠTAK4ĠU2 PLUS GIR2ġSHđMđRĒA3ē4ĐIđBđMĒ TIMES SHEĒ2đNĒ ",
    "KASKAL U GUNU DISHđSHĐUđ OVER DUĒGUNUĒSHESHIGđBĒ TIMES ESH2Ē2đGĒUDđHđNĒ3ē GUNUĘ GUNUĒ4đR2ďEĐ TIM",
    "ES PAPđOVER E NUN OVER NUNĐ2đ TIMES A PLUS HA PLUS DAĘGARĘMIĘSALęHEĘUĐDINĐGIRĐLĐNđ TIMES GAN2Ĝ T",
    "ENUĘMEĒCROSSING ENĒOPPOSING ENĒSQUAREDĐRENđIN2ĐSH2ĐZENē TIMES Aě PLUS LALĤ TIMES LALěNĚBADĚDUN3 ",
    "GUNUģ GUNUĚHAĜ GUNUĚIGI GUNUĚKASKALĠ SQUAREDěU3ĚLAĜL TIMES LALěIěUĚU2ěDďGAđ GUNUđ2Ē TIMES A PLUS",
    " DA PLUS HAĠHAĠIGIĚB2 TENU PLUS TABĚNĚSHĜ2 PLUS GALęBADěR PLUS RAĚURĜ PLUS RAęDAĚIěM TIMES SHEĚU",
    "BęELě PLUS LAĚNě TIMES GAN2 TENUęGAN2 TENUěRĚIě4Ĝ PLUS AěR2 PLUS SUęHA PLUS LU PLUS ESH2ěLĜ PLUS",
    " LAĚI PLUS LIĚUB2ęIGI GUNUĚSH PLUS HU PLUS ASHęKAKěSKALĚIDĜ PLUS LALĚU3 PLUS ANęLAęME PLUS ENĚIę",
    "NUNĜ OVER NUNęPAęSALěRĚHEĜ PLUS TURěIDĚUMęTAK4ęUĚDě PLUS DUēOVER GA2đBAē CROSSING GABAđDĒ OVER G",
    "AD GAR OVER GARđLĒ GAD OVER GAD GAR OVER GARĒAMđMđNĒ2ē TENUĔOVER GAN2ĔCROSSING GAN2đRĒ3đSHANĐESH",
    "TINĖ TIMES KURĐIđ TIMES EĘUĒCROSSING GIđ4Ē OVER GI4ēCROSSING GI4đDIMđR2ē GUNUĒ3ē TIMES A PLUS IG",
    "IĚGAN2 TENUĚIGIĚLU PLUS IGIĚPAđSALĒHē CROSSING GISHĔTIMES BADĚTAK4ĕENUĐUđ CROSSING GUđ2Ē TIMES K",
    "AKĜ TIMES IGI GUNUęNUNęSAL PLUS TUG2ēGUNUđDĒ TIMES A PLUS KURęKURēOVER GUD LUGALđLđMĒ TIMES SHEđ",
    "RĒ7ĒUNēSHďHAđ TENUĒGUNUđLĐIđ TIMES ASHě2ĘBADĘDISHĘGADĘKINĘNUNĘSHEĘUĐUđB2ē TIMES ANĚHALĚKASKALĚLI",
    "SHĚUDđL2ďIĐ AĐBĐDIMē OVER IDIM BURĞSQUAREDĐGđIĒ DIBēRIēOVER IGI SHIR OVER SHIR UD OVER UDēGUNUĐL",
    "đ TIMES GAN2 TENUđ2ĐMđ TIMES TAK4ĒCROSSING IMĒOPPOSING IMĒSQUAREDđINĐNĐRĐSHďKAđ TIMES AęDĚ PLUS ",
    "KU3ęSH2ĘBADĚLAGĚRęIĘERIN2ęSH2ĘGAĚLĚN2 TENUĚRě PLUS SHA3 PLUS AęIĚR2ĚSH PLUS SARĝCROSSING GISHęUĚ",
    "R7ĘIGIęMĘKAKęIĚDĘLIęUĘMEĚ PLUS DUĠGIĠTEęIĚ PLUS NUNUZĘNEęUNĘPIĘRUĘSAĚRęHAĚEĚIDĚUęIGęUHURĘTARĘUę2",
    "ęDęMUM TIMES PAęSHĘZIđ2Ē CROSSING KA2đBđD2Ē3Ē4Ē5ē OVER KAD5đKĒ TIMES IGI GUNUđLĒ TIMES BADēCROSS",
    "ING KALđM2Ē4đSKALĕ LAGAB TIMES U OVER LAGAB TIMES UĖOVER KASKAL LAGAB TIMES U OVER LAGAB TIMES U",
    "ĐESH2ĐIđ TIMES BADĘUęDđDđNđSALĒHĒIM5ĕ OVER KISIM5ĐUđ OVER HI TIMES ASH2 KU OVER HI TIMES ASH2đ3đ",
    "4Ē VARIANT FORMđ7đLĒ GUNUđNđRĒ OPPOSING KURđSHU2ĐWU318ďLAđGABĔ TIMES AĜ PLUS DA PLUS HAĢGARĢLALĜ",
    "LĜNĜSH ZIDA TENUěBADĜIěDARěENěGAĝRĜUDĞ PLUS GUDěHAĝLĜI TIMES NUNěIGI GUNUĜMĝ PLUS HAģLUěKIĝNĜU3ĝ",
    "LĞ PLUS HI PLUS AěLAGABĜISHĜUĝLěMEĝ PLUS ENĜUSHěNEěSHE PLUS SUMĝITA PLUS GISH PLUS ERIN2īTENUĝU2",
    "ğ PLUS SHU2ĜUMěTAGĝK4ĜE PLUS A PLUS SU PLUS NAěUĜ PLUS AĢU PLUS UĜ2 PLUS ASHĜDĜSHĕSQUAREDēRĔ TIM",
    "ES SHEĞ PLUS SUMĕGUNUę OVER LAGAR GUNU SHEđHSHUđLĒ TIMES LALđMĒ TIMES KURĜ PLUS RUĐIđLđMMU2đSHĐU",
    "đ TIMES BADđ2Ē TIMES ALęBADęESH2ĝ TENUęGAN2 TENUęHI TIMES BADęIMęKAD2Ĝ3ĝ PLUS ASHĚIęLA PLUS ASHě",
    "GABęME PLUS ENęNEĚUęSI PLUS ASHěK2 PLUS BUęTUG2ĔENUēCROSSING LU2ēOPPOSING LU2ēSQUAREDĔHESHIGđ3đG",
    "ALĔ OVER LUGALĖPPOSING LUGALĕSHESHIGđHđLđMĒ OVER LUMě GAR OVER GARďMAđ TIMES TAK4ĒGUNUđ2đHđRđSHē",
    "2ĐEđSĐIđNĐUđ OVER MUđGĒ GUNUđNSUBđRGU2đSHē TIMES AĚKURĚZAĔOVER MUSHĝ TIMES A PLUS NAĔCROSSING MU",
    "SHē3Ĕ TIMES AĜ PLUS DIěDIĕGUNUďNAđ2đGAē INVERTEDĔTIMES SHU TENUĔOPPOSING NAGAēRđM NUTILLUĒĒ2ĐEđ ",
    "TIMES AĘUDĒSHESHIGĐIđ TIMES Eđ2đMĒ TIMES GAN2 TENUěR PLUS GAN2 TENUđNDA2ĕ TIMES ANĝSHğ PLUS ASHĜ",
    "GUDĜME PLUS GAN2 TENUĜNEĝUNĜSHEğ PLUS A ANĦSHĨ PLUS ASHĜU2 PLUS ASHĝSHđSAGĐUđ11đNĒ LAGAR TIMES G",
    "ARğMASHğSALĢ OVER NUN LAGAR TIMES SALğUSHēTENUēOVER NUNēCROSSING NUNğ LAGAR OVER LAGARĒUZĔ AB2 T",
    "IMES ASHGABğBIğDUGğGUDğIGI GUNUğKAD3ğLAğNEğSILA3ğU2ĕKISIM5 TIMES BIĤ UďPAđDđNđPĐESH2ĐIđ TIMES Aę",
    "BĘBIęUĘEĘIęBĘUę2ĒCROSSING PIđRIGĔ TIMES KALěUDěZAĕOPPOSING PIRIGďRAđBĐIĐUďSAđG NUTILLUĒĒ TIMES A",
    "ęDUěBęHAęKAKĚURęLUMęMIęNUNęSALĚHIDęTABęU2ĚBĚMĚRĚSHēOVER SAGēGUNUđLĒ LAGAB TIMES ASH2đNGA2đRĐHAĒ3",
    "ē TIMES AĚBADĚGISHĚNEĚSHU2ĚTURĚUě PLUS AĒ6ĒB6ĒR2đEĒ HUēOVER SHE GAD OVER GAD GAR OVER GARĜTAB OV",
    "ER TAB GAR OVER GARĒG9ĒNĒSHĔ2ĔLAMđIDē TIMES AĚIMĒMē TIMES AĚBALěULUGĚDINĚGARĚIGIĝ GUNUĚKUSHU2ĚLU",
    "LĚMUGĚSALĒNIGĒRē TENUĔOVER SHIR BUR OVER BURĒTAđUĒ OVER INVERTED SHUĒ2ĒBURĐIđ GUNUđGĒ4ē OVER SIG",
    "4 SHU2đK2đLA3ĐUđ OVER SUđDĒ2đHURđMĒASHđRĒ9ďTAđ ASTERISKĒTIMES HIĘMIĒGUNUđBĒ OVER TAB NI OVER NI ",
    "DISH OVER DISHēSQUAREDđGĒ TIMES BIęGUDęSHEěUęTUG2ęUDđK4đRĐEđ GUNUĐIđ TENUđLđRĒ TIMES TAK4ēOVER T",
    "IRě GAD OVER GAD GAR OVER GARĐUđG2đKđMđRĒ OVER TUR ZA OVER ZAďUĐ GUDđU UđOVER U PA OVER PA GAR O",
    "VER GARĘSUR OVER SURĘU REVERSED OVER U REVERSEDĐ2ĐBĐDđ KUSHU2ĒTIMES BADĘMIĘU PLUS U PLUS Uħ GUNU",
    "ĒGUNUĒSHESHIGę TIMES BADđUGĐMđ TIMES LAGABĘME PLUS DAĘSHA3ĘUđBINđUMē TIMES KASKALĚPAĐNđ GUNUĐRđ ",
    "CROSSING URĒSHESHIGđ2Ē TIMES A PLUS HAĠNAĚLęHAęNUNęU2ě PLUS ASHġBIđ4đIĒ3đUĒ TIMES AĚSHGABęBARęDU",
    "NęGAěLěN2 TENUěRĚUęHAęIGIĚMĚSHęKIęLUMęMINęPAęSHEĚIG4ęTUęU PLUS GUDĚDĚRUDAĒDAĔ TIMES UĐSHĒ TIMES ",
    "AęKUěRęTAK4ĒXĒ2ĒUMXĐTUKIĐZ3Ē TIMES KASKALđUďZAđ TENUĒSQUARED TIMES KURđGđMXĐE2ĐIđ OVER ZIđ3đBĒ K",
    "ABA TENUđGđZ2ĐUđ5Ē TIMES AđBURđMďKAP ELAMITEďAB TIMES NUNđ2 TIMES AĐMAR TIMES KUGďDAG KISIM5 TIM",
    "ES U2 PLUS MASHĒ3ĐISH PLUS SHUĐUB TIMES SHEďEZEN TIMES GUDĚSHEďGA2 TIMES AN PLUS KAK PLUS AĚSH2Đ",
    "E22ĐIGďHUSHďKA TIMES ANSHEęSH3ĘGISHęUDĘHI TIMES ASH2ĘLUMĘPAĘSHULĘTUĘUR2ďLAGAB TIMES GIĐU2 SHESHI",
    "G TIMES BADēTIMES ESH2 PLUS LALęSHUďMESHĐUSH3 TIMES ZAďNA4ĐINĒ9ĒDA2 TIMES BALĜGIĐU11 ROTATED NIN",
    "ETY DEGREESďPESH2 ASTERISKĐIR2ďSAG TIMES IGI GUNUďTI2ďUM TIMES MEĐ U@12400ĊNUMERIC SIGN TWO ASHĘ",
    "HREE ASHėFOUR ASHĘIVE ASHėSIX ASHĘEVEN ASHėEIGHT ASHėNINE ASHėTHREE DISHėFOUR DISHĘIVE DISHėSIX ",
    "DISHĘEVEN DISHėEIGHT DISHėNINE DISHėFOUR UĘIVE UėSIX UĘEVEN UėEIGHT UėNINE UėONE GESH2ėTWO GESH2",
    "ĘHREE GESH2ėFOUR GESH2ĘIVE GESH2ėSIX GESH2ĘEVEN GESH2ėEIGHT GESH2ėNINE GESH2ėONE GESHUėTWO GESHU",
    "ĘHREE GESHUėFOUR GESHUĘIVE GESHUėTWO SHAR2ĘHREE SHAR2Ģ VARIANT FORMėFOUR SHAR2ĘIVE SHAR2ėSIX SHA",
    "R2ĘEVEN SHAR2ėEIGHT SHAR2ėNINE SHAR2ėONE SHARUėTWO SHARUĘHREE SHARUĢ VARIANT FORMėFOUR SHARUĘIVE",
    " SHARUėSHAR2 TIMES GAL PLUS DISHĬMINėONE BURUėTWO BURUĘHREE BURUġ VARIANT FORMėFOUR BURUĘIVE BUR",
    "UėTHREE VARIANT FORM ESH16ĭ21ėFOUR VARIANT FORM LIMMUĮ4Į AįBėSIX VARIANT FORM ASH9ĘEVEN VARIANT ",
    "FORM IMIN3Į AįBėEIGHT VARIANT FORM USSUĮ3ėNINE VARIANT FORM ILIMMUį3į4į AėTWO ASH TENUĘHREE ASH ",
    "TENUėFOUR ASH TENUĘIVE ASH TENUėSIX ASH TENUėONE BAN2ėTWO BAN2ĘHREE BAN2ėFOUR BAN2Ġ VARIANT FORM",
    "ĘIVE BAN2Ġ VARIANT FORMėNIGIDAMINĝESHėONE ESHE3ėTWO ESHE3ėONE THIRD DISHėTWO THIRDS DISHėFIVE SI",
    "XTHS DISHėONE THIRD VARIANT FORM AėTWO THIRDS VARIANT FORM AėONE EIGHTH ASHěQUARTER ASHĘLD ASSYR",
    "IAN ONE SIXTHĨQUARTERĘNE QUARTER GURěHALF GURėELAMITE ONE THIRDğTWO THIRDSğFORTYĠIFTYėFOUR U VAR",
    "IANT FORMĘIVE U VARIANT FORMėSIX U VARIANT FORMĘEVEN U VARIANT FORMėEIGHT U VARIANT FORMėNINE U ",
    "VARIANT FORM@12470ĊPUNCTUATION SIGN OLD ASSYRIAN WORD DIVIDERěVERTICAL COLONěDIAGONAL COLONĤTRIC",
    "OLONĤQUADCOLON@12480ĊSIGN AB TIMES NUN TENUĘSHU2ĐD TIMES ESH2ďBAD TIMES DISH TENUđHAR2 TIMES AB2",
    "ĜNIĜZAĐU OVER BU TIMES NA2ďDA TIMES TAK4đG TIMES KURĐIM TIMES IGIęU U UĒ2 TIMES UDĐUG TIMES ANSH",
    "EĚSHĜ AT LEFTęDINĚUNęERIN2ęGAĚIěR2 GUNUěSHęHAĚIęIGI GUNUęKASKALĚURěSHU2ğ PLUS KASKALęLAK-020ěMĜ ",
    "TIMES KURĚUH PLUS GISHęMASHĚESĚIęNIęPIęSHEĚI GUNUďE2 TIMES KURĘPAPĐRIN2 XĐSH2 CROSSING ESH2ĐZEN ",
    "SHESHIG TIMES ASHĢHIĢIGI GUNUĢLAĤLĢMEĤSĢSUĔTIMES SUďGA2 TIMES BAHAR2ęDIM GUNUĚUG TIMES IGI GUNUģ",
    "KASKALęERENęGAěR PLUS DIĢNEęHA PLUS AęKUSHU2 PLUS KASKALęLAMĜ TIMES KURĚUHęMUSHęNEě PLUS E2ġGIęS"],
  String.join [
    "HIMęZIZ2đBA ROTATED NINETY DEGREESĐESHTIN TIMES UĐISH TIMES GISH CROSSING GISHĐU2 TIMES IGI GUNU",
    "đD PLUS GISH TIMES TAK4ďHA TENU GUNUĐI TIMES ASH OVER HI TIMES ASHďKA TIMES BUĘKAĘU U UęRďLAGAB ",
    "TIMES ZU OVER ZUđK-003Ĕ21ĕ5Ĕ30Ĕ50ĕ1Ĕ62Ĕ79 OVER LAK-079 GUNUĔ80ĕ1 OVER LAK-081Ĕ92ē130Ĕ42ē210ĕ9Ĕ20",
    "ĕ5ĕ8Ĕ38Ĕ65ĕ6ē343ĕ7ĕ8Ĕ83ĕ4Ĕ90ē441ĕ9Ė TIMES GUĝIGIĝPAP PLUS LU3ĦPAP PLUS LU3ĝU2 PLUS BAĔ50ĕ7Ĕ70Ĕ83",
    "Ĕ90ĕ2ĕ3ĕ5ē550ē608Ĕ17Ė TIMES ASHĝBADĝDUN3 GUNU GUNUĝKU3ĝLAĝTARĞEĝU2ĞDĞRUDAĔ36Ĕ48Ė TIMES DUBĝGAĝIG",
    "IĠ GUNUĝNIĝPAP PLUS PAP PLUS LU3ĝSHESH PLUS KIĝUDĞRUDAē724Ĕ49ĐU2 GUNU TIMES ASHēTIMES DISHęHALęP",
    "APĜ PLUS PAP PLUS LU3ęTAK4ďMI PLUS ZA7ĐUSH OVER MUSH TIMES GAĤKAKďNINDA2 TIMES DIM GUNUĜGISHĝULĜ",
    "HIĜKESH2ĜLAK-050ĜMASHĜPAP PLUS PAPĜUĝ PLUS UĝRUDAďSAG GUNU TIMES HAēTIMES ENęSHE AT LEFTęTAK4ĐHA",
    "6 TENUđE OVER SHEēPLUS HUB2ĘNAM2ĘSARđU2 PLUS DUG TIMES NIęE2 TIMES ANĐI TIMES TAK4ďTAK4 PLUS SAG",
    "ĐUM TIMES GAN2 TENUęTHREE DISHďUR2 INVERTEDēTIMES UDđU TIMES DARA3ęLAK-668ĚU3ďZA7ĐU OVER ZU PLUS",
    " SARđ5 TIMES THREE DISH TENU@12F90āYPRO-MINOAN SIGN CM001Ė2Ė4Ė5Ė6Ė7Ė8Ė9ĕ10Ė1Ė2ėBĖ3Ė5Ė7Ė9ĕ21Ė3Ė4Ė",
    "5Ė6Ė7Ė8Ė9ĕ30Ė3Ė4Ė5Ė6Ė7Ė8Ė9ĕ40Ė1Ė4Ė6Ė7Ė9ĕ50Ė1Ė2Ė3Ė4Ė5Ė6Ė8Ė9ĕ60Ė1Ė2Ė3Ė4Ė6Ė7Ė8Ė9ĕ70Ė1Ė2Ė3Ė4Ė5ėBĖ6Ė8",
    "Ė9ĕ80Ė1Ė2Ė3Ė4Ė5Ė6Ė7Ė8Ė9ĕ90Ė1Ė2Ė4Ė5Ė6Ė7Ė8Ė9Ĕ100Ė1Ė2Ė3Ė4Ė5Ė7Ė8Ė9ĕ10Ė2Ė4Ĕ301Ė2@13000ĀEGYPTIAN HIERO",
    "GLYPH A001ė2ė3ė4ė5ĘAė6ĘAĘBė7ė8ė9Ė10ė1ė2ė3ė4ĘAė5ė6ė7ĘAė8ė9Ė20ė1ė2ė3ė4ė5ė6ė7ė8ė9Ė30ė1ė2ĘAė3ė4ė5ė6ė",
    "7ė8ė9Ė40ĘAė1ė2ĘAė3ĘAė4ė5ĘAė6ė7ė8ė9Ė50ė1ė2ė3ė4ė5ė6ė7ė8ė9Ė60ė1ė2ė3ė4ė5ė6ė7ė8ė9Ė70ĔB001ė2ė3ė4ė5ĘAė6",
    "ė7ė8ė9ĔC001ė2ĘAĘBĘCė3ė4ė5ė6ė7ė8ė9Ė10ĘAė1ė2ė3ė4ė5ė6ė7ė8ė9Ė20ė1ė2ė3ė4ĔD001ė2ė3ė4ė5ė6ė7ė8ĘAė9Ė10ė1ė",
    "2ė3ė4ė5ė6ė7ė8ė9Ė20ė1ė2ė3ė4ė5ė6ė7ĘAė8ė9Ė30ė1ĘAė2ė3ė4ĘAė5ė6ė7ė8ė9Ė40ė1ė2ė3ė4ė5ė6ĘAė7ė8ĘAė9Ė50ĘAĘBĘ",
    "CĘDĘEĘFĘGĘHĘIė1ė2ĘAė3ė4ĘAė5ė6ė7ė8ė9Ė60ė1ė2ė3ė4ė5ė6ė7ĘAĘBĘCĘDĘEĘFĘGĘHĔE001ė2ė3ė4ė5ė6ė7ė8ĘAė9ĘAĖ10",
    "ė1ė2ė3ė4ė5ė6ĘAė7ĘAė8ė9Ė20ĘAė1ė2ė3ė4ė5ė6ė7ė8ĘAė9Ė30ė1ė2ė3ė4ĘAė6ė7ė8ĔF001ĘAė2ė3ė4ė5ė6ė7ė8ė9Ė10ė1ė2",
    "ė3ĘAė4ė5ė6ė7ė8ė9Ė20ė1ĘAė2ė3ė4ė5ė6ė7ė8ė9Ė30ė1ĘAė2ė3ė4ė5ė6ė7ĘAė8ĘAė9Ė40ė1ė2ė3ė4ė5ĘAė6ĘAė7ĘAė8ė9Ė50",
    "ė1ĘAĘBĘCė2ė3ĔG001ė2ė3ė4ė5ė6ĘAė7ĘAĘBė8ė9Ė10ė1ĘAė2ė3ė4ė5ė6ė7ė8ė9Ė20ĘAė1ė2ė3ė4ė5ė6ĘAė7ė8ė9Ė30ė1ė2ė3",
    "ė4ė5ė6ĘAė7ĘAė8ė9Ė40ė1ė2ė3ĘAė4ė5ĘAė6ė7ė8ė9Ė50ė1ė2ė3ė4ĔH001ė2ė3ė4ė5ė6ĘAė7ė8ĔI001ė2ė3ė4ė5ĘAė6ė7ė8ė9",
    "ĘAĖ10ĘAė1ĘAė2ė3ė4ė5ĔK001ė2ė3ė4ė5ė6ė7ė8ĔL001ė2ĘAė3ė4ė5ė6ĘAė7ė8ĔM001ĘAĘBė2ė3ĘAė4ė5ė6ė7ė8ė9Ė10ĘAė1ė",
    "2ĘAĘBĘCĘDĘEĘFĘGĘHė3ė4ė5ĘAė6ĘAė7ĘAė8ė9Ė20ė1ė2ĘAė3ė4ĘAė5ė6ė7ė8ĘAė9Ė30ė1ĘAė2ė3ĘAĘBė4ė5ė6ė7ė8ė9Ė40ĘA",
    "ė1ė2ė3ė4ĔN001ė2ė3ė4ė5ė6ė7ė8ė9Ė10ė1ė2ė3ė4ė5ė6ė7ė8ĘAĘBė9Ė20ė1ė2ė3ė4ė5ĘAė6ė7ė8ė9Ė30ė1ė2ė3ĘAė4ĘAė5ĘA",
    "ė6ė7ĘAė8ė9Ė40ė1ė2ĕL001Ę2Ę3Ę4Ę5ęAĘ6Ę7Ę8Ę9ė10Ę1Ę2Ę3Ę4Ę5Ę6Ę7ęAĘ8Ę9ė20ĕU001Ę2Ę3Ę4Ę5Ę6Ę7Ę8Ę9ė10ęAĘ1ęA",
    "Ę2Ę3Ę4Ę5Ę6Ę7Ę8ęAĘ9ė20Ę1Ę2ęAĔO001ĘAė2ė3ė4ė5ĘAė6ĘAĘBĘCĘDĘEĘFė7ė8ė9Ė10ĘAĘBĘCė1ė2ė3ė4ė5ė6ė7ė8ė9ĘAĖ20",
    "ĘAė1ė2ė3ė4ĘAė5ĘAė6ė7ė8ė9ĘAĖ30ĘAė1ė2ė3ĘAė4ė5ė6ĘAĘBĘCĘDė7ė8ė9Ė40ė1ė2ė3ė4ė5ė6ė7ė8ė9Ė50ĘAĘBė1ĔP001ĘA",
    "ė2ė3ĘAė4ė5ė6ė7ė8ė9Ė10ė1ĔQ001ė2ė3ė4ė5ė6ė7ĔR001ė2ĘAė3ĘAĘBė4ė5ė6ė7ė8ė9Ė10ĘAė1ė2ė3ė4ė5ė6ĘAė7ė8ė9Ė20ė",
    "1ė2ė3ė4ė5ė6ė7ė8ė9ĔS001ė2ĘAė3ė4ė5ė6ĘAė7ė8ė9Ė10ė1ė2ė3ė4ĘAĘBė5ė6ė7ĘAė8ė9Ė20ė1ė2ė3ė4ė5ė6ĘAĘBė7ė8ė9Ė3",
    "0ė1ė2ė3ė4ė5ĘAė6ė7ė8ė9Ė40ė1ė2ė3ė4ė5ė6ĔT001ė2ė3ĘAė4ė5ė6ė7ĘAė8ĘAė9ĘAĖ10ė1ĘAė2ė3ė4ė5ė6ĘAė7ė8ė9Ė20ė1ė",
    "2ė3ė4ė5ė6ė7ė8ė9Ė30ė1ė2ĘAė3ĘAė4ė5ė6ĔU001ė2ė3ė4ė5ė6ĘAĘBė7ė8ė9Ė10ė1ė2ė3ė4ė5ė6ė7ė8ė9Ė20ė1ė2ė3ĘAė4ė5ė",
    "6ė7ė8ė9ĘAĖ30ė1ė2ĘAė3ė4ė5ė6ė7ė8ė9Ė40ė1ė2ĔV001ĘAĘBĘCĘDĘEĘFĘGĘHĘIė2ĘAė3ė4ė5ė6ė7ĘAĘBė8ė9Ė10ė1ĘAĘBĘCė",
    "2ĘAĘBė3ė4ė5ė6ė7ė8ė9Ė20ĘAĘBĘCĘDĘEĘFĘGĘHĘIĘJĘKĘLė1ė2ė3ĘAė4ė5ė6ė7ė8ĘAė9ĘAĖ30ĘAė1ĘAė2ė3ĘAė4ė5ė6ė7ĘAė",
    "8ė9Ė40ĘAĔW001ė2ė3ĘAė4ė5ė6ė7ė8ė9ĘAĖ10ĘAė1ė2ė3ė4ĘAė5ė6ė7ĘAė8ĘAė9Ė20ė1ė2ė3ė4ĘAė5ĔX001ė2ė3ė4ĘAĘBė5ė6",
    "ĘAė7ė8ĘAĔY001ĘAė2ė3ė4ė5ė6ė7ė8ĔZ001ė2ĘAĘBĘCĘDė3ĘAĘBė4ĘAė5ĘAė6ė7ė8ė9Ė10ė1ė2ė3ė4ė5ĘAĘBĘCĘDĘEĘFĘGĘHĘ",
    "Iė6ĘAĘBĘCĘDĘEĘFĘGĘHĔAA001Ę2Ę3Ę4Ę5Ę6Ę7ęAęBĘ8Ę9ė10Ę1Ę2Ę3Ę4Ę5Ę6Ę7Ę8Ę9ė20Ę1Ę2Ę3Ę4Ę5Ę6Ę7Ę8Ę9ė30Ę1Ę2@1",
    "3430ĔVERTICAL JOINERĔHORIZONTAL JOINERĔINSERT AT TOP STARTĞBOTTOM STARTĞTOP ENDĞBOTTOM ENDĔOVERL",
    "AY MIDDLEĔBEGIN SEGMENTĔEND SEGMENT@14400ĀANATOLIAN HIEROGLYPH A001Ę2Ę3Ę4Ę5Ę6Ę7Ę8Ę9ė10ęAĘ1Ę2Ę3Ę4",
    "Ę5Ę6Ę7Ę8Ę9ė20Ę1Ę2Ę3Ę4Ę5Ę6ęAĘ7Ę8Ę9ė30Ę1Ę2Ę3Ę4Ę5Ę6Ę7Ę8Ę9ęAė40Ę1ęAĘ2Ę3Ę4Ę5ęAĘ6ęAęBĘ7Ę8Ę9ė50Ę1Ę2Ę3Ę4",
    "Ę5Ę6Ę7Ę8Ę9ė60Ę1Ę2Ę3Ę4Ę5Ę6ęAęBęCĘ7Ę8Ę9ė70Ę1Ę2Ę3Ę4Ę5Ę6Ę7Ę8Ę9ė80Ę1Ę2Ę3Ę4Ę5Ę6Ę7Ę8Ę9ė90Ę1Ę2Ę3Ę4Ę5Ę6Ę7",
    "ęAĘ8ęAĘ9Ė100ęAĘ1ęAĘ2ęAĘ3Ę4ęAęBęCĘ5ęAęBĘ6Ę7ęAęBęCĘ8Ę9ė10ęAęBĘ1Ę2Ę3Ę4Ę5ęAĘ6Ę7Ę8Ę9ė20Ę1Ę2Ę3Ę4Ę5ęAĘ6",
    "Ę7Ę8Ę9ė30Ę1Ę2Ę3Ę4Ę5ęAĘ6Ę7Ę8Ę9ė40Ę1Ę2Ę3Ę4Ę5Ę6Ę7Ę8Ę9ė50Ę1Ę2Ę3Ę4Ę5Ę6Ę7Ę8Ę9ė60Ę1Ę2Ę3Ę4Ę5Ę6Ę7Ę8Ę9ė70Ę",
    "1Ę2Ę3Ę4Ę5Ę6Ę7Ę8Ę9ė80Ę1Ę2Ę3Ę4Ę5Ę6Ę7Ę8Ę9ė90Ę1Ę2Ę3Ę4Ę5Ę6Ę7Ę8Ę9Ė200Ę1Ę2ęAęBĘ3Ę4Ę5Ę6Ę7ęAĘ8Ę9ęAė10Ę1Ę2",
    "Ę3Ę4Ę5ęAĘ6ęAĘ7Ę8Ę9ė20Ę1Ę2Ę3Ę4Ę5Ę6Ę7ęAĘ8Ę9ė30Ę1Ę2Ę3Ę4Ę5Ę6Ę7Ę8Ę9ė40Ę1Ę2Ę3Ę4Ę5Ę6Ę7Ę8Ę9ė50Ę1Ę2Ę3Ę4Ę5",
    "Ę6Ę7Ę8Ę9ė60Ę1Ę2Ę3Ę4Ę5Ę6Ę7ęAĘ8Ę9ė70Ę1Ę2Ę3Ę4Ę5Ę6Ę7Ę8Ę9ė80Ę1Ę2Ę3Ę4Ę5Ę6Ę7Ę8Ę9ęAė90Ę1Ę2Ę3Ę4ęAĘ5Ę6Ę7Ę8",
    "Ę9ęAĖ300Ę1Ę2Ę3Ę4Ę5Ę6Ę7Ę8Ę9ęAė10Ę1Ę2Ę3Ę4Ę5Ę6Ę7Ę8Ę9ė20Ę1Ę2Ę3Ę4Ę5Ę6Ę7Ę8Ę9ęAė30Ę1Ę2AęBęCĘ3Ę4Ę5Ę6ęAęB",
    "ęCĘ7Ę8Ę9ė40Ę1Ę2Ę3Ę4Ę5Ę6Ę7Ę8Ę9ė50Ę1Ę2Ę3Ę4Ę5Ę6Ę7Ę8Ę9ęAė60Ę1Ę2Ę3Ę4ęAĘ5Ę6Ę7Ę8ęAĘ9ė70Ę1ęAĘ2Ę3Ę4Ę5Ę6Ę7",
    "Ę8Ę9ė80Ę1ęAĘ2Ę3 RA OR RIęAĘ4Ę5Ę6ęAĘ7Ę8Ę9ė90Ę1Ę2Ę3 EIGHTĘ4Ę5Ę6Ę7Ę8Ę9Ė400Ę1Ę2Ę3Ę4Ę5Ę6Ę7Ę8Ę9ė10 BEG",
    "IN LOGOGRAM MARKęA END LOGOGRAM MARKĘ1Ę2Ę3Ę4Ę5Ę6Ę7Ę8Ę9ė20Ę1Ę2Ę3Ę4Ę5Ę6Ę7Ę8Ę9ė30Ę1Ę2Ę3Ę4Ę5Ę6Ę7Ę8Ę9",
    "ė40Ę1Ę2Ę3Ę4Ę5Ę6Ę7Ę8Ę9ė50ęAĘ1Ę2Ę3Ę4Ę5Ę6Ę7ęAĘ8Ę9ė60Ę1Ę2Ę3Ę4Ę5Ę6Ę7Ę8Ę9ė70Ę1Ę2Ę3Ę4Ę5Ę6Ę7Ę8Ę9ė80Ę1Ę2Ę",
    "3Ę4Ę5Ę6Ę7Ę8Ę9ė90Ę1Ę2Ę3Ę4Ę5Ę6Ę7Ė501Ę2Ę3Ę4Ę5Ę6Ę7Ę8Ę9ė10Ę1Ę2Ę3Ę4Ę5Ę6Ę7Ę8Ę9ė20Ę1Ę2Ę3Ę4Ę5Ę6Ę7Ę8Ę9ė30@",
    "16800ĀBAMUM LETTER PHASE-A NGKUE MFONĕGBIEE FONĕPON MFON PIPAEMGBIEEĤBAĕNAA MFONĕSHUENSHUETĕTITA",
    " MFONĕNZA MFONĕSHINDA PA NJIĕPON PA NJI PIPAEMGBIEEĦBAĕMAEMBGBIEEĕTU MAEMBAĕNGANGUĕMAEMVEUXėNSUA",
    "EĖVEUAENGAMĕSEUNYAMĕNTOQPENĕKEUKEUTNDAĕNKINDIĕSUUĕNGKUENZEUMĕLAPAQĖET KUTĕNTAP MFAAĕMAEKEUPĕPASH",
    "AEĕGHEUAERAEĕPAMSHAEĕMON NGGEUAETĕNZUN MEUTĕU YUQ NAEĕGHEUAEGHEUAEĕNTAP NTAAĕSISAĕMGBASAĖEUNJOMN",
    "DEUQĖOOMPUQĕKAFAĕPA LEERAEWAĕNDA LEERAEWAĕPETĕMAEMKPENĕNIKAĕPUPĕTUAEPĕLUAEPĕSONJAMĕTEUTEUWENĕMAE",
    "NYIĕKETĕNDAANGGEUAETĕKUOQĕMOOMEUTĕSHUMĕLOMMAEĕFIRIĕROMĕKPOQĕSOQĕMAP PIEETĕSHIRAEĕNTAPĕSHOQ NSHUT",
    " YUMĕNYIT MONGKEUAEQĕPAARAEĕNKAARAEĕUNKNOWNĕNGGENĕMAESIĕNJAMĕMBANYIĕNYETĕTEUAENĕSOTĕPAAMĕNSHIEEĕ",
    "MAEMĕNYIĕKAQĕNSHAĕVEEĕLUĕNENĖAQĕMBAQēB NSHUETĕTU MAEMGBIEEĕSIEEĖET TUĕLOM NTEUMĕMBA MAELEEĕKIEEM",
    "ĕYEURAEĕMBAARAEĕKAMĕPEESHIĕYAFU LEERAEWAĕLAM NSHUT NYAMĕNTIEE SHEUOQĖDU NJAAĕGHEUGHEUAEMĕPITĕTU ",
    "NSIEEĕSHET NJAQĘUAEQTUĕMFON TEUAEQĖBIT MBAAKETĕNYI NTEUMĕKEUPUQĕGHEUGHENĕKEUYEUXĕLAANAEĕPARUMĕVE",
    "UMĕNGKINDI MVOPėGEU MBUĕWUAETĕSAKEUAEĕTAAMĕMEUQĕNGGUOQě LARGEĕMFIYAQĕSUEĕMBEURIĖONTIEENĕNYAEMAEĕ",
    "PUNGAAMĕMEUT NGGEETĕFEUXĕMBUOQĕFEEĕKEUAEMĕMA NJEUAENAĚUQAĕLETĕNGGAAMĖSENĕMAĕKIQĕNGOMēC NGKUE MAE",
    "MBAĖZAĕYUMĕWANGKUOQĕNGGENĖDEUAEREEĖGKAQĕGHARAEĕMBEEKEETĕGBAYIĕNYIR MKPARAQ MEUNĖTU MBITĕMBEUMĕPI",
    "RIEENĕNDOMBUĕMBAA CABBAGE-TREEĕKEUSHEUAEPĕGHAPĕKEUKAQĕYU MUOMAEĕNZEUMĕMBUEĕNSEUAENĕMBITĕYEUQĕKPA",
    "RAQĖAAĕSEUXĕNDIDAĕTAASHAEĕNJUEQĕTITA YUEĕSUAETĕNGGUAEN NYAMĕVEUXĕNANSANAQĕMA KEUAERIĕNTAAĖGGUONĕ",
    "LAPĕMBIRIEENĖGBASAQĕNTEUNGBAĕTEUTEUXĕNGGUMĕFUEĕNDEUTĖSAėHAQĕBUNGĕVEUAEPENĕMBERAEĕRUĕNJAEMĕLAMĕTI",
    "TUAEPĕNSUOT NGOMĖJEEEEĕKETĕNGGUĕMAESIĖBUAEMĕLUĕKUTĕNJAMĖGOMĕWUPĕNGGUEETĖSOMĖTENĕKUOP NKAARAEĕNSU",
    "NĖDAMĕMA NSIEEĕYAAĕNDAPĕSHUEQĖETFONĕMBIĖAEMBAĖBANYIĕKEUSEUXĕMBEUXĕKEUMĕMBAA PICKETĕYUWOQĕNJEUXĕM",
    "IEEĖUAEĕSHIQĕKEN LAWęFATIGUEĕNGAQĖAQĕLIQĕPINĖENĕTETēD MBUOĕWAPĕNJIĕMFONĕNJIEEĕLIEEĕNJEUTĖSHEEĖGG",
    "AAMAEĖYAMĕWUAENĕNGKUNĕSHEEĕNGKAPĕKEUAETMEUNĕTEUTĕSHEUAEĕNJAPĕSUEĕKETĕYAEMMAEĕKUOMĕSAPĕMFEUTĕNDEU",
    "XĕMALEERIĖEUTĕSEUAEQĕYENĕNJEUAEMĕKEUOT MBUAEĕNGKEURIĕTUĕGHAAĕNGKYEEĕFEUFEUAETĕNDEEĕMGBOFUMĕLEUAE",
    "PĕNDONĕMONIĖGBEUNĕPUUTĕMGBIEEĖFOĕLUMĕNSIEEPĕMBAAĕKWAETĕNYETĕTEUAENĕSOTĕYUWOQĕKEUMĕRAEMĕTEEEEĕNGK",
    "EUAEQĕMFEUAEĕNSIEETĕKEUPĕPIPĖEUTAEĕNYUEĕLETĕNGGAAMĕMFIEEĕNGGWAENĕYUOMĕPAPĕYUOPĕNDAMĖTEUMĕSUAEĕKU",
    "NĕNGGEUXėKIEEĕTUOTĕMEUNĕKUQĕNSUMĕTEUNĕMAENJETĕNGGAPĕLEUMĕNGGUOMĖSHUTĖJUEQĕGHEUAEĕKUĕREN OLDĕTAEĖ",
    "OQĕNYIĕRIIĕLEEEEĕMEEEEĖĕSUUĕMUĕSHIIėEUXĕKYEEĕNUĕSHUĕNTEEĕPEEĕNIĕSHOQĕPUQĕMVOPĕLOQĕREN MUCHĕTIĕNT",
    "UUĕMBAA SEVENĕSAQĕFAAēE NDAPĕTOONĕMBEUMĕLAPĕVOMĕLOONĕPAAĕSOMĕRAQĕNSHUOPĖDUNĕPUAEĕTAMĕNGKAĕKPEUXĕ",
    "WUOĕSEEĕNGGEUAETĕPAAMĕTOOĕKUOPĕLOMĕNSHIEEĖGOPĕMAEMĕNGKEUXėOQĖSHUEĕRIMGBAĕNJEUXĕPEEMĕSAAĕNGGURAEĕ",
    "MGBAĕGHEUXĕNGKEUAEMĖJAEMLIĕMAPĕLOOTĕNGGEEEEĖDIQĕTAEN NTEUMĕSETĕPUMĕNDAA SOFTNESSĖGGUAESHAE NYAMĕ",
    "YIEEĕGHEUNĕTUAEĕYEUAEĕPOĕTUMAEĕKEUAEĕSUAENĕTEUAEQĕVEUAEĕWEUXĕLAAMĕPUĕTAAQĕGHAAMAEĕNGEUREUTĕSHEUA",
    "EQĕMGBENĖBEEĕNZAQĖKOMĕGBETĕTUMĕKUETĕYAPĕNYI CLEAVERĕYITĕMFEUQĕNDIAQĕPIEEQĕYUEQĕLEUAEMĕFUEĕGBEUXĕ",
    "NGKUPĕKETĕMAEĕNGKAAMIĕGHETĕFAĕNTUMĕPEUTĕYEUMĕNGGEUAEĖYI BETWEENĖZUQĕPOONĕMIEEĕFUETĕNAEĕMUAEĕGHEU",
    "AEĕFU IĕMVIĕPUAQĕNGKUMĕKUTĕPIETĕNTAPĕYEUAETĕNGGUPĕPA PEOPLEĕFU CALLĖOMĕNJEEĕAĕTOQĕOĕIĕLAQĕPA PLU",
    "RALĕTAAėQĕNDAA MY HOUSEĕSHIQĕYEUXĕNGUAEĕYUAENĖOQ SWIMMINGęCOVERĖUQėNĕKEUXĕPEUXĕNJEE EPOCHĕPUEĕWU",
    "EĕFEEĕVEEĕLUĕMIĕREUXĖAEĕNGUAETėAĕSHOĘQĕFU REMEDYĕNAĕPIĕLOQĕKOĕMENĖAėQĕTEUĕKIĕMONĕTENĕFAQĕGHOMēF ",
    "KAĕUĕKUĕEEĕREEĕTAEĕNYIĕLAĕRIIėEEĕMEEEEĕTAAĕNDAAĖJAEMĕMĕSUUĖHIIĖIĖEUXĕKYEEĖETĕNUAEėĖJUAEĕYOQĕSHUĕ",
    "YAĕNSHAĕPEUXĕNTEEĕWUEĕPEEĕRUĕNIĕREUXĕKENĕNGKWAENėGAĕSHOĕPUAEĕFOMĕWAĕLIĖOQĕKOĕMBENĕRENĕMAĖOĖBAAĕT",
    "ETĕKPAĕSAMBAĕVUEQ@16A40ĀMRO LETTER TAċNGIċYOċMIMċBAċDAċAċPHIċKHAIċHAOċDAIċCHUċKEAAEċOLċMAEMċNINċ",
    "PAċOOČċROċSHIċTHEAċEAċWAċEċKOċLANčċHAIċRIċTEK@16A60ĄDIGIT ZEROĊONEĊTWOċHREEĊFOURċIVEĊSIXċEVENĊEI",
    "GHTĊNINE@16A6EąANDAąOUBLE DANDAĀTANGSA LETTER OZďCďQďXĎAZďCďQďXĎVZďCďQďXĎEZďCďQďXĎIZďCďQďXĎUZďCď",
    "QďXĎAWZĐCĐQĐXĎUIZĐCĐQĐXĎFINAL NGĎLONG UEXĎSHORT UEZĔAWXĎUECĐZĐQĐXďIUZđCđQđXĎMZďCďQďXĎKAďHAĎGAĎNG",
    "AĎSAĎYAĎWAĎPAĎNYAĎPHAĎBAĎMAĎNAĎHAĎLAĎHTAĎTAĎDAĎRAĎNHAĎSHAĎCAĎTSAĎGHAĎHTTAĎTHAĎXAĎFAĎDHAĎCHAĎZA@1",
    "6AC0ćDIGIT ZEROčONEčTWOĎHREEčFOURĎIVEčSIXĎEVENčEIGHTčNINE@16AD0ĀBASSA VAH LETTER ENNIđKAđSEđFAđM",
    "BEđYIEđGAHđDHIIđKPAHđJOđHWAHđWAđZOđGBUđDOđCEđUWUđTOđBAđVUđYEINđPAđWADDAđAđOĒOđUđEEĒđI@16AF0ĊCOMB",
    "INING HIGH TONEĔLOW TONEĔMID TONEĔLOW-MID TONEĔHIGH-LOW TONEĊFULL STOP@16B00ĀPAHAWH HMONG VOWEL ",
    "KEEBĖVĔIBĕVĔAUBĖVĔUBĕVĔEBĕVĔAIBĖVĔOOBĖVĔAWBĖVĔUABĖVĔOBĕVĔIABĖVĔABĕVĔWBĕVĔAABĖVčCONSONANT VAUėNTS",
    "AUėLAUėHAUėNLAUėRAUėNKAUėQHAUėYAUėHLAUėMAUėCHAUėNCHAUėHNAUėPLHAUėNTHAUĘAUėAUėXAUėCAUčMARK CIM TU",
    "BĖSOĖKESėHAVĖSUAMĖHOMĖTAUMčSIGN VOS THOMėSHAB CEEBĒCIM CHEEMĒVOS THIABĖFEEMĒXYEEM NTXIVĘRHOĘTOVĘ",
    "FAIBĒVOS SEEVĒMEEJ SUABĒVOS NRUAĒIB YAMĒXAUSĒCIM TSOV ROG@16B50čDIGIT ZEROēONEēTWOĔHREEēFOURĔIVE"],
  String.join [
    "ēSIXĔEVENēEIGHTēNINE@16B5BčNUMBER TENSĔHUNDREDSĔTEN THOUSANDSĔMILLIONSĔHUNDRED MILLIONSĔTEN BILL",
    "IONSĕRILLIONS@16B63čSIGN VOS LUBĒXYOOĒHLIĒTHIRD-STAGE HLIĒZWJ THAJĒHNUBĒNQIGĒXIABĒNTUJĒAVĒTXHEEJ",
    " CEEVĒMEEJ TSEEBĒTAUĒLOSĒMUSĒCIM HAIS LUS NTOG NTOGĖCUAM TSHOOJĖTXWVĚ CHWVĖPUB DAWBĖNRES TOS@16B",
    "7DčCLAN SIGN TSHEEJėYEEGėLISĘAUJėXYOOJėKOOėHAWJėMUASėTHOJĘSABėPHABėKHABėHAMėVAJėFAJėYAJėTSWBėKWM",
    "ėVWJ@16E40ĀMEDEFAIDRIN CAPITAL LETTER MěSěVěWěATIUěZěKPěPěTěGěFěIěKěAěJěEěBěCěUěYUěLěQěHPěNYěXěD",
    "ěOEěNěRěOěAIěYČSMALL LETTER MęSęVęWęATIUęZęKPęPęTęGęFęIęKęAęJęEęBęCęUęYUęLęQęHPęNYęXęDęOEęNęRęOę",
    "AIęYČDIGIT ZEROĒONEĒTWOēHREEĒFOURēIVEĒSIXēEVENĒEIGHTĒNINEČNUMBER TENēELEVENēTWELVEĔHIRTEENēFOURT",
    "EENĔIFTEENēSIXTEENĔEVENTEENēEIGHTEENēNINETEENČDIGIT ONE ALTERNATE FORMĒTWO ALTERNATE FORMēHREE A",
    "LTERNATE FORMČCOMMAČFULL STOPČSYMBOL AIVAČEXCLAMATION OH@16F00āIAO LETTER PAČBAČYI PAČPLAČMAčHAČ",
    "ARCHAIC MAČFAČVAčFAČTAČDAČYI TTAĐAČTTAČDDAČNAčHAČYI NNAČARCHAIC NAČNNAĎHAČLAčYAčHAĎYAČTLHAČDLHAČ",
    "TLHYAČDLHYAČKAČGAČYI KAČQAčGAČNGAĎHAČARCHAIC NGAČHAČXAČGHAĎHAČTSSAČDZZAČNYAĎHAČTSHAČDZHAČYI TSHA",
    "ďDZHAČREFORMED TSHAČSHAčSAČZHAčSHAČTSAČDZAČYI TSAČSAČZAčSAčZAĎSAČARCHAIC ZZAČZZYAĎSYAČWAČAHČHHAČ",
    "BRIČSYIČDZYIČTEčSEČRTE@16F4FąSIGN CONSONANT MODIFIER BARąLETTER NASALIZATIONąSIGN ASPIRATIONĊREF",
    "ORMED VOICINGēASPIRATIONąVOWEL SIGN AđAđHHđNĒGĐOđOĐWOđĐEđNĒGĐOEYĐIđAĒNēGđOđEđIđUđNGĐUđAĒNēGđUđEI",
    "đNGĐYđIĐAEĒEĐERRĐROUNDED ERRĐERĐROUNDED ERĐAIĐEIĐAUĐOUĐNđGĐUOGĐYUIĐOGđERĐVWĐIGĐEAĐIONGĐUI@16F8Fą",
    "TONE RIGHTĊTOP RIGHTĊABOVEĊBELOWąLETTER TONE-2đ3đ4đ5đ6đ7đ8ČREFORMED TONE-1Ě2Ě4Ě5Ě6Ě8@16FE0ĀTANGU",
    "T ITERATION MARKĀNUSHU ITERATION MARKĀOLD CHINESE HOOK MARKČITERATION MARKĀKHITAN SMALL SCRIPT F",
    "ILLER@16FF0ĀVIETNAMESE ALTERNATE READING MARK CAĢNHAY@18800ĀTANGUT COMPONENT-001ē2ē3ē4ē5ē6ē7ē8ē9",
    "Ē10ē1ē2ē3ē4ē5ē6ē7ē8ē9Ē20ē1ē2ē3ē4ē5ē6ē7ē8ē9Ē30ē1ē2ē3ē4ē5ē6ē7ē8ē9Ē40ē1ē2ē3ē4ē5ē6ē7ē8ē9Ē50ē1ē2ē3ē4ē",
    "5ē6ē7ē8ē9Ē60ē1ē2ē3ē4ē5ē6ē7ē8ē9Ē70ē1ē2ē3ē4ē5ē6ē7ē8ē9Ē80ē1ē2ē3ē4ē5ē6ē7ē8ē9Ē90ē1ē2ē3ē4ē5ē6ē7ē8ē9đ10",
    "0ē1ē2ē3ē4ē5ē6ē7ē8ē9Ē10ē1ē2ē3ē4ē5ē6ē7ē8ē9Ē20ē1ē2ē3ē4ē5ē6ē7ē8ē9Ē30ē1ē2ē3ē4ē5ē6ē7ē8ē9Ē40ē1ē2ē3ē4ē5ē",
    "6ē7ē8ē9Ē50ē1ē2ē3ē4ē5ē6ē7ē8ē9Ē60ē1ē2ē3ē4ē5ē6ē7ē8ē9Ē70ē1ē2ē3ē4ē5ē6ē7ē8ē9Ē80ē1ē2ē3ē4ē5ē6ē7ē8ē9Ē90ē1",
    "ē2ē3ē4ē5ē6ē7ē8ē9đ200ē1ē2ē3ē4ē5ē6ē7ē8ē9Ē10ē1ē2ē3ē4ē5ē6ē7ē8ē9Ē20ē1ē2ē3ē4ē5ē6ē7ē8ē9Ē30ē1ē2ē3ē4ē5ē6ē",
    "7ē8ē9Ē40ē1ē2ē3ē4ē5ē6ē7ē8ē9Ē50ē1ē2ē3ē4ē5ē6ē7ē8ē9Ē60ē1ē2ē3ē4ē5ē6ē7ē8ē9Ē70ē1ē2ē3ē4ē5ē6ē7ē8ē9Ē80ē1ē2",
    "ē3ē4ē5ē6ē7ē8ē9Ē90ē1ē2ē3ē4ē5ē6ē7ē8ē9đ300ē1ē2ē3ē4ē5ē6ē7ē8ē9Ē10ē1ē2ē3ē4ē5ē6ē7ē8ē9Ē20ē1ē2ē3ē4ē5ē6ē7ē",
    "8ē9Ē30ē1ē2ē3ē4ē5ē6ē7ē8ē9Ē40ē1ē2ē3ē4ē5ē6ē7ē8ē9Ē50ē1ē2ē3ē4ē5ē6ē7ē8ē9Ē60ē1ē2ē3ē4ē5ē6ē7ē8ē9Ē70ē1ē2ē3",
    "ē4ē5ē6ē7ē8ē9Ē80ē1ē2ē3ē4ē5ē6ē7ē8ē9Ē90ē1ē2ē3ē4ē5ē6ē7ē8ē9đ400ē1ē2ē3ē4ē5ē6ē7ē8ē9Ē10ē1ē2ē3ē4ē5ē6ē7ē8ē",
    "9Ē20ē1ē2ē3ē4ē5ē6ē7ē8ē9Ē30ē1ē2ē3ē4ē5ē6ē7ē8ē9Ē40ē1ē2ē3ē4ē5ē6ē7ē8ē9Ē50ē1ē2ē3ē4ē5ē6ē7ē8ē9Ē60ē1ē2ē3ē4",
    "ē5ē6ē7ē8ē9Ē70ē1ē2ē3ē4ē5ē6ē7ē8ē9Ē80ē1ē2ē3ē4ē5ē6ē7ē8ē9Ē90ē1ē2ē3ē4ē5ē6ē7ē8ē9đ500ē1ē2ē3ē4ē5ē6ē7ē8ē9Ē",
    "10ē1ē2ē3ē4ē5ē6ē7ē8ē9Ē20ē1ē2ē3ē4ē5ē6ē7ē8ē9Ē30ē1ē2ē3ē4ē5ē6ē7ē8ē9Ē40ē1ē2ē3ē4ē5ē6ē7ē8ē9Ē50ē1ē2ē3ē4ē5",
    "ē6ē7ē8ē9Ē60ē1ē2ē3ē4ē5ē6ē7ē8ē9Ē70ē1ē2ē3ē4ē5ē6ē7ē8ē9Ē80ē1ē2ē3ē4ē5ē6ē7ē8ē9Ē90ē1ē2ē3ē4ē5ē6ē7ē8ē9đ600",
    "ē1ē2ē3ē4ē5ē6ē7ē8ē9Ē10ē1ē2ē3ē4ē5ē6ē7ē8ē9Ē20ē1ē2ē3ē4ē5ē6ē7ē8ē9Ē30ē1ē2ē3ē4ē5ē6ē7ē8ē9Ē40ē1ē2ē3ē4ē5ē6",
    "ē7ē8ē9Ē50ē1ē2ē3ē4ē5ē6ē7ē8ē9Ē60ē1ē2ē3ē4ē5ē6ē7ē8ē9Ē70ē1ē2ē3ē4ē5ē6ē7ē8ē9Ē80ē1ē2ē3ē4ē5ē6ē7ē8ē9Ē90ē1ē",
    "2ē3ē4ē5ē6ē7ē8ē9đ700ē1ē2ē3ē4ē5ē6ē7ē8ē9Ē10ē1ē2ē3ē4ē5ē6ē7ē8ē9Ē20ē1ē2ē3ē4ē5ē6ē7ē8ē9Ē30ē1ē2ē3ē4ē5ē6ē7",
    "ē8ē9Ē40ē1ē2ē3ē4ē5ē6ē7ē8ē9Ē50ē1ē2ē3ē4ē5ē6ē7ē8ē9Ē60ē1ē2ē3ē4ē5ē6ē7ē8ĀKHITAN SMALL SCRIPT CHARACTER-",
    "18B00Ģ1Ģ2Ģ3Ģ4Ģ5Ģ6Ģ7Ģ8Ģ9ĢAĢBĢCĢDĢEĢFġ10Ģ1Ģ2Ģ3Ģ4Ģ5Ģ6Ģ7Ģ8Ģ9ĢAĢBĢCĢDĢEĢFġ20Ģ1Ģ2Ģ3Ģ4Ģ5Ģ6Ģ7Ģ8Ģ9ĢAĢBĢCĢ",
    "DĢEĢFġ30Ģ1Ģ2Ģ3Ģ4Ģ5Ģ6Ģ7Ģ8Ģ9ĢAĢBĢCĢDĢEĢFġ40Ģ1Ģ2Ģ3Ģ4Ģ5Ģ6Ģ7Ģ8Ģ9ĢAĢBĢCĢDĢEĢFġ50Ģ1Ģ2Ģ3Ģ4Ģ5Ģ6Ģ7Ģ8Ģ9ĢAĢB",
    "ĢCĢDĢEĢFġ60Ģ1Ģ2Ģ3Ģ4Ģ5Ģ6Ģ7Ģ8Ģ9ĢAĢBĢCĢDĢEĢFġ70Ģ1Ģ2Ģ3Ģ4Ģ5Ģ6Ģ7Ģ8Ģ9ĢAĢBĢCĢDĢEĢFġ80Ģ1Ģ2Ģ3Ģ4Ģ5Ģ6Ģ7Ģ8Ģ9Ģ",
    "AĢBĢCĢDĢEĢFġ90Ģ1Ģ2Ģ3Ģ4Ģ5Ģ6Ģ7Ģ8Ģ9ĢAĢBĢCĢDĢEĢFġA0Ģ1Ģ2Ģ3Ģ4Ģ5Ģ6Ģ7Ģ8Ģ9ĢAĢBĢCĢDĢEĢFġB0Ģ1Ģ2Ģ3Ģ4Ģ5Ģ6Ģ7Ģ8",
    "Ģ9ĢAĢBĢCĢDĢEĢFġC0Ģ1Ģ2Ģ3Ģ4Ģ5Ģ6Ģ7Ģ8Ģ9ĢAĢBĢCĢDĢEĢFġD0Ģ1Ģ2Ģ3Ģ4Ģ5Ģ6Ģ7Ģ8Ģ9ĢAĢBĢCĢDĢEĢFġE0Ģ1Ģ2Ģ3Ģ4Ģ5Ģ6Ģ",
    "7Ģ8Ģ9ĢAĢBĢCĢDĢEĢFġF0Ģ1Ģ2Ģ3Ģ4Ģ5Ģ6Ģ7Ģ8Ģ9ĢAĢBĢCĢDĢEĢFĠC00Ģ1Ģ2Ģ3Ģ4Ģ5Ģ6Ģ7Ģ8Ģ9ĢAĢBĢCĢDĢEĢFġ10Ģ1Ģ2Ģ3Ģ4Ģ",
    "5Ģ6Ģ7Ģ8Ģ9ĢAĢBĢCĢDĢEĢFġ20Ģ1Ģ2Ģ3Ģ4Ģ5Ģ6Ģ7Ģ8Ģ9ĢAĢBĢCĢDĢEĢFġ30Ģ1Ģ2Ģ3Ģ4Ģ5Ģ6Ģ7Ģ8Ģ9ĢAĢBĢCĢDĢEĢFġ40Ģ1Ģ2Ģ3",
    "Ģ4Ģ5Ģ6Ģ7Ģ8Ģ9ĢAĢBĢCĢDĢEĢFġ50Ģ1Ģ2Ģ3Ģ4Ģ5Ģ6Ģ7Ģ8Ģ9ĢAĢBĢCĢDĢEĢFġ60Ģ1Ģ2Ģ3Ģ4Ģ5Ģ6Ģ7Ģ8Ģ9ĢAĢBĢCĢDĢEĢFġ70Ģ1Ģ",
    "2Ģ3Ģ4Ģ5Ģ6Ģ7Ģ8Ģ9ĢAĢBĢCĢDĢEĢFġ80Ģ1Ģ2Ģ3Ģ4Ģ5Ģ6Ģ7Ģ8Ģ9ĢAĢBĢCĢDĢEĢFġ90Ģ1Ģ2Ģ3Ģ4Ģ5Ģ6Ģ7Ģ8Ģ9ĢAĢBĢCĢDĢEĢFġA0",
    "Ģ1Ģ2Ģ3Ģ4Ģ5Ģ6Ģ7Ģ8Ģ9ĢAĢBĢCĢDĢEĢFġB0Ģ1Ģ2Ģ3Ģ4Ģ5Ģ6Ģ7Ģ8Ģ9ĢAĢBĢCĢDĢEĢFġC0Ģ1Ģ2Ģ3Ģ4Ģ5Ģ6Ģ7Ģ8Ģ9ĢAĢBĢCĢDĢEĢF",
    "ġD0Ģ1Ģ2Ģ3Ģ4Ģ5@1AFF0āATAKANA LETTER MINNAN TONE-2Ĝ3Ĝ4Ĝ5@1AFF5Ĝ7Ĝ8ėNASALIZED TONE-1Ħ2Ħ3Ħ4Ħ5@1AFFDĦ",
    "7Ħ8@1B000ĐARCHAIC EĀHIRAGANA LETTER ARCHAIC YEāENTAIGANA LETTER A-1Ĕ2Ĕ3ĔWOĒI-1Ĕ2Ĕ3Ĕ4ĒU-1Ĕ2Ĕ3Ĕ4Ĕ5",
    "ĒE-2Ĕ3Ĕ4Ĕ5Ĕ6ĒO-1Ĕ2Ĕ3ĒKA-1ĕ2ĕ3ĕ4ĕ5ĕ6ĕ7ĕ8ĕ9ĕ10Ė1ĕKEēI-1ĕ2ĕ3ĕ4ĕ5ĕ6ĕ7ĕ8ēU-1ĕ2ĕ3ĕ4ĕ5ĕ6ĕ7ēE-1ĕ2ĕ3ĕ4ĕ5ĕ",
    "6ēO-1ĕ2ĕ3ĕKIĒSA-1ĕ2ĕ3ĕ4ĕ5ĕ6ĕ7ĕ8ēI-1ĕ2ĕ3ĕ4ĕ5ĕ6ēU-1ĕ2ĕ3ĕ4ĕ5ĕ6ĕ7ĕ8ēE-1ĕ2ĕ3ĕ4ĕ5ēO-1ĕ2ĕ3ĕ4ĕ5ĕ6ĕ7ĒTA-1",
    "ĕ2ĕ3ĕ4ēI-1ĕ2ĕ3ĕ4ĕ5ĕ6ĕ7ēU-1ĕ2ĕ3ĕ4ĕTOēE-1ĕ2ĕ3ĕ4ĕ5ĕ6ĕ7ĕ8ĕ9ēO-1ĕ2ĕ3ĕ4ĕ5ĕ6ĕRAĒNA-1ĕ2ĕ3ĕ4ĕ5ĕ6ĕ7ĕ8ĕ9ēI-",
    "1ĕ2ĕ3ĕ4ĕ5ĕ6ĕ7ĕTEēU-1ĕ2ĕ3ēE-1ĕ2ĕ3ĕ4ĕ5ĕ6ĕKOēO-1ĕ2ĕ3ĕ4ĕ5ĒHA-1ĕ2ĕ3ĕ4ĕ5ĕ6ĕ7ĕ8ĕ9ĕ10Ė1ēI-1ĕ2ĕ3ĕ4ĕ5ĕ6ĕ7ē",
    "U-1ĕ2ĕ3ēE-1ĕ2ĕ3ĕ4ĕ5ĕ6ĕ7ēO-1ĕ2ĕ3ĕ4ĕ5ĕ6ĕ7ĕ8ĒMA-1ĕ2ĕ3ĕ4ĕ5ĕ6ĕ7ēI-1ĕ2ĕ3ĕ4ĕ5ĕ6ĕ7ēU-1ĕ2ĕ3ĕ4ēE-1ĕ2ĕMAēO-",
    "1ĕ2ĕ3ĕ4ĕ5ĕ6ĒYA-1ĕ2ĕ3ĕ4ĕ5ĕYOēU-1ĕ2ĕ3ĕ4ēO-1ĕ2ĕ3ĕ4ĕ5ĕ6ĒRA-1ĕ2ĕ3ĕ4ēI-1ĕ2ĕ3ĕ4ĕ5ĕ6ĕ7ēU-1ĕ2ĕ3ĕ4ĕ5ĕ6ēE-1",
    "ĕ2ĕ3ĕ4ēO-1ĕ2ĕ3ĕ4ĕ5ĕ6ĒWA-1ĕ2ĕ3ĕ4ĕ5ēI-1ĕ2ĕ3ĕ4ĕ5ēE-1ĕ2ĕ3ĕ4ēO-1ĕ2ĕ3ĕ4ĕ5ĕ6ĕ7ĒN-MU-MO-1Ě2āIRAGANA LETT",
    "ER ARCHAIC WUĀKATAKANA LETTER ARCHAIC YIęEĘWU@1B150ĀHIRAGANA LETTER SMALL WIėEėO@1B164ĀKATAKANA ",
    "LETTER SMALL WIėEėOĖN@1B170ĀNUSHU CHARACTER-1B170Ĕ1Ĕ2Ĕ3Ĕ4Ĕ5Ĕ6Ĕ7Ĕ8Ĕ9ĔAĔBĔCĔDĔEĔFē80Ĕ1Ĕ2Ĕ3Ĕ4Ĕ5Ĕ6Ĕ7",
    "Ĕ8Ĕ9ĔAĔBĔCĔDĔEĔFē90Ĕ1Ĕ2Ĕ3Ĕ4Ĕ5Ĕ6Ĕ7Ĕ8Ĕ9ĔAĔBĔCĔDĔEĔFēA0Ĕ1Ĕ2Ĕ3Ĕ4Ĕ5Ĕ6Ĕ7Ĕ8Ĕ9ĔAĔBĔCĔDĔEĔFēB0Ĕ1Ĕ2Ĕ3Ĕ4Ĕ5Ĕ",
    "6Ĕ7Ĕ8Ĕ9ĔAĔBĔCĔDĔEĔFēC0Ĕ1Ĕ2Ĕ3Ĕ4Ĕ5Ĕ6Ĕ7Ĕ8Ĕ9ĔAĔBĔCĔDĔEĔFēD0Ĕ1Ĕ2Ĕ3Ĕ4Ĕ5Ĕ6Ĕ7Ĕ8Ĕ9ĔAĔBĔCĔDĔEĔFēE0Ĕ1Ĕ2Ĕ3Ĕ4",
    "Ĕ5Ĕ6Ĕ7Ĕ8Ĕ9ĔAĔBĔCĔDĔEĔFēF0Ĕ1Ĕ2Ĕ3Ĕ4Ĕ5Ĕ6Ĕ7Ĕ8Ĕ9ĔAĔBĔCĔDĔEĔFĒ200Ĕ1Ĕ2Ĕ3Ĕ4Ĕ5Ĕ6Ĕ7Ĕ8Ĕ9ĔAĔBĔCĔDĔEĔFē10Ĕ1Ĕ2",
    "Ĕ3Ĕ4Ĕ5Ĕ6Ĕ7Ĕ8Ĕ9ĔAĔBĔCĔDĔEĔFē20Ĕ1Ĕ2Ĕ3Ĕ4Ĕ5Ĕ6Ĕ7Ĕ8Ĕ9ĔAĔBĔCĔDĔEĔFē30Ĕ1Ĕ2Ĕ3Ĕ4Ĕ5Ĕ6Ĕ7Ĕ8Ĕ9ĔAĔBĔCĔDĔEĔFē40Ĕ",
    "1Ĕ2Ĕ3Ĕ4Ĕ5Ĕ6Ĕ7Ĕ8Ĕ9ĔAĔBĔCĔDĔEĔFē50Ĕ1Ĕ2Ĕ3Ĕ4Ĕ5Ĕ6Ĕ7Ĕ8Ĕ9ĔAĔBĔCĔDĔEĔFē60Ĕ1Ĕ2Ĕ3Ĕ4Ĕ5Ĕ6Ĕ7Ĕ8Ĕ9ĔAĔBĔCĔDĔEĔFē",
    "70Ĕ1Ĕ2Ĕ3Ĕ4Ĕ5Ĕ6Ĕ7Ĕ8Ĕ9ĔAĔBĔCĔDĔEĔFē80Ĕ1Ĕ2Ĕ3Ĕ4Ĕ5Ĕ6Ĕ7Ĕ8Ĕ9ĔAĔBĔCĔDĔEĔFē90Ĕ1Ĕ2Ĕ3Ĕ4Ĕ5Ĕ6Ĕ7Ĕ8Ĕ9ĔAĔBĔCĔDĔE",
    "ĔFēA0Ĕ1Ĕ2Ĕ3Ĕ4Ĕ5Ĕ6Ĕ7Ĕ8Ĕ9ĔAĔBĔCĔDĔEĔFēB0Ĕ1Ĕ2Ĕ3Ĕ4Ĕ5Ĕ6Ĕ7Ĕ8Ĕ9ĔAĔBĔCĔDĔEĔFēC0Ĕ1Ĕ2Ĕ3Ĕ4Ĕ5Ĕ6Ĕ7Ĕ8Ĕ9ĔAĔBĔCĔ",
    "DĔEĔFēD0Ĕ1Ĕ2Ĕ3Ĕ4Ĕ5Ĕ6Ĕ7Ĕ8Ĕ9ĔAĔBĔCĔDĔEĔFēE0Ĕ1Ĕ2Ĕ3Ĕ4Ĕ5Ĕ6Ĕ7Ĕ8Ĕ9ĔAĔBĔCĔDĔEĔFēF0Ĕ1Ĕ2Ĕ3Ĕ4Ĕ5Ĕ6Ĕ7Ĕ8Ĕ9ĔAĔB",
    "@1BC00ĀDUPLOYAN LETTER HĐXĐPĐTĐFĐKĐLĐBĐDĐVĐGĐRĐP NĐD SĐF NĐK MĐR SĐTHĐSLOAN DHĐDHĐKKĐSLOAN JĐHLĐ",
    "LHĐRHĐMĐNĐJĐSĐM NĐN MĐJ MĐS JĐM WITH DOTĐN WITH DOTĐJ WITH DOTĚS INSIDE AND ABOVEĐS WITH DOTĚ BE",
    "LOWĐM SĐN SĐJ SĐS SĐM N SĐN M SĐJ M SĐS J SĐJ S WITH DOTĒNē SĐS Tē RĒPē RĐT SĒR SĐWđHđ RĐS NĒMĐK",
    " R SĐG R SĐS Kē RĐAĐSLOAN OWĐOAđĐAOUĐIĐEĐIEĐSHORT IĐUIĐEEĐSLOAN EHĐROMANIAN IĐSLOAN EEĐLONG IĐYE",
    "ĐUĐEUĐXWĐU NĐLONG UĐROMANIAN UĐUHĐSLOAN UĐOOHđWđUĐWAđOđIđEIđOWĐNASAL UĖOĖIĖAĐPERNIN ANĘMĐSLOAN E",
    "NĖANĖONĐVOCALIC M@1BC70ĉAFFIX LEFT HORIZONTAL SECANTďMID HORIZONTAL SECANTďRIGHT HORIZONTAL SECA",
    "NTďLOW VERTICAL SECANTďMID VERTICAL SECANTďHIGH VERTICAL SECANTďATTACHED SECANTĘLEFT-TO-RIGHT SE",
    "CANTĘTANGENTĚILĘE HOOKĘI HOOKĘTANGENT HOOK@1BC80ďHIGH ACUTEĔTIGHT ACUTEĔGRAVEĔLONG GRAVEĔDOTĔCIR",
    "CLEĔLINEĔWAVEĔVERTICAL@1BC90ďLOW ACUTEēTIGHT ACUTEēGRAVEēLONG GRAVEēDOTēCIRCLEēLINEēWAVEēVERTICA",
    "LēARROW@1BC9CĉSIGN O WITH CROSSĉTHICK LETTER SELECTORĉDOUBLE MARKĉPUNCTUATION CHINOOK FULL STOPĀ",
    "SHORTHAND FORMAT LETTER OVERLAPđCONTINUING OVERLAPđDOWN STEPđUP STEP@1CF00ĀZNAMENNY COMBINING MA",
    "RK GORAZDO NIZKO S KRYZHEM ON LEFTĘNIZKO S KRYZHEM ON LEFTĘTSATA ON LEFTĘGORAZDO NIZKO ON LEFTĘN",
    "IZKO ON LEFTĘSREDNE ON LEFTĘMALO POVYSHE ON LEFTĘPOVYSHE ON LEFTĘVYSOKO ON LEFTĘMALO POVYSHE S K",
    "HOKHLOM ON LEFTĘPOVYSHE S KHOKHLOM ON LEFTĘVYSOKO S KHOKHLOM ON LEFTĘGORAZDO NIZKO S KRYZHEM ON ",
    "RIGHTĘNIZKO S KRYZHEM ON RIGHTĘTSATA ON RIGHTĘGORAZDO NIZKO ON RIGHTĘNIZKO ON RIGHTĘSREDNE ON RI",
    "GHTĘMALO POVYSHE ON RIGHTĘPOVYSHE ON RIGHTĘVYSOKO ON RIGHTĘMALO POVYSHE S KHOKHLOM ON RIGHTĘPOVY",
    "SHE S KHOKHLOM ON RIGHTĘVYSOKO S KHOKHLOM ON RIGHTĘTSATA S KRYZHEMĘMALO POVYSHE S KRYZHEMĘSTRANN",
    "O MALO POVYSHEĘPOVYSHE S KRYZHEMġTRANNOĘVYSOKO S KRYZHEMĘMALO POVYSHE STRANNOĘGORAZDO VYSOKOĘZEL",
    "OĘONĘRAVNOĘTIKHAYAĘBORZAYAĘUDARKAĘPODVERTKAĘLOMKAĘKUPNAYAęACHKAĘZEVOKĘSKOBAĘRAZSEKAĘKRYZH ON LEF",
    "T@1CF30ēTONAL RANGE MARK MRACHNOĤSVETLOĤTRESVETLOēMARK ZADERZHKAĘDEMESTVENNY ZADERZHKAĘOTSECHKAĘ",
    "PODCHASHIEĢ WITH VERTICAL STROKEĘCHASHKAğ POLNAYAĘOBLACHKOĘSOROCHYA NOZHKAĘTOCHKAĘDVOETOCHIEēATT",
    "ACHING VERTICAL OMETēMARK CURVED OMETĘKRYZHēLOWER TONAL RANGE INDICATORĉPRIZNAK MODIFIER LEVEL-2",
    "Ġ3ĚDIRECTION FLIPĚKRYZHĚROG@1CF50ĉNEUME KRYUKĔ TIKHYďPARAKLITďDVA V CHELNUďKLYUCHďZANOZHEKďSTOPI",
    "TSAė S OCHKOMďPEREVODKAĘ NEPOSTOYANNAYAďSTOPITSA WITH SOROCHYA NOZHKAďCHELYUSTKAďPALKAďZAPYATAYA",
    "ďGOLUBCHIK BORZYęTIKHYęMRACHNYęSVETLYęTRESVETLYďVRAKHIYA PROSTAYAĘMRACHNAYAĘSVETLAYAĘTRESVETLAYA",
    "ĘKLYUCHEVAYA PROSTAYAĤMRACHNAYAĤSVETLAYAĤTRESVETLAYAďDOUBLE ZAPYATAYAďREVERSED CHELYUSTKAďDERBIT",
    "SAďKHAMILOďCHASHKAďPODCHASHIEďSKAMEYTSA MRACHNAYAęSVETLAYAęTRESVETLAYAĚIKHAYAďDEMESTVENNY KLYUCH",
    "ďSKAMEYTSA KLYUCHEVAYA SVETLAYAĠNEPOSTOYANNAYAĠVAYA TIKHAYAęDVOECHELNAYA PROSTAYAĦSVETLAYAĦNEPOS",
    "TOYANNAYAĦKLYUCHEVAYAĐLOZHITIEĘ S ZAPYATOYęZAKRYTOEęS KRYZHEMďKRYZHďROGďFITAďKOBYLAďZMEYTSAďSTAT",
    "YAĕ S ZAPYATOYĘKRYZHEMĘZAPYATOY I KRYZHEMĘKRYZHEM I ZAPYATOYĖZAKRYTAYAğ S ZAPYATOYĖS ROGOMĘDVUMY",
    "A ZAPYATYMIĘZAPYATOY I PODCHASHIEMďPOLKULIZMYďSTATYA NEPOSTOYANNAYAđRELA PROSTAYAĖMRACHNOTIKHAYA",
    "ĖKRYZHEVAYAĖPOLUPOVODNAYAĘVODNAYAĖNEPOSTOYANNAYAĖKLYUCHEPOVODNAYAĝNEPOSTOYANNAYAĖTIKHAYA PUTNAYA",
    "ĖDVOECHELNAYAğOKRYZHEVAYAĠPOVODNAYAğAYA KLYUCHEVAYAğOPOVODNAYA KLYUCHEVAYAĖGROMNAYA WITH SINGLE ",
    "ZAPYATAYAĚOPOVODNAYA WITH SINGLE ZAPYATAYAĚNAYAĚOPOVODNAYAĤ WITH DOUBLE ZAPYATAYAěKRYZHEVAYAĥ PO",
    "VODNAYAďMECHIKĕ POVODNYĖKLYUCHEVOYĝPOVODNYĝNEPOSTOYANNYďSTRELA TRYASOGLASNAYAĜPOVODNAYAĜSTRELNAY",
    "AďOSOKAĔ SVETLAYAĕTRESVETLAYAĕKRYUKOVAYA SVETLAYAĖLYUCHEVAYA SVETLAYAġNEPOSTOYANNAYAďSTRELA KRYU"],
  String.join [
    "KOVAYAĠ POVODNAYAġGROMNAYA WITH SINGLE ZAPYATAYAĥOPOVODNAYA WITH SINGLE ZAPYATAYAĥNAYAĥOPOVODNAY",
    "Aį WITH DOUBLE ZAPYATAYAĦKRYZHEVAYAİ POVODNAYAġTRYASKAďKUFISMAďOBLAKOďDUDAďNEMKAďPAUK@1D000ĀBYZA",
    "NTINE MUSICAL SYMBOL PSILIęDASEIAęPERISPOMENIęOXEIA EKFONITIKONğDIPLIęVAREIA EKFONITIKONĠDIPLIęK",
    "ATHISTIęSYRMATIKIęPARAKLITIKIęYPOKRISISĢ DIPLIęKREMASTIęAPESO EKFONITIKONęEXO EKFONITIKONęTELEIA",
    "ęKENTIMATAęAPOSTROFOSģ DIPLIęSYNEVMAęTHITAęOLIGON ARCHAIONęGORGON ARCHAIONęPSILONęCHAMILONęVATHY",
    "ęISON ARCHAIONęKENTIMA ARCHAIONĠTA ARCHAIONęSAXIMATAęPARICHONęSTAVROS APODEXIAęOXEIAI ARCHAIONęV",
    "AREIAI ARCHAIONęAPODERMA ARCHAIONĜTHEMAęKLASMAęREVMAęPIASMA ARCHAIONęTINAGMAęANATRICHISMAęSEISMA",
    "ĚYNAGMA ARCHAIONġMETA STAVROUęOYRANISMA ARCHAIONęTHEMAęLEMOIęDYOęTRIAĚESSERAęKRATIMATAęAPESO EXO",
    " NEOęFTHORA ARCHAIONęIMIFTHORAęTROMIKON ARCHAIONęKATAVA TROMIKONęPELASTONĚSIFISTONęKONTEVMAęCHOR",
    "EVMA ARCHAIONęRAPISMAęPARAKALESMA ARCHAIONĞLITIKI ARCHAIONęICHADINęNANAęPETASMAęKONTEVMA ALLOęTR",
    "OMIKON ALLOęSTRAGGISMATAęGRONTHISMATAęISON NEOęOLIGON NEOĚXEIA NEOęPETASTIęKOUFISMAęPETASTOKOUFI",
    "SMAęKRATIMOKOUFISMAęPELASTON NEOęKENTIMATA NEO ANOĠ NEO ANOęYPSILIęAPOSTROFOS NEOĢI SYNDESMOS NE",
    "OęYPORROIęKRATIMOYPORROONęELAFRONęCHAMILIęMIKRON ISONęVAREIA NEOęPIASMA NEOĚSIFISTON NEOęOMALONę",
    "ANTIKENOMAęLYGISMAęPARAKLITIKI NEOĞALESMA NEOęETERON PARAKALESMAęKYLISMAęANTIKENOKYLISMAęTROMIKO",
    "N NEOęEKSTREPTONęSYNAGMA NEOěRMAęCHOREVMA NEOęEPEGERMAęSEISMA NEOęXIRON KLASMAęTROMIKOPSIFISTONę",
    "PSIFISTOLYGISMAęTROMIKOLYGISMAĠPARAKALESMAęPSIFISTOPARAKALESMAęTROMIKOSYNAGMAęPSIFISTOSYNAGMAęGO",
    "RGOSYNTHETONęARGOSYNTHETONęETERON ARGOSYNTHETONęOYRANISMA NEOęTHEMATISMOS ESOĦXOĞ APLOUNĜS KAI A",
    "POTHESęKATAVASMAęENDOFONONęYFEN KATOĞANOęSTAVROSęKLASMA ANOęDIPLI ARCHAIONęKRATIMA ARCHAIONĢLLOġ",
    "NEOęAPODERMA NEOěLIęDIPLIęTRIPLIĚETRAPLIęKORONISęLEIMMA ENOS CHRONOUĠDYO CHRONONĠTRION CHRONONġE",
    "SSARON CHRONONĠIMISEOS CHRONOUęGORGON NEO ANOĠPARESTIGMENON ARISTERAĮDEXIAęDIGORGONġ PARESTIGMEN",
    "ON ARISTERA KATOĹANOİDEXIAęTRIGORGONęARGONęIMIDIARGONęDIARGONęAGOGI POLI ARGIğARGOTERIĢIğMETRIAġ",
    "SIğGORGIģOTERIğPOLI GORGIęMARTYRIA PROTOS ICHOSĢALLI PROTOS ICHOSĢDEYTEROS ICHOSĢALLI DEYTEROS I",
    "CHOSĢTRITOS ICHOSĥFONIASģETARTOS ICHOSīLEGETOS ICHOSĢLEGETOS ICHOSĢPLAGIOS ICHOSęISAKIA TELOUS I",
    "CHIMATOSęAPOSTROFOI TELOUS ICHIMATOSęFANEROSIS TETRAFONIASģMONOFONIASģDIFONIASęMARTYRIA VARYS IC",
    "HOSĢPROTOVARYS ICHOSģLAGIOS TETARTOS ICHOSęGORTHMIKON N APLOUNĦDIPLOUNęENARXIS KAI FTHORA VOUęIM",
    "IFONONĝTHORONęFTHORA ARCHAION DEYTEROU ICHOUĠDIATONIKI PAĪNANAĠNAOS ICHOSĠDIATONIKI DIĠSKLIRON D",
    "IATONON DIĠDIATONIKI KEĪZOĪNI KATOĭANOĠMALAKON CHROMA DIFONIASįMONOFONIASĚHTORA SKLIRON CHROMA V",
    "ASISĚTHORA SKLIRON CHROMA SYNAFIĠNENANOęCHROA ZYGOSğKLITONğSPATHIęFTHORA I YFESIS TETARTIMORIONĠ",
    "ENARMONIOS ANTIFONIAęYFESIS TRITIMORIONęDIESIS TRITIMORIONġETARTIMORIONĠAPLI DYO DODEKATAĠMONOGR",
    "AMMOS TESSERA DODEKATAĠDIGRAMMOS EX DODEKATAĠTRIGRAMMOS OKTO DODEKATAęYFESIS APLI DYO DODEKATAĠM",
    "ONOGRAMMOS TESSERA DODEKATAĠDIGRAMMOS EX DODEKATAĠTRIGRAMMOS OKTO DODEKATAęGENIKI DIESISĠYFESISę",
    "DIASTOLI APLI MIKRIĨEGALIĢDIPLIĢTHESEOSęSIMANSIS THESEOSĩ DISIMOUĪTRISIMOUīETRASIMOUĢARSEOSĨ DIS",
    "IMOUĩTRISIMOUĪETRASIMOUęDIGRAMMA GGěFTOGGOS OUęSTIGMAęARKTIKO PAġVOUġGAġDIġKEġZOġNIęKENTIMATA NE",
    "O MESOĠ NEO MESOĠTA NEO KATOĠ NEO KATOĚLASMA KATOęGORGON NEO KATO@1D100ĀMUSICAL SYMBOL SINGLE BA",
    "RLINEďDOUBLE BARLINEďFINAL BARLINEďREVERSE FINAL BARLINEďDASHED BARLINEďSHORT BARLINEďLEFT REPEA",
    "T SIGNďRIGHT REPEAT SIGNĐEPEAT DOTSďDAL SEGNOđ CAPOďSEGNOďCODAďREPEATED FIGURE-1ğ2ğ3ďFERMATAĖ BE",
    "LOWďBREATH MARKďCAESURAďBRACEēKETďONE-LINE STAFFďTWO-LINE STAFFĐHREE-LINE STAFFďFOUR-LINE STAFFĐ",
    "IVE-LINE STAFFďSIX-LINE STAFFēSTRING FRETBOARDďFOUR-STRING FRETBOARDďG CLEFĕ OTTAVA ALTAĝBASSAďC",
    " CLEFďF CLEFĕ OTTAVA ALTAĝBASSAďDRUM CLEF-1ę2@1D129ďMULTIPLE MEASURE RESTďDOUBLE SHARPĖFLATďFLAT",
    " UPĔDOWNďNATURAL UPėDOWNďSHARP UPĕDOWNďQUARTER TONE SHARPĜFLATďCOMMON TIMEĐUT TIMEďOTTAVA ALTAĖB",
    "ASSAďQUINDICESIMA ALTAĜBASSAďMULTI RESTďWHOLE RESTďHALF RESTďQUARTER RESTďEIGHTH RESTďSIXTEENTH ",
    "RESTďTHIRTY-SECOND RESTďSIXTY-FOURTH RESTďONE HUNDRED TWENTY-EIGHTH RESTďX NOTEHEADďPLUS NOTEHEA",
    "DďCIRCLE X NOTEHEADďSQUARE NOTEHEAD WHITEğBLACKďTRIANGLE NOTEHEAD UP WHITEĤBLACKġLEFT WHITEĦBLAC",
    "KġRIGHT WHITEħBLACKġDOWN WHITEĦBLACKġUP RIGHT WHITEĪBLACKďMOON NOTEHEAD WHITEĝBLACKďTRIANGLE-ROU",
    "ND NOTEHEAD DOWN WHITEĬBLACKďPARENTHESIS NOTEHEADďVOID NOTEHEADďNOTEHEAD BLACKĐULL NOTEHEADďCLUS",
    "TER NOTEHEAD WHITEĠBLACKďBREVEďWHOLE NOTEďHALF NOTEďQUARTER NOTEďEIGHTH NOTEďSIXTEENTH NOTEďTHIR",
    "TY-SECOND NOTEďSIXTY-FOURTH NOTEďONE HUNDRED TWENTY-EIGHTH NOTEďCOMBINING STEMĚPRECHGESANG STEMę",
    "TREMOLO-1ġ2ġ3ďFINGERED TREMOLO-1Ġ2Ġ3ďCOMBINING AUGMENTATION DOTęFLAG-1Ğ2Ğ3Ğ4Ğ5ďBEGIN BEAMďEND BE",
    "AMďBEGIN TIEďEND TIEďBEGIN SLURďEND SLURďBEGIN PHRASEďEND PHRASEďCOMBINING ACCENTęSTACCATOęTENUT",
    "OęSTACCATISSIMOęMARCATOĠ-STACCATOęACCENT-STACCATOęLOUREďARPEGGIATO UPĚDOWNďCOMBINING DOITęRIPęFL",
    "IPęSMEARęBENDęDOUBLE TONGUEęTRIPLE TONGUEďRINFORZANDOďSUBITOďZďPIANOďMEZZOďFORTEďCRESCENDOďDECRE",
    "SCENDOďGRACE NOTE SLASHĚNO SLASHďTRĐURNďINVERTED TURNďTURN SLASHĔUPďORNAMENT STROKE-1ğ2ğ3ğ4ğ5ğ6ğ",
    "7ğ8ğ9ğ10Ġ1ďHAUPTSTIMMEďNEBENSTIMMEďEND OF STIMMEďDEGREE SLASHďCOMBINING DOWN BOWęUP BOWęHARMONIC",
    "ęSNAP PIZZICATOďPEDAL MARKĕUP MARKďHALF PEDAL MARKďGLISSANDO UPęDOWNďWITH FINGERNAILSďDAMPē ALLď",
    "MAXIMAďLONGAďBREVISďSEMIBREVIS WHITEĚBLACKďMINIMAĕ BLACKďSEMIMINIMA WHITEĚBLACKďFUSA WHITEĔBLACK",
    "ďLONGA PERFECTA RESTĕIMPERFECTA RESTďBREVIS RESTďSEMIBREVIS RESTďMINIMA RESTďSEMIMINIMA RESTďTEM",
    "PUS PERFECTUM CUM PROLATIONE PERFECTAįIMPERFECTAįPERFECTA DIMINUTION-1ĖIMPERFECTUM CUM PROLATION",
    "E PERFECTAıIMPERFECTAĻ DIMINUTION-1Ň2Ň3ďCROIXďGREGORIAN C CLEFęF CLEFďSQUARE BďVIRGAďPODATUSďCLI",
    "VISďSCANDICUSďCLIMACUSďTORCULUSďPORRECTUSĘ FLEXUSďSCANDICUS FLEXUSďTORCULUS RESUPINUSďPES SUBPUN",
    "CTISďKIEVAN C CLEFĖEND OF PIECEĖFINAL NOTEĖRECITATIVE MARKĖWHOLE NOTEĖHALF NOTEĖQUARTER NOTE STE",
    "M DOWNĨUPĖEIGHTH NOTE STEM DOWNħUPĖFLAT SIGNďSORIďKORON@1D200ĀGREEK VOCAL NOTATION SYMBOL-1Ĝ2Ĝ3Ĝ",
    "4Ĝ5Ĝ6Ĝ7Ĝ8Ĝ9Ĝ10ĝ1ĝ2ĝ3ĝ4ĝ5ĝ6ĝ7ĝ8ĝ9Ĝ20ĝ1ĝ2ĝ3ĝ4Ĝ50ĝ1ĝ2ĝ3ĝ4ĆINSTRUMENTAL NOTATION SYMBOL-1ģ2ģ4ģ5ģ7ģ8ģ",
    "11Ĥ2Ĥ3Ĥ4Ĥ7Ĥ8Ĥ9ģ23Ĥ4Ĥ5Ĥ6Ĥ7Ĥ9ģ30Ĥ2Ĥ6Ĥ7Ĥ8Ĥ9ģ40Ĥ2Ĥ3Ĥ5Ĥ7Ĥ8Ĥ9ģ50Ĥ1Ĥ2Ĥ3Ĥ4ĀCOMBINING GREEK MUSICAL TRISE",
    "MEęETRASEMEĘPENTASEMEĀGREEK MUSICAL LEIMMA@1D2E0ĀMAYAN NUMERAL ZEROĎONEĎTWOďHREEĎFOURďIVEĎSIXďEV",
    "ENĎEIGHTĎNINEĎTENĎELEVENĎTWELVEďHIRTEENĎFOURTEENďIFTEENĎSIXTEENďEVENTEENĎEIGHTEENĎNINETEEN@1D300",
    "āONOGRAM FOR EARTHĀDIGRAM FOR HEAVENLY EARTHČUMAN EARTHċEARTHLY HEAVENĔUMANĐĀTETRAGRAM FOR CENTR",
    "EĎFULL CIRCLEĎMIREDĎBARRIERĎKEEPING SMALLĎCONTRARIETYĎASCENTĎOPPOSITIONĎBRANCHING OUTĎDEFECTIVEN",
    "ESS OR DISTORTIONďIVERGENCEĎYOUTHFULNESSĎINCREASEĎPENETRATIONĎREACHĎCONTACTĎHOLDING BACKĎWAITING",
    "ĎFOLLOWINGĎADVANCEĎRELEASEĐSISTANCEĎEASEĎJOYĎCONTENTIONĎENDEAVOURĎDUTIESĎCHANGEĎDECISIVENESSĎBOL",
    "D RESOLUTIONĎPACKINGĎLEGIONĎCLOSENESSĎKINSHIPĎGATHERINGĎSTRENGTHĎPURITYĎFULLNESSĎRESIDENCEĎLAW O",
    "R MODELĎRESPONSEĎGOING TO MEETĎENCOUNTERSĎSTOVEĎGREATNESSĎENLARGEMENTĎPATTERNĎRITUALĎFLIGHTĎVAST",
    "NESS OR WASTINGĎCONSTANCYĎMEASUREĎETERNITYĎUNITYĎDIMINISHMENTĎCLOSED MOUTHĎGUARDEDNESSďATHERING ",
    "INĎMASSINGĎACCUMULATIONĎEMBELLISHMENTĎDOUBTĎWATCHĎSINKINGĎINNERĎDEPARTUREďARKENINGďIMMINGĎEXHAUS",
    "TIONĎSEVERANCEďTOPPAGEĎHARDNESSĎCOMPLETIONďLOSUREĎFAILUREĎAGGRAVATIONĎCOMPLIANCEĎON THE VERGEĎDI",
    "FFICULTIESĎLABOURINGĎFOSTERING@1D360ĀCOUNTING ROD UNIT DIGIT ONEĘTWOęHREEĘFOURęIVEĘSIXęEVENĘEIGH",
    "TĘNINEčTENS DIGIT ONEĘTWOęHREEĘFOURęIVEĘSIXęEVENĘEIGHTĘNINEĀIDEOGRAPHIC TALLY MARK ONEėTWOĘHREEė",
    "FOURĘIVEĀTALLY MARK ONEċFIVE@1D400ĀMATHEMATICAL BOLD CAPITAL AĚBĚCĚDĚEĚFĚGĚHĚIĚJĚKĚLĚMĚNĚOĚPĚQĚR",
    "ĚSĚTĚUĚVĚWĚXĚYĚZĒSMALL AĘBĘCĘDĘEĘFĘGĘHĘIĘJĘKĘLĘMĘNĘOĘPĘQĘRĘSĘTĘUĘVĘWĘXĘYĘZčITALIC CAPITAL AĜBĜCĜ",
    "DĜEĜFĜGĜHĜIĜJĜKĜLĜMĜNĜOĜPĜQĜRĜSĜTĜUĜVĜWĜXĜYĜZĔSMALL AĚBĚCĚDĚEĚFĚG@1D456ĚIĚJĚKĚLĚMĚNĚOĚPĚQĚRĚSĚTĚ",
    "UĚVĚWĚXĚYĚZčBOLD ITALIC CAPITAL AġBġCġDġEġFġGġHġIġJġKġLġMġNġOġPġQġRġSġTġUġVġWġXġYġZęSMALL AğBğCğ",
    "DğEğFğGğHğIğJğKğLğMğNğOğPğQğRğSğTğUğVğWğXğYğZčSCRIPT CAPITAL A@1D49EĜCĜD@1D4A2ĜG@1D4A5ĜJĜK@1D4A9",
    "ĜNĜOĜPĜQ@1D4AEĜSĜTĜUĜVĜWĜXĜYĜZĔSMALL AĚBĚCĚD@1D4BBĚF@1D4BDĚHĚIĚJĚKĚLĚMĚN@1D4C5ĚPĚQĚRĚSĚTĚUĚVĚWĚX",
    "ĚYĚZčBOLD SCRIPT CAPITAL AġBġCġDġEġFġGġHġIġJġKġLġMġNġOġPġQġRġSġTġUġVġWġXġYġZęSMALL AğBğCğDğEğFğG",
    "ğHğIğJğKğLğMğNğOğPğQğRğSğTğUğVğWğXğYğZčFRAKTUR CAPITAL AĝB@1D507ĝDĝEĝFĝG@1D50DĝJĝKĝLĝMĝNĝOĝPĝQ@1",
    "D516ĝSĝTĝUĝVĝWĝXĝY@1D51EĕSMALL AěBěCěDěEěFěGěHěIěJěKěLěMěNěOěPěQěRěSěTěUěVěWěXěYěZčDOUBLE-STRUCK",
    " CAPITAL AģB@1D53BģDģEģFģG@1D540ģIģJģKģLģM@1D546ģO@1D54AģSģTģUģVģWģXģY@1D552ěSMALL AġBġCġDġEġFġG",
    "ġHġIġJġKġLġMġNġOġPġQġRġSġTġUġVġWġXġYġZčBOLD FRAKTUR CAPITAL AĢBĢCĢDĢEĢFĢGĢHĢIĢJĢKĢLĢMĢNĢOĢPĢQĢRĢ",
    "SĢTĢUĢVĢWĢXĢYĢZĚSMALL AĠBĠCĠDĠEĠFĠGĠHĠIĠJĠKĠLĠMĠNĠOĠPĠQĠRĠSĠTĠUĠVĠWĠXĠYĠZčSANS-SERIF CAPITAL AĠB",
    "ĠCĠDĠEĠFĠGĠHĠIĠJĠKĠLĠMĠNĠOĠPĠQĠRĠSĠTĠUĠVĠWĠXĠYĠZĘSMALL AĞBĞCĞDĞEĞFĞGĞHĞIĞJĞKĞLĞMĞNĞOĞPĞQĞRĞSĞTĞU",
    "ĞVĞWĞXĞYĞZĘBOLD CAPITAL AĥBĥCĥDĥEĥFĥGĥHĥIĥJĥKĥLĥMĥNĥOĥPĥQĥRĥSĥTĥUĥVĥWĥXĥYĥZĝSMALL AģBģCģDģEģFģGģ",
    "HģIģJģKģLģMģNģOģPģQģRģSģTģUģVģWģXģYģZĘITALIC CAPITAL AħBħCħDħEħFħGħHħIħJħKħLħMħNħOħPħQħRħSħTħUħV",
    "ħWħXħYħZğSMALL AĥBĥCĥDĥEĥFĥGĥHĥIĥJĥKĥLĥMĥNĥOĥPĥQĥRĥSĥTĥUĥVĥWĥXĥYĥZĘBOLD ITALIC CAPITAL AĬBĬCĬDĬE",
    "ĬFĬGĬHĬIĬJĬKĬLĬMĬNĬOĬPĬQĬRĬSĬTĬUĬVĬWĬXĬYĬZĤSMALL AĪBĪCĪDĪEĪFĪGĪHĪIĪJĪKĪLĪMĪNĪOĪPĪQĪRĪSĪTĪUĪVĪWĪX",
    "ĪYĪZčMONOSPACE CAPITAL AğBğCğDğEğFğGğHğIğJğKğLğMğNğOğPğQğRğSğTğUğVğWğXğYğZėSMALL AĝBĝCĝDĝEĝFĝGĝH",
    "ĝIĝJĝKĝLĝMĝNĝOĝPĝQĝRĝSĝTĝUĝVĝWĝXĝYĝZčITALIC SMALL DOTLESS IĢJ@1D6A8čBOLD CAPITAL ALPHAĚBETAĚGAMM",
    "AĚDELTAĚEPSILONĚZETAĚETAĚTHETAĚIOTAĚKAPPAĚLAMDAĚMUĚNUĚXIĚOMICRONĚPIĚRHOĚTHETA SYMBOLĚSIGMAĚTAUĚU",
    "PSILONĚPHIĚCHIĚPSIĚOMEGAĒNABLAĒSMALL ALPHAĘBETAĘGAMMAĘDELTAĘEPSILONĘZETAĘETAĘTHETAĘIOTAĘKAPPAĘLA",
    "MDAĘMUĘNUĘXIĘOMICRONĘPIĘRHOĘFINAL SIGMAĘSIGMAĘTAUĘUPSILONĘPHIĘCHIĘPSIĘOMEGAĒPARTIAL DIFFERENTIAL",
    "ĒEPSILON SYMBOLĒTHETA SYMBOLĒKAPPA SYMBOLĒPHI SYMBOLĒRHO SYMBOLĒPI SYMBOLčITALIC CAPITAL ALPHAĜB",
    "ETAĜGAMMAĜDELTAĜEPSILONĜZETAĜETAĜTHETAĜIOTAĜKAPPAĜLAMDAĜMUĜNUĜXIĜOMICRONĜPIĜRHOĜTHETA SYMBOLĜSIG"],
  String.join [
    "MAĜTAUĜUPSILONĜPHIĜCHIĜPSIĜOMEGAĔNABLAĔSMALL ALPHAĚBETAĚGAMMAĚDELTAĚEPSILONĚZETAĚETAĚTHETAĚIOTAĚ",
    "KAPPAĚLAMDAĚMUĚNUĚXIĚOMICRONĚPIĚRHOĚFINAL SIGMAĚSIGMAĚTAUĚUPSILONĚPHIĚCHIĚPSIĚOMEGAĔPARTIAL DIFF",
    "ERENTIALĔEPSILON SYMBOLĔTHETA SYMBOLĔKAPPA SYMBOLĔPHI SYMBOLĔRHO SYMBOLĔPI SYMBOLčBOLD ITALIC CA",
    "PITAL ALPHAġBETAġGAMMAġDELTAġEPSILONġZETAġETAġTHETAġIOTAġKAPPAġLAMDAġMUġNUġXIġOMICRONġPIġRHOġTHE",
    "TA SYMBOLġSIGMAġTAUġUPSILONġPHIġCHIġPSIġOMEGAęNABLAęSMALL ALPHAğBETAğGAMMAğDELTAğEPSILONğZETAğET",
    "AğTHETAğIOTAğKAPPAğLAMDAğMUğNUğXIğOMICRONğPIğRHOğFINAL SIGMAğSIGMAğTAUğUPSILONğPHIğCHIğPSIğOMEGA",
    "ęPARTIAL DIFFERENTIALęEPSILON SYMBOLęTHETA SYMBOLęKAPPA SYMBOLęPHI SYMBOLęRHO SYMBOLęPI SYMBOLčS",
    "ANS-SERIF BOLD CAPITAL ALPHAĥBETAĥGAMMAĥDELTAĥEPSILONĥZETAĥETAĥTHETAĥIOTAĥKAPPAĥLAMDAĥMUĥNUĥXIĥO",
    "MICRONĥPIĥRHOĥTHETA SYMBOLĥSIGMAĥTAUĥUPSILONĥPHIĥCHIĥPSIĥOMEGAĝNABLAĝSMALL ALPHAģBETAģGAMMAģDELT",
    "AģEPSILONģZETAģETAģTHETAģIOTAģKAPPAģLAMDAģMUģNUģXIģOMICRONģPIģRHOģFINAL SIGMAģSIGMAģTAUģUPSILONģ",
    "PHIģCHIģPSIģOMEGAĝPARTIAL DIFFERENTIALĝEPSILON SYMBOLĝTHETA SYMBOLĝKAPPA SYMBOLĝPHI SYMBOLĝRHO S",
    "YMBOLĝPI SYMBOLĝITALIC CAPITAL ALPHAĬBETAĬGAMMAĬDELTAĬEPSILONĬZETAĬETAĬTHETAĬIOTAĬKAPPAĬLAMDAĬMU",
    "ĬNUĬXIĬOMICRONĬPIĬRHOĬTHETA SYMBOLĬSIGMAĬTAUĬUPSILONĬPHIĬCHIĬPSIĬOMEGAĤNABLAĤSMALL ALPHAĪBETAĪGA",
    "MMAĪDELTAĪEPSILONĪZETAĪETAĪTHETAĪIOTAĪKAPPAĪLAMDAĪMUĪNUĪXIĪOMICRONĪPIĪRHOĪFINAL SIGMAĪSIGMAĪTAUĪ",
    "UPSILONĪPHIĪCHIĪPSIĪOMEGAĤPARTIAL DIFFERENTIALĤEPSILON SYMBOLĤTHETA SYMBOLĤKAPPA SYMBOLĤPHI SYMB",
    "OLĤRHO SYMBOLĤPI SYMBOLčBOLD CAPITAL DIGAMMAĒSMALL DIGAMMA@1D7CEĒDIGIT ZEROĘONEĘTWOęHREEĘFOURęIV",
    "EĘSIXęEVENĘEIGHTĘNINEčDOUBLE-STRUCK DIGIT ZEROġONEġTWOĢHREEġFOURĢIVEġSIXĢEVENġEIGHTġNINEčSANS-SE",
    "RIF DIGIT ZEROĞONEĞTWOğHREEĞFOURğIVEĞSIXğEVENĞEIGHTĞNINEĘBOLD DIGIT ZEROģONEģTWOĤHREEģFOURĤIVEģS",
    "IXĤEVENģEIGHTģNINEčMONOSPACE DIGIT ZEROĝONEĝTWOĞHREEĝFOURĞIVEĝSIXĞEVENĝEIGHTĝNINEĀSIGNWRITING HA",
    "ND-FIST INDEXđCIRCLE INDEXĒUP INDEXđOVAL INDEXđHINGE INDEXđANGLE INDEXđFIST INDEX BENTđCIRCLE IN",
    "DEX BENTđFIST THUMB UNDER INDEX BENTĖINDEX RAISED KNUCKLEĜCUPPEDĜHINGEDĢ LOWđCIRCLE INDEX HINGEđ",
    "FIST INDEX MIDDLEđCIRCLE INDEX MIDDLEđFIST INDEX MIDDLE BENTģRAISED KNUCKLESģHINGEDĜUP MIDDLE HI",
    "NGEDĜHINGED MIDDLE UPĜMIDDLE CONJOINEDĬ INDEX BENTĭMIDDLE BENTĭCUPPEDĭHINGEDĤROSSEDđCIRCLE INDEX",
    " MIDDLE CROSSEDđFIST MIDDLE BENT OVER INDEXĖINDEX BENT OVER MIDDLEĜMIDDLE THUMBđCIRCLE INDEX MID",
    "DLE THUMBđFIST INDEX MIDDLE STRAIGHT THUMB BENTģBENT THUMB STRAIGHTģTHUMB BENTģHINGED SPREAD THU",
    "MB SIDEĜUP MIDDLE HINGED THUMB SIDEĳCONJOINEDĜHINGED MIDDLE UP THUMB SIDEĜMIDDLE UP SPREAD THUMB",
    " FORWARDģTHUMB CUPPEDĪIRCLEDĩHOOKEDĪINGEDĖTHUMB BETWEEN INDEX MIDDLE STRAIGHTĖINDEX MIDDLE CONJO",
    "INED THUMB SIDEķ CONJOINEDĸBENTĖMIDDLE THUMB HOOKED INDEX UPĖINDEX THUMB HOOKED MIDDLE UPĜMIDDLE",
    " CONJOINED HINGED THUMB SIDEĤROSSED THUMB SIDEĤONJOINED THUMB FORWARDĭCUPPED THUMB FORWARDĖMIDDL",
    "E THUMB CUPPED INDEX UPĖINDEX THUMB CUPPED MIDDLE UPĖMIDDLE THUMB CIRCLED INDEX UPıHINGEDĖINDEX ",
    "THUMB ANGLED OUT MIDDLE UPĩIN MIDDLE UPĢCIRCLED MIDDLE UPĜMIDDLE THUMB CONJOINED HINGEDĩANGLED O",
    "UTįĖMIDDLE THUMB ANGLED OUT INDEX UPĴCROSSEDĪINDEX UPĖINDEX THUMB HOOKED MIDDLE HINGEDĒLAT FOUR ",
    "FINGERSĢ BENTģHINGEDģCONJOINEDĬ SPLITđCLAW FOUR FINGERS CONJOINEDđFIST FOUR FINGERS CONJOINED BE",
    "NTđHINGE FOUR FINGERS CONJOINEDđFLAT FIVE FINGERS SPREADĖHEEL FIVE FINGERS SPREADĖFIVE FINGERS S",
    "PREAD FOUR BENTĖHEEL FIVE FINGERS SPREAD FOUR BENTĖFIVE FINGERS SPREAD BENTĖHEEL FIVE FINGERS SP",
    "READ BENTĖFIVE FINGERS SPREAD THUMB FORWARDđCUP FIVE FINGERS SPREADĨ OPENđHINGE FIVE FINGERS SPR",
    "EAD OPENđOVAL FIVE FINGERS SPREADđFLAT FIVE FINGERS SPREAD HINGEDİ THUMB SIDEıNO THUMBĕĕ BETWEEN",
    " PALM FACINGSĖHEELĖTHUMB SIDEĖHEEL THUMB SIDEĖTHUMB BENTĜFORWARDĖSPLIT INDEX THUMB SIDEĜCENTREĢ ",
    "THUMB SIDEĭ BENTĜLITTLEđCLAWĕ THUMB SIDEĖNO THUMBĖTHUMB FORWARDđHOOK CURLICUEĕđCUP OPENĔĔ OPEN T",
    "HUMB SIDEĕTHUMB SIDEĕOPEN NO THUMBĕNO THUMBĕOPEN THUMB FORWARDĕTHUMB FORWARDēRLICUE OPENęĒIRCLEđ",
    "OVALĕ THUMB SIDEĖNO THUMBĖTHUMB FORWARDđHINGE OPENě THUMB FORWARDĖĖ SMALLėOPEN THUMB SIDEėTHUMB ",
    "SIDEėOPEN NO THUMBėNO THUMBėTHUMB SIDE TOUCHING INDEXĝBETWEEN MIDDLE RINGđANGLEđFIST INDEX MIDDL",
    "E RINGđCIRCLE INDEX MIDDLE RINGđHINGE INDEX MIDDLE RINGđANGLE INDEX MIDDLE RINGđHINGE LITTLEđFIS",
    "T INDEX MIDDLE RING BENTĨCONJOINEDđHINGE INDEX MIDDLE RING CONJOINEDđFIST LITTLE DOWNġ RIPPLE ST",
    "RAIGHTĩCURVEDĢOTHERS CIRCLEDĝUPĖTHUMB UNDER LITTLE UPđCIRCLE LITTLE UPđOVAL LITTLE UPđANGLE LITT",
    "LE UPđFIST LITTLE RAISED KNUCKLEĝBENTĝTOUCHES THUMBĞHUMBđHINGE LITTLE THUMBđFIST LITTLE INDEX TH",
    "UMBđHINGE LITTLE INDEX THUMBđANGLE LITTLE INDEX THUMB INDEX THUMB OUTĵđFIST LITTLE INDEXđCIRCLE ",
    "LITTLE INDEXđHINGE LITTLE INDEXđANGLE LITTLE INDEXđFIST INDEX MIDDLE LITTLEđCIRCLE INDEX MIDDLE ",
    "LITTLEđHINGE INDEX MIDDLE LITTLEėRINGđANGLE INDEX MIDDLE LITTLEđFIST INDEX MIDDLE CROSS LITTLEđC",
    "IRCLE INDEX MIDDLE CROSS LITTLEđFIST RING DOWNđHINGE RING DOWN INDEX THUMB HOOK MIDDLEđANGLE RIN",
    "G DOWN MIDDLE THUMB INDEX CROSSđFIST RING UPěRAISED KNUCKLEěLITTLEđCIRCLE RING LITTLEđOVAL RING ",
    "LITTLEđANGLE RING LITTLEđFIST RING MIDDLEġ CONJOINEDĢRAISED KNUCKLESěINDEXěTHUMBđHOOK RING THUMB",
    "đFIST INDEX RING LITTLEđCIRCLE INDEX RING LITTLEĒURLICUE INDEX RING LITTLE ONđHOOK INDEX RING LI",
    "TTLE OUTĨINĨUNDERđCUP INDEX RING LITTLEđHINGE INDEX RING LITTLEđANGLE INDEX RING LITTLE OUTĨđFIS",
    "T MIDDLE DOWNđHINGE MIDDLEđFIST MIDDLE UPđCIRCLE MIDDLE UPđFIST MIDDLE RAISED KNUCKLEĝUP THUMB S",
    "IDEđHOOK MIDDLE THUMBđFIST MIDDLE THUMB LITTLEĝLITTLEĝRING LITTLEđCIRCLE MIDDLE RING LITTLEĒURLI",
    "CUE MIDDLE RING LITTLE ONēP MIDDLE RING LITTLEđHINGE MIDDLE RING LITTLEđANGLE MIDDLE RING LITTLE",
    " OUTĪINĩđCIRCLE MIDDLE RING LITTLE BENTĒLAW MIDDLE RING LITTLE CONJOINEDĲ SIDEđHOOK MIDDLE RING ",
    "LITTLE CONJOINED OUTĳINĲĒINGE INDEX HINGEDđFIST INDEX THUMB SIDEđHINGE INDEX THUMB SIDEđFIST IND",
    "EX THUMB SIDE THUMB DIAGONALĭCONJOINEDĭBENTħINDEX BENTħBOTH BENTħINDEX HINGEĢFORWARD INDEX STRAI",
    "GHTİBENTĢHOOKĢCURLICUEĥVE THUMB INSIDEđCLAW INDEX THUMB CURVE THUMB INSIDEđFIST INDEX THUMB CURV",
    "E THUMB UNDERģIRCLEđCUP INDEX THUMBĠ OPENđHINGE INDEX THUMB OPENģLARGEĢĢ SMALLđANGLE INDEX THUMB",
    " OUTģINĢđFIST THUMBě HEELĜSIDE DIAGONALġCONJOINEDġBENTĜFORWARDĜBETWEEN INDEX MIDDLEĤMIDDLE RINGĤ",
    "RING LITTLEĜUNDER TWO FINGERSĜOVER TWO FINGERSĜUNDER THREE FINGERSĢFOUR FINGERSĜOVER FOUR RAISED",
    " KNUCKLESĕĕ HEELČTOUCH SINGLEĒMULTIPLEĒBETWEENČGRASP SINGLEĒMULTIPLEĒBETWEENČSTRIKE SINGLEēMULTI",
    "PLEēBETWEENČBRUSH SINGLEĒMULTIPLEĒBETWEENČRUB SINGLEĐMULTIPLEĐBETWEENČSURFACE SYMBOLSĔBETWEENčQU",
    "EEZE LARGE SINGLEĔSMALL SINGLEĔLARGE MULTIPLEĔSMALL MULTIPLEĕEQUENTIALČFLICK LARGE SINGLEĒSMALL ",
    "SINGLEĒLARGE MULTIPLEĒSMALL MULTIPLEēEQUENTIALČSQUEEZE FLICK ALTERNATINGČMOVEMENT-HINGE UP DOWN ",
    "LARGEģSMALLĞSEQUENTIALěDOWN SEQUENTIALěUP DOWN ALTERNATING LARGEįSMALLěSIDE TO SIDE SCISSORSĕWAL",
    "LPLANE FINGER CONTACTĕFLOORPLANE FINGER CONTACTĕWALLPLANE SINGLE STRAIGHT SMALLįMEDIUMįLARGEĴSTĦ",
    "WRIST FLEXğDOUBLE STRAIGHTĦWRIST FLEXĦALTERNATINGı WRIST FLEXğCROSSğTRIPLE STRAIGHT MOVEMENTĦWRI",
    "ST FLEXĦALTERNATINGı WRIST FLEXğBEND SMALLĤMEDIUMĤLARGEğCORNER SMALLĦMEDIUMĦLARGEĦROTATIONĠHECK ",
    "SMALLĥMEDIUMĥLARGEğBOX SMALLģMEDIUMģLARGEğZIGZAG SMALLĦMEDIUMĦLARGEğPEAKS SMALLĥMEDIUMĥLARGEČTRA",
    "VEL-WALLPLANE ROTATION-WALLPLANE SINGLEİDOUBLEİALTERNATINGĦFLOORPLANE SINGLEıDOUBLEıALTERNATINGĝ",
    "SHAKINGĝARM SPIRAL SINGLEĨDOUBLEĨTRIPLEČMOVEMENT-DIAGONAL AWAY SMALLģMEDIUMģLARGEĨSTĞTOWARDS SMA",
    "LLĦMEDIUMĦLARGEīSTĞBETWEEN AWAY SMALLīMEDIUMīLARGEİSTĦTOWARDS SMALLĮMEDIUMĮLARGEĳSTĕFLOORPLANE S",
    "INGLE STRAIGHT SMALLİMEDIUMİLARGEĵSTħWRIST FLEXĠDOUBLE STRAIGHTħWRIST FLEXħALTERNATINGĲ WRIST FL",
    "EXĠCROSSĠTRIPLE STRAIGHT MOVEMENTħWRIST FLEXħALTERNATING MOVEMENTĳWRIST FLEXĠBENDĠCORNER SMALLħM",
    "EDIUMħLARGEġHECKĠBOX SMALLĤMEDIUMĤLARGEĠZIGZAG SMALLħMEDIUMħLARGEĠPEAKS SMALLĦMEDIUMĦLARGEČTRAVE",
    "L-FLOORPLANE ROTATION-FLOORPLANE SINGLEĲDOUBLEĲALTERNATINGħWALLPLANE SINGLEıDOUBLEıALTERNATINGĞS",
    "HAKINGČMOVEMENT-WALLPLANE CURVE QUARTER SMALLĭMEDIUMĭLARGEĲSTĥHALF-CIRCLE SMALLıMEDIUMıLARGEĶSTĥ",
    "THREE-QUARTER CIRCLE SMALLĺMEDIUMğHUMP SMALLĤMEDIUMĤLARGEğLOOP SMALLĤMEDIUMĤLARGEĤSMALL DOUBLEğW",
    "AVE CURVE DOUBLE SMALLıMEDIUMıLARGEĪTRIPLE SMALLıMEDIUMıLARGEğCURVE THEN STRAIGHTĤD CROSS SMALLĬ",
    "MEDIUMČROTATION-WALLPLANE SINGLEğDOUBLEğALTERNATEČMOVEMENT-WALLPLANE SHAKINGğCURVE HITTING FRONT",
    " WALLğHUMP HITTING FRONT WALLğLOOP HITTING FRONT WALLğWAVE HITTING FRONT WALLČROTATION-WALLPLANE",
    " SINGLE HITTING FRONT WALLğDOUBLE HITTING FRONT WALLğALTERNATING HITTING FRONT WALLČMOVEMENT-WAL",
    "LPLANE CURVE HITTING CHESTğHUMP HITTING CHESTğLOOP HITTING CHESTğWAVE HITTING CHESTČROTATION-WAL",
    "LPLANE SINGLE HITTING CHESTğDOUBLE HITTING CHESTğALTERNATING HITTING CHESTČMOVEMENT-WALLPLANE WA",
    "VE DIAGONAL PATH SMALLĲMEDIUMĲLARGEĕFLOORPLANE CURVE HITTING CEILING SMALLĶLARGEĠHUMP HITTING CE",
    "ILING SMALL DOUBLEĵLARGE DOUBLEĵSMALL TRIPLEĵLARGE TRIPLEĠLOOP HITTING CEILING SMALL SINGLEĵLARG",
    "E SINGLEĵSMALL DOUBLEĵLARGE DOUBLEĠWAVE HITTING CEILING SMALLĵLARGEČROTATION-FLOORPLANE SINGLE H",
    "ITTING CEILINGĠDOUBLE HITTING CEILINGĠALTERNATING HITTING CEILINGČMOVEMENT-FLOORPLANE CURVE HITT",
    "ING FLOOR SMALLĴLARGEĠHUMP HITTING FLOOR SMALL DOUBLEĳLARGE DOUBLEĳTRIPLE SMALL TRIPLEĺLARGE TRI",
    "PLEĠLOOP HITTING FLOOR SMALL SINGLEĳLARGE SINGLEĳSMALL DOUBLEĳLARGE DOUBLEĠWAVE HITTING FLOOR SM",
    "ALLĳLARGEČROTATION-FLOORPLANE SINGLE HITTING FLOORĠDOUBLE HITTING FLOORĠALTERNATING HITTING FLOO",
    "RČMOVEMENT-FLOORPLANE CURVE SMALLĦMEDIUMĦLARGEīSTĦCOMBINEDĠHUMP SMALLĠLOOP SMALLĠWAVE SNAKEĦMALL",
    "ĥLARGEČROTATION-FLOORPLANE SINGLEĠDOUBLEĠALTERNATINGČMOVEMENT-FLOORPLANE SHAKING PARALLELĕWALLPL",
    "ANE ARM CIRCLE SMALL SINGLEĪMEDIUM SINGLEĪSMALL DOUBLEĪMEDIUM DOUBLEĕFLOORPLANE ARM CIRCLE HITTI",
    "NG WALL SMALL SINGLEĸMEDIUM SINGLEĸLARGE SINGLEĸSMALL DOUBLEĸMEDIUM DOUBLEĸLARGE DOUBLEĕWALLPLAN",
    "E WRIST CIRCLE FRONT SINGLEĲDOUBLEĕFLOORPLANE WRIST CIRCLE HITTING WALL SINGLEĺDOUBLEĕWALLPLANE "],
  String.join [
    "FINGER CIRCLES SINGLEĮDOUBLEĕFLOORPLANE FINGER CIRCLES HITTING WALL SINGLEļDOUBLEČDYNAMIC ARROWH",
    "EAD SMALLĞLARGEĔFASTĔSLOWĔTENSEĔRELAXEDĔSIMULTANEOUSĠ ALTERNATINGĔEVERY OTHER TIMEĔGRADUALČHEADĐ",
    " RIMđMOVEMENT-WALLPLANE STRAIGHTĤTILTĚFLOORPLANE STRAIGHTĚWALLPLANE CURVEĚFLOORPLANE CURVEę CIRC",
    "LEČFACE DIRECTION POSITION NOSE FORWARD TILTINGĩUP OR DOWNĳ TILTINGČEYEBROWS STRAIGHT UPĞNEUTRAL",
    "ĞDOWNČDREAMY EYEBROWS NEUTRAL DOWNĜDOWN NEUTRALĜUP NEUTRALĜNEUTRAL UPČFOREHEAD NEUTRALĕCONTACTĕW",
    "RINKLEDČEYES OPENđSQUEEZEDđCLOSEDď BLINK SINGLEĖMULTIPLEďS HALF OPENđWIDE OPENđHALF CLOSEDđWIDEN",
    "ING MOVEMENTď WINKďLASHES UPĖDOWNĖFLUTTERINGďGAZE-WALLPLANE STRAIGHTĦ DOUBLEħALTERNATINGĔFLOORPL",
    "ANE STRAIGHTħ DOUBLEĨALTERNATINGĔWALLPLANE CURVEDĔFLOORPLANE CURVEDĔWALLPLANE CIRCLINGČCHEEKS PU",
    "FFEDēNEUTRALēSUCKEDČTENSE CHEEKS HIGHęMIDDLEęLOWČEARSČNOSE NEUTRALđCONTACTđWRINKLESĒIGGLESČAIR B",
    "LOWING OUTĐSUCKING INĐBLOW SMALL ROTATIONSĐSUCK SMALL ROTATIONSČBREATH INHALEēEXHALEČMOUTH CLOSE",
    "D NEUTRALęFORWARDęCONTACTĒSMILEė WRINKLEDĘOPENĒFROWNė WRINKLEDĘOPENĒOPEN CIRCLEėFORWARDėWRINKLED",
    "ėOVALě WRINKLEDĜYAWNėRECTANGLEĠ WRINKLEDġYAWNĒKISSĖ FORWARDėWRINKLEDĒTENSEė FORWARDĘSUCKEDČLIPS ",
    "PRESSED TOGETHERď LOWER OVER UPPERĐUPPER OVER LOWERČMOUTH CORNERSĒWRINKLES SINGLEěDOUBLEČTONGUE ",
    "STICKING OUT FARēLICKING LIPSēTIP BETWEEN LIPSėTOUCHING INSIDE MOUTHēINSIDE MOUTH RELAXEDēMOVES ",
    "AGAINST CHEEKēCENTRE STICKING OUTĚINSIDE MOUTHčEETHđ MOVEMENTĒON TONGUEě MOVEMENTĕLIPSę MOVEMENT",
    "ĒBITE LIPSČMOVEMENT-WALLPLANE JAWĕFLOORPLANE JAWČNECKČHAIRČEXCITEMENTČSHOULDER HIP SPINEęPOSITIO",
    "NSČWALLPLANE SHOULDER HIP MOVEČFLOORPLANE SHOULDER HIP MOVEČSHOULDER TILTING FROM WAISTČTORSO-WA",
    "LLPLANE STRAIGHT STRETCHĜCURVED BENDĒFLOORPLANE TWISTINGČUPPER BODY TILTING FROM HIP JOINTSČLIMB",
    " COMBINATIONđLENGTH-1Ę2Ę3Ę4Ę5Ę6Ę7ČFINGERČLOCATION-WALLPLANE SPACEĕFLOORPLANE SPACEĔ HEIGHTĕWIDTH",
    "ĕDEPTHĕHEAD NECKĕTORSOĕLIMBS DIGITSČCOMMAČFULL STOPČSEMICOLONČCOLONČPARENTHESIS@1DA9BČFILL MODIF",
    "IER-2Ě3Ě4Ě5Ě6@1DAA1ČROTATION MODIFIER-2Ğ3Ğ4Ğ5Ğ6Ğ7Ğ8Ğ9Ğ10ğ1ğ2ğ3ğ4ğ5ğ6@1DF00ĀLATIN SMALL LETTER FE",
    "NG DIGRAPH WITH TRILLēREVERSED SCRIPT GĆLETTER SMALL CAPITAL TURNED GĆSMALL LETTER REVERSED KĆLE",
    "TTER SMALL CAPITAL L WITH BELTĆSMALL LETTER LEZH WITH RETROFLEX HOOKēTURNED Y WITH BELTēREVERSED",
    " ENGēTURNED R WITH LONG LEG AND RETROFLEX HOOKĔ WITH HOOK AND RETROFLEX HOOKĆLETTER RETROFLEX CL",
    "ICK WITH RETROFLEX HOOKĆSMALL LETTER ESH WITH DOUBLE BARĦ AND CURLēTURNED T WITH CURLĆLETTER INV",
    "ERTED GLOTTAL STOP WITH CURLčSTRETCHED C WITH CURLĎMALL CAPITAL TURNED KĆSMALL LETTER L WITH FIS",
    "HHOOKēDEZH DIGRAPH WITH PALATAL HOOKēL WITH BELT AND PALATAL HOOKēENG WITH PALATAL HOOKēTURNED R",
    " WITH PALATAL HOOKēR WITH FISHHOOK AND PALATAL HOOKēTESH DIGRAPH WITH PALATAL HOOKēEZH WITH PALA",
    "TAL HOOKēDEZH DIGRAPH WITH RETROFLEX HOOKēI WITH STROKE AND RETROFLEX HOOKēO WITH RETROFLEX HOOK",
    "ēTESH DIGRAPH WITH RETROFLEX HOOKēC WITH RETROFLEX HOOKēS WITH CURL@1E000ĀCOMBINING GLAGOLITIC L",
    "ETTER AZUĜBUKYĜVEDEĜGLAGOLIĜDOBROĜYESTUĜZHIVETE@1E008ĝEMLJAĜIZHEĝNITIAL IZHEĝĜDJERVIĜKAKOĜLJUDIJ",
    "EĜMYSLITEĜNASHIĜONUĜPOKOJIĜRITSIĜSLOVOĜTVRIDOĜUKUĜFRITUĜHERU@1E01BĜSHTAĜTSIĜCHRIVIĜSHAĜYERUğIĝAT",
    "I@1E023ĝUĜSMALL YUS@1E026ĜYOĜIOTATED SMALL YUSĜBIG YUSĜIOTATED BIG YUSĜFITA@1E100ĀNYIAKENG PUACH",
    "UE HMONG LETTER MAĞTSAĞNTAĞTAĞHAĞNAĞXAĞNKAĞCAĞLAĞSAĞZAĞNCAğTSAĞKAĞDAĞNYAğRAĞVAĞNTXAĞTXAĞFAĞRAĞQA",
    "ĞYAĞNQAĞPAĞXYAĞNPAĞDLAĞNPLAĞHAHĞMLAĞPLAĞGAĞRRAĞAğAĞIĞUĞOğOĞEğEĞW@1E130ėTONE-BĜMĜJĜVĜSĜGĜDėSIGN F",
    "OR PERSONĠTHINGĠLOCATIONĠANIMALĠINVERTEBRATEĜXW XWĘYLLABLE LENGTHENER@1E140ėDIGIT ZEROĝONEĝTWOĞH",
    "REEĝFOURĞIVEĝSIXĞEVENĝEIGHTĝNINE@1E14EėLOGOGRAM NYAJėCIRCLED CA@1E290ĀTOTO LETTER PAČBAČTAČDAČKA",
    "ČGAČMAČNAčGAČSAČCHAČYAČWAČJAČHAČRAČLAČIČBREATHY IČIUČBREATHY IUČUČEČBREATHY EČEOČBREATHY EOČOČAE",
    "ČBREATHY AEČAąSIGN RISING TONE@1E2C0ĀWANCHO LETTER AAďĎBAĎCAĎDAĎGAĎYAĎPHAĎLAĎNAĎPAĎTAďHAĎFAĎSAďH",
    "AĎJAĎZAĎWAĎVAĎKAĎOĎAUĎRAĎMAĎKHAĎHAĎEĎIĎNGAĎUĎLLHAĎTSAďRAĎONGĎAANGďNGĎINGĎONĎENĎAANĎNYAĎUENĎYIHćT",
    "ONE TUPďNIČKOIďNIćDIGIT ZEROčONEčTWOĎHREEčFOURĎIVEčSIXĎEVENčEIGHTčNINE@1E2FFćNGUN SIGN@1E7E0ĀETH",
    "IOPIC SYLLABLE HHYAĕUĕIĕAAĕEEĖĕO@1E7E8ĒGURAGE HHWAĒHHWIĕEEĖ@1E7EDĒGURAGE MWIěEE@1E7F0ęQWIěEEĜęBW",
    "IěEEęKWIěEEĜęGWIěEEĜęFWIěEEęPWIěEE@1E800ĀMENDE KIKAKUI SYLLABLE M001 KIĚ2 KAĚ3 KUę65 KEEę95 KEę7",
    "6 KOOę48 KOĘ179 KUAĘ004 WIĚ5 WAĚ6 WUĘ126 WEEę18 WEĚ4 WOOĘ045 WOĘ194 WUIę43 WEIĘ061 WVIę49 WVAĘ13",
    "9 WVEĘ007 MINĚ8 MANĚ9 MUNę59 MENę94 MONĘ154 MUANę89 MUENĘ010 BIĚ1 BAĚ2 BUĘ150 BEEĘ097 BEĘ103 BOO",
    "ę38 BOĘ013 IĚ4 AĚ5 UĘ163 EEę00 Eę65 OOę47 Oę37 EIĚ1 INĚ5 INę95 ANę78 ENĘ019 SIę20 SAĚ1 SUĘ162 SE",
    "Eę16 SEę36 SOOĘ079 SOĘ196 SIAĘ025 LIĚ6 LAĚ7 LUę84 LEEę73 LEę54 LOOĘ153 LOę10 LONG LEĘ016 DIĚ7 DA",
    "Ě8 DUę89 DEEĘ180 DOOĚ1 DOĘ022 TIĚ3 TAĚ4 TUę91 TEEę55 TEĘ104 TOOĘ069 TOę28 JIĚ9 JAę30 JUĘ157 JEEę",
    "13 JEę60 JOOĘ063 JOĘ175 LONG JOĘ031 YIĚ2 YAĚ3 YUĘ109 YEEĘ080 YEĘ141 YOOę21 YOĘ034 FIĚ5 FAĚ6 FUę7",
    "8 FEEĚ5 FEĘ133 FOOĘ088 FOĘ197 FUAę01 FANĘ037 NINĚ8 NANĚ9 NUNĘ117 NENę69 NONę76 HIĘ041 HAĘ186 HUĘ",
    "040 HEEę96 HEę42 HOOĘ140 HOĘ083 HEEIĘ128 HOOUĘ053 HINĘ130 HANĘ087 HUNę52 HENĘ193 HONĘ046 HUANę90",
    " NGGIę43 NGGAę82 NGGUĘ115 NGGEEę46 NGGEę56 NGGOOę20 NGGOę59 NGGAAę27 NGGUAĘ086 LONG NGGEĘ106 LON",
    "G NGGOOę83 LONG NGGOę55 GIę11 GAę68 GUę90 GEEę66 GUEIĚ7 GUANę84 NGENĘ057 NGONĘ177 NGUANĘ068 PIę9",
    "9 PAę50 PUę81 PEEę51 PEĘ102 POOĘ066 POĘ145 MBIĘ062 MBAĘ122 MBUĘ047 MBEEĘ188 MBEEĘ072 MBEĘ172 MBO",
    "OĚ4 MBOę87 MBUUę61 LONG MBEę05 LONG MBOOę42 LONG MBOę32 KPIĘ092 KPAę74 KPUę44 KPEEĘ108 KPEę12 KP",
    "OOę58 KPOę24 GBIĘ056 GBAĘ148 GBUĘ093 GBEEĘ107 GBEĘ071 GBOOĚ0 GBOĘ171 RAę23 NDIĚ9 NDAĚ5 NDUę91 ND",
    "EEę19 NDEĘ067 NDOOĚ4 NDOĘ152 NJAę92 NJUę49 NJEEę34 NJOOę82 VIĚ5 VAę51 VUę73 VEEĘ085 VEĘ144 VOOĘ0",
    "77 VOĘ164 NYINĘ058 NYANĘ170 NYUNĘ098 NYENę60 NYON@1E8C7ĎDIGIT ONEĔTWOĕHREEĔFOURĕIVEĔSIXĕEVENĔEIG",
    "HTĔNINEĎCOMBINING NUMBER TEENSġNSğHUNDREDSğTHOUSANDSĠEN THOUSANDSğHUNDRED THOUSANDSğMILLIONS@1E9",
    "00ĀADLAM CAPITAL LETTER ALIFĕDAALIĕLAAMĕMIIMĕBAĕSINNYIIYHEĕPEĕBHEĕRAĕEĕFAĕIĕOĕDHAĕYHEĕWAWĕNUNĕKA",
    "FĕYAĕUĕJIIMĕCHIĕHAĕQAAFĕGAĕNYAĕTUĕNHAĕVAĕKHAĕGBEĕZALĕKPOĕSHAĆSMALL LETTER ALIFēDAALIēLAAMēMIIMēB",
    "AēSINNYIIYHEēPEēBHEēRAēEēFAēIēOēDHAēYHEēWAWēNUNēKAFēYAēUēJIIMēCHIēHAēQAAFēGAēNYAēTUēNHAēVAēKHAēG",
    "BEēZALēKPOēSHAĆALIF LENGTHENERĆVOWEL LENGTHENERĆGEMINATION MARKĆHAMZAĆCONSONANT MODIFIERĆGEMINAT",
    "E CONSONANT MODIFIERĆNUKTAćASALIZATION MARK@1E950ĆDIGIT ZEROČONEČTWOčHREEČFOURčIVEČSIXčEVENČEIGH",
    "TČNINE@1E95EĆINITIAL EXCLAMATION MARKĎQUESTION MARK@1EC71ĀINDIC SIYAQ NUMBER ONEēTWOĔHREEēFOURĔI",
    "VEēSIXĔEVENēEIGHTēNINEēTENĔWENTYĔHIRTYēFORTYĔIFTYēSIXTYĔEVENTYēEIGHTYēNINETYēONE HUNDREDēTWO HUN",
    "DREDĔHREE HUNDREDēFOUR HUNDREDĔIVE HUNDREDēSIX HUNDREDĔEVEN HUNDREDēEIGHT HUNDREDēNINE HUNDREDēO",
    "NE THOUSANDēTWO THOUSANDĔHREE THOUSANDēFOUR THOUSANDĔIVE THOUSANDēSIX THOUSANDĔEVEN THOUSANDēEIG",
    "HT THOUSANDēNINE THOUSANDēTEN THOUSANDĔWENTY THOUSANDĔHIRTY THOUSANDēFORTY THOUSANDĔIFTY THOUSAN",
    "DēSIXTY THOUSANDĔEVENTY THOUSANDēEIGHTY THOUSANDēNINETY THOUSANDēLAKHėANČLAKH MARKČNUMBER KARORĘ",
    "ANēPREFIXED ONEĜTWOĝHREEĜFOURĝIVEĜSIXĝEVENĜEIGHTĜNINEČPLACEHOLDERČFRACTION ONE QUARTERęHALFĕTHRE",
    "E QUARTERSČRUPEE MARKČNUMBER ALTERNATE ONEĝTWOĞEN THOUSANDČALTERNATE LAKH MARK@1ED01ĀOTTOMAN SIY",
    "AQ NUMBER ONEĕTWOĖHREEĕFOURĖIVEĕSIXĖEVENĕEIGHTĕNINEĕTENĖWENTYĖHIRTYĕFORTYĖIFTYĕSIXTYĖEVENTYĕEIGH",
    "TYĕNINETYĕONE HUNDREDĕTWO HUNDREDĖHREE HUNDREDĕFOUR HUNDREDĖIVE HUNDREDĕSIX HUNDREDĖEVEN HUNDRED",
    "ĕEIGHT HUNDREDĕNINE HUNDREDĕONE THOUSANDĕTWO THOUSANDĖHREE THOUSANDĕFOUR THOUSANDĖIVE THOUSANDĕS",
    "IX THOUSANDĖEVEN THOUSANDĕEIGHT THOUSANDĕNINE THOUSANDĕTEN THOUSANDĖWENTY THOUSANDĖHIRTY THOUSAN",
    "DĕFORTY THOUSANDĖIFTY THOUSANDĕSIXTY THOUSANDĖEVENTY THOUSANDĕEIGHTY THOUSANDĕNINETY THOUSANDĎMA",
    "RRATANĎALTERNATE NUMBER TWOĠHREEğFOURĠIVEğSIXĠEVENğEIGHTğNINEğTENğFOUR HUNDREDğSIX HUNDREDğTWO T",
    "HOUSANDĠEN THOUSANDĎFRACTION ONE HALFěSIXTH@1EE00ĀARABIC MATHEMATICAL ALEFĔBEHĔJEEMĔDAL@1EE05ĔWA",
    "WĔZAINĔHAHĔTAHĔYEHĔKAFĔLAMĔMEEMĔNOONĔSEENĔAINĔFEHĔSADĔQAFĔREHĔSHEENĔTEHĕHEHĔKHAHĔTHALĔDADĔZAHĔGH",
    "AINĔDOTLESS BEHĜNOONĜFEHĜQAF@1EE21ĔINITIAL BEHĜJEEM@1EE24ĜHEH@1EE27ĝAH@1EE29ĜYEHĜKAFĜLAMĜMEEMĜNO",
    "ONĜSEENĜAINĜFEHĜSADĜQAF@1EE34ĜSHEENĜTEHĝHEHĜKHAH@1EE39ĜDAD@1EE3BĜGHAIN@1EE42ĔTAILED JEEM@1EE47ěH",
    "AH@1EE49ěYEH@1EE4BěLAM@1EE4DěNOONěSEENěAIN@1EE51ěSADěQAF@1EE54ěSHEEN@1EE57ěKHAH@1EE59ěDAD@1EE5Bě",
    "GHAIN@1EE5DěDOTLESS NOON@1EE5FģQAF@1EE61ĔSTRETCHED BEHĞJEEM@1EE64ĞHEH@1EE67ğAHĞTAHĞYEHĞKAF@1EE6C",
    "ĞMEEMĞNOONĞSEENĞAINĞFEHĞSADĞQAF@1EE74ĞSHEENĞTEHğHEHĞKHAH@1EE79ĞDADĞZAHĞGHAINĞDOTLESS BEH@1EE7EĦF",
    "EH@1EE80ĔLOOPED ALEFěBEHěJEEMěDALěHEHěWAWěZAINěHAHěTAHěYEH@1EE8BěLAMěMEEMěNOONěSEENěAINěFEHěSADě",
    "QAFěREHěSHEENěTEHĜHEHěKHAHěTHALěDADěZAHěGHAIN@1EEA1ĔDOUBLE-STRUCK BEHĢJEEMĢDAL@1EEA5ĢWAWĢZAINĢHA",
    "HĢTAHĢYEH@1EEABĢLAMĢMEEMĢNOONĢSEENĢAINĢFEHĢSADĢQAFĢREHĢSHEENĢTEHģHEHĢKHAHĢTHALĢDADĢZAHĢGHAIN@1EE",
    "F0ĔOPERATOR MEEM WITH HAH WITH TATWEELĝHAH WITH DAL@1F000ĀMAHJONG TILE EAST WINDčSOUTH WINDčWEST",
    " WINDčNORTH WINDčRED DRAGONčGREEN DRAGONčWHITE DRAGONčONE OF CHARACTERSčTWO OF CHARACTERSĎHREE O",
    "F CHARACTERSčFOUR OF CHARACTERSĎIVE OF CHARACTERSčSIX OF CHARACTERSĎEVEN OF CHARACTERSčEIGHT OF ",
    "CHARACTERSčNINE OF CHARACTERSčONE OF BAMBOOSčTWO OF BAMBOOSĎHREE OF BAMBOOSčFOUR OF BAMBOOSĎIVE ",
    "OF BAMBOOSčSIX OF BAMBOOSĎEVEN OF BAMBOOSčEIGHT OF BAMBOOSčNINE OF BAMBOOSčONE OF CIRCLESčTWO OF",
    " CIRCLESĎHREE OF CIRCLESčFOUR OF CIRCLESĎIVE OF CIRCLESčSIX OF CIRCLESĎEVEN OF CIRCLESčEIGHT OF ",
    "CIRCLESčNINE OF CIRCLESčPLUMčORCHIDčBAMBOOčCHRYSANTHEMUMčSPRINGĎUMMERčAUTUMNčWINTERčJOKERčBACK@1",
    "F030ĀDOMINO TILE HORIZONTAL BACKĖ-00-00ě1ě2ě3ě4ě5ě6Ę1-00ě1ě2ě3ě4ě5ě6Ę2-00ě1ě2ě3ě4ě5ě6Ę3-00ě1ě2ě3",
    "ě4ě5ě6Ę4-00ě1ě2ě3ě4ě5ě6Ę5-00ě1ě2ě3ě4ě5ě6Ę6-00ě1ě2ě3ě4ě5ě6ČVERTICAL BACKĔ-00-00ę1ę2ę3ę4ę5ę6Ė1-00ę",
    "1ę2ę3ę4ę5ę6Ė2-00ę1ę2ę3ę4ę5ę6Ė3-00ę1ę2ę3ę4ę5ę6Ė4-00ę1ę2ę3ę4ę5ę6Ė5-00ę1ę2ę3ę4ę5ę6Ė6-00ę1ę2ę3ę4ę5ę6",
    "@1F0A0ĀPLAYING CARD BACKčACE OF SPADESčTWO OF SPADESĎHREE OF SPADESčFOUR OF SPADESĎIVE OF SPADES",
    "čSIX OF SPADESĎEVEN OF SPADESčEIGHT OF SPADESčNINE OF SPADESčTEN OF SPADESčJACK OF SPADESčKNIGHT"],
  String.join [
    " OF SPADESčQUEEN OF SPADESčKING OF SPADES@1F0B1čACE OF HEARTSčTWO OF HEARTSĎHREE OF HEARTSčFOUR ",
    "OF HEARTSĎIVE OF HEARTSčSIX OF HEARTSĎEVEN OF HEARTSčEIGHT OF HEARTSčNINE OF HEARTSčTEN OF HEART",
    "SčJACK OF HEARTSčKNIGHT OF HEARTSčQUEEN OF HEARTSčKING OF HEARTSčRED JOKER@1F0C1čACE OF DIAMONDS",
    "čTWO OF DIAMONDSĎHREE OF DIAMONDSčFOUR OF DIAMONDSĎIVE OF DIAMONDSčSIX OF DIAMONDSĎEVEN OF DIAMO",
    "NDSčEIGHT OF DIAMONDSčNINE OF DIAMONDSčTEN OF DIAMONDSčJACK OF DIAMONDSčKNIGHT OF DIAMONDSčQUEEN",
    " OF DIAMONDSčKING OF DIAMONDSčBLACK JOKER@1F0D1čACE OF CLUBSčTWO OF CLUBSĎHREE OF CLUBSčFOUR OF ",
    "CLUBSĎIVE OF CLUBSčSIX OF CLUBSĎEVEN OF CLUBSčEIGHT OF CLUBSčNINE OF CLUBSčTEN OF CLUBSčJACK OF ",
    "CLUBSčKNIGHT OF CLUBSčQUEEN OF CLUBSčKING OF CLUBSčWHITE JOKERčFOOLčTRUMP-1ē2ē3ē4ē5ē6ē7ē8ē9ē10Ĕ1",
    "Ĕ2Ĕ3Ĕ4Ĕ5Ĕ6Ĕ7Ĕ8Ĕ9ē20Ĕ1@1F100ĀDIGIT ZERO FULL STOPċCOMMAĆONE COMMAĆTWO COMMAćHREE COMMAĆFOUR COMMA",
    "ćIVE COMMAĆSIX COMMAćEVEN COMMAĆEIGHT COMMAĆNINE COMMAĂNGBAT CIRCLED SANS-SERIF DIGIT ZEROĈNEGAT",
    "IVE CIRCLED SANS-SERIF DIGIT ZEROĀCIRCLED ZERO WITH SLASHĈANTICLOCKWISE ARROWĈDOLLAR SIGN WITH O",
    "VERLAID BACKSLASHĀPARENTHESIZED LATIN CAPITAL LETTER AģBģCģDģEģFģGģHģIģJģKģLģMģNģOģPģQģRģSģTģUģV",
    "ģWģXģYģZĀTORTOISE SHELL BRACKETED LATIN CAPITAL LETTER SĀCIRCLED ITALIC LATIN CAPITAL LETTER CĤR",
    "ĈCDĈWZāOPYLEFT SYMBOLĀSQUARED LATIN CAPITAL LETTER AĝBĝCĝDĝEĝFĝGĝHĝIĝJĝKĝLĝMĝNĝOĝPĝQĝRĝSĝTĝUĝVĝW",
    "ĝXĝYĝZĈHVĈMVĈSDĉSĈPPVĈWCĀNEGATIVE CIRCLED LATIN CAPITAL LETTER AĦBĦCĦDĦEĦFĦGĦHĦIĦJĦKĦLĦMĦNĦOĦPĦQ",
    "ĦRĦSĦTĦUĦVĦWĦXĦYĦZĀRAISED MC SIGNĈD SIGNĈR SIGNĀCIRCLED CCĉ WITH OVERLAID BACKSLASHĈHUMAN FIGURE",
    "ĀNEGATIVE SQUARED LATIN CAPITAL LETTER AĦBĦCĦDĦEĦFĦGĦHĦIĦJĦKĦLĦMĦNĦOĦPĦQĦRĦSĦTĦUĦVĦWĦXĦYĦZĀCROSS",
    "ED NEGATIVE SQUARED LATIN CAPITAL LETTER PĀNEGATIVE SQUARED ICđPAđSAđABđWCĀSQUARE DJĆD CLĉOOLĈFR",
    "EEĈIDĈNEWĉGĈOKĈSOSĈUP WITH EXCLAMATION MARKĈVSĈTHREE DĈSECOND SCREENĈTWO KĈFOUR KĈEIGHT KĈFIVE P",
    "OINT ONEĈSEVEN POINT ONEĈTWENTY-TWO POINT TWOĈSIXTY PĈONE HUNDRED TWENTY PĈLATIN SMALL LETTER DĈ",
    "HCĉDRĉI-RESĈLOSSLESSĈSHVĈUHDĈVODĀMASK WORK SYMBOL@1F1E6ĀREGIONAL INDICATOR SYMBOL LETTER AġBġCġD",
    "ġEġFġGġHġIġJġKġLġMġNġOġPġQġRġSġTġUġVġWġXġYġZĀSQUARE HIRAGANA HOKAĆD KATAKANA KOKOđSA@1F210ĈCJK U",
    "NIFIED IDEOGRAPH-624BĞ5B57ğ3CCĈKATAKANA DEĈCJK UNIFIED IDEOGRAPH-4E8CĞ591AĞ89E3Ğ5929Ğ4EA4Ğ6620Ğ7",
    "121Ğ6599Ğ524DğF8Cğ18DĞ65B0Ğ521DĞ7D42ğ51FĞ8CA9Ğ58F0ğ439Ğ6F14ğ295ğ355Ğ4E00ġ9Ğ904AĞ5DE6Ğ4E2DĞ53F3Ğ6",
    "307Ğ8D70Ğ6253Ğ7981ğA7AĞ5408Ğ6E80ğ709ġ8Ğ7533Ğ5272ğ5B6Ğ914D@1F240ĀTORTOISE SHELL BRACKETED CJK UNI",
    "FIED IDEOGRAPH-672Cį4E09ı8Cį5B89į70B9į6253į76D7į52DDį6557@1F250ĀCIRCLED IDEOGRAPH ADVANTAGEēCCEP",
    "T@1F260ĀROUNDED SYMBOL FOR FUēLUēSHOUēXIēSHUANGXIēCAI@1F300ĀCYCLONEĀFOGGYĀCLOSED UMBRELLAĀNIGHT ",
    "WITH STARSĀSUNRISE OVER MOUNTAINSćĀCITYSCAPE AT DUSKĀSUNSET OVER BUILDINGSĀRAINBOWĀBRIDGE AT NIG",
    "HTĀWATER WAVEĀVOLCANOĀMILKY WAYĀEARTH GLOBE EUROPE-AFRICAČAMERICASčSIA-AUSTRALIAĀGLOBE WITH MERI",
    "DIANSĀNEW MOON SYMBOLĀWAXING CRESCENT MOON SYMBOLĀFIRST QUARTER MOON SYMBOLĀWAXING GIBBOUS MOON ",
    "SYMBOLĀFULL MOON SYMBOLĀWANING GIBBOUS MOON SYMBOLĀLAST QUARTER MOON SYMBOLĀWANING CRESCENT MOON",
    " SYMBOLĀCRESCENT MOONĀNEW MOON WITH FACEĀFIRST QUARTER MOON WITH FACEĀLAST QUARTER MOON WITH FAC",
    "EĀFULL MOON WITH FACEĀSUN WITH FACEĀGLOWING STARĀSHOOTING STARĀTHERMOMETERĀBLACK DROPLETĀWHITE S",
    "UNĉ WITH SMALL CLOUDĊBEHIND CLOUDĖ WITH RAINĀCLOUD WITH RAINċSNOWċLIGHTNINGċTORNADOĀFOGĀWIND BLO",
    "WING FACEĀHOT DOGĀTACOĀBURRITOĀCHESTNUTĀSEEDLINGĀEVERGREEN TREEĀDECIDUOUS TREEĀPALM TREEĀCACTUSĀ",
    "HOT PEPPERĀTULIPĀCHERRY BLOSSOMĀROSEĀHIBISCUSĀSUNFLOWERĀBLOSSOMĀEAR OF MAIZEćRICEĀHERBĀFOUR LEAF",
    " CLOVERĀMAPLE LEAFĀFALLEN LEAFĀLEAF FLUTTERING IN WINDĀMUSHROOMĀTOMATOĀAUBERGINEĀGRAPESĀMELONĀWA",
    "TERMELONĀTANGERINEĀLEMONĀBANANAĀPINEAPPLEĀRED APPLEĀGREEN APPLEĀPEARăCHĀCHERRIESĀSTRAWBERRYĀHAMB",
    "URGERĀSLICE OF PIZZAĀMEAT ON BONEĀPOULTRY LEGĀRICE CRACKERąBALLĀCOOKED RICEāURRY AND RICEĀSTEAMI",
    "NG BOWLāPAGHETTIĀBREADĀFRENCH FRIESĀROASTED SWEET POTATOĀDANGOĀODENĀSUSHIĀFRIED SHRIMPāISH CAKE ",
    "WITH SWIRL DESIGNĀSOFT ICE CREAMāHAVED ICEĀICE CREAMĀDOUGHNUTĀCOOKIEāHOCOLATE BARāANDYĀLOLLIPOPĀ",
    "CUSTARDĀHONEY POTĀSHORTCAKEĀBENTO BOXĀPOT OF FOODĀCOOKINGĀFORK AND KNIFEĀTEACUP WITHOUT HANDLEĀS",
    "AKE BOTTLE AND CUPĀWINE GLASSĀCOCKTAIL GLASSĀTROPICAL DRINKĀBEER MUGĀCLINKING BEER MUGSĀBABY BOT",
    "TLEĀFORK AND KNIFE WITH PLATEĀBOTTLE WITH POPPING CORKĀPOPCORNĀRIBBONĀWRAPPED PRESENTĀBIRTHDAY C",
    "AKEĀJACK-O-LANTERNĀCHRISTMAS TREEĀFATHER CHRISTMASāIREWORKSĈ SPARKLERĀBALLOONĀPARTY POPPERĀCONFE",
    "TTI BALLĀTANABATA TREEĀCROSSED FLAGSĀPINE DECORATIONĀJAPANESE DOLLSĀCARP STREAMERĀWIND CHIMEĀMOO",
    "N VIEWING CEREMONYĀSCHOOL SATCHELĀGRADUATION CAPĀHEART WITH TIP ON THE LEFTĀBOUQUET OF FLOWERSĀM",
    "ILITARY MEDALĀREMINDER RIBBONĀMUSICAL KEYBOARD WITH JACKSĀSTUDIO MICROPHONEĀLEVEL SLIDERĀCONTROL",
    " KNOBSĀBEAMED ASCENDING MUSICAL NOTESćDESCENDING MUSICAL NOTESĀFILM FRAMESĀADMISSION TICKETSĀCAR",
    "OUSEL HORSEĀFERRIS WHEELĀROLLER COASTERĀFISHING POLE AND FISHĀMICROPHONEāOVIE CAMERAĀCINEMAĀHEAD",
    "PHONEĀARTIST PALETTEĀTOP HATĀCIRCUS TENTĀTICKETĀCLAPPER BOARDĀPERFORMING ARTSĀVIDEO GAMEĀDIRECT ",
    "HITĀSLOT MACHINEĀBILLIARDSĀGAME DIEĀBOWLINGĀFLOWER PLAYING CARDSĀMUSICAL NOTEĂLTIPLE MUSICAL NOT",
    "ESĀSAXOPHONEĀGUITARĀMUSICAL KEYBOARDĀTRUMPETĀVIOLINĀMUSICAL SCOREĀRUNNING SHIRT WITH SASHĀTENNIS",
    " RACQUET AND BALLĀSKI AND SKI BOOTĀBASKETBALL AND HOOPĀCHEQUERED FLAGĀSNOWBOARDERĀRUNNERĀSURFERā",
    "PORTS MEDALĀTROPHYĀHORSE RACINGĀAMERICAN FOOTBALLĀRUGBY FOOTBALLĀSWIMMERĀWEIGHT LIFTERĀGOLFERĀRA",
    "CING MOTORCYCLEćCARĀCRICKET BAT AND BALLĀVOLLEYBALLĀFIELD HOCKEY STICK AND BALLĀICE HOCKEY STICK",
    " AND PUCKĀTABLE TENNIS PADDLE AND BALLĀSNOW CAPPED MOUNTAINĀCAMPINGĀBEACH WITH UMBRELLAāUILDING ",
    "CONSTRUCTIONĀHOUSE BUILDINGSĀCITYSCAPEĀDERELICT HOUSE BUILDINGĀCLASSICAL BUILDINGĀDESERTĆ ISLAND",
    "ĀNATIONAL PARKĀSTADIUMĀHOUSE BUILDINGĆWITH GARDENĀOFFICE BUILDINGĀJAPANESE POST OFFICEĀEUROPEAN ",
    "POST OFFICEĀHOSPITALĀBANKĀAUTOMATED TELLER MACHINEĀHOTELĀLOVE HOTELĀCONVENIENCE STOREĀSCHOOLĀDEP",
    "ARTMENT STOREĀFACTORYĀIZAKAYA LANTERNĀJAPANESE CASTLEĀEUROPEAN CASTLEĀWHITE PENNANTĀBLACK PENNAN",
    "TĀWAVING WHITE FLAGćBLACK FLAGĀROSETTEĀBLACK ROSETTEĀLABELĀBADMINTON RACQUET AND SHUTTLECOCKāOW ",
    "AND ARROWĀAMPHORAĀEMOJI MODIFIER FITZPATRICK TYPE-1-2Ġ3Ġ4Ġ5Ġ6ĀRATĀMOUSEĀOXĀWATER BUFFALOĀCOWĀTIG",
    "ERĀLEOPARDĀRABBITĀCATĀDRAGONĀCROCODILEĀWHALEĀSNAILăKEĀHORSEĀRAMĀGOATĀSHEEPĀMONKEYĀROOSTERĀCHICKE",
    "NĀDOGĀPIGĀBOARĀELEPHANTĀOCTOPUSĀSPIRAL SHELLĀBUGĀANTĀHONEYBEEĀLADY BEETLEĀFISHĀTROPICAL FISHĀBLO",
    "WFISHĀTURTLEĀHATCHING CHICKĀBABY CHICKĀFRONT-FACING BABY CHICKĀBIRDĀPENGUINĀKOALAĀPOODLEĀDROMEDA",
    "RY CAMELĀBACTRIAN CAMELĀDOLPHINĀMOUSE FACEĀCOW FACEĀTIGER FACEĀRABBIT FACEĀCAT FACEĀDRAGON FACEĀ",
    "SPOUTING WHALEĀHORSE FACEĀMONKEY FACEĀDOG FACEĀPIG FACEĀFROG FACEĀHAMSTER FACEĀWOLF FACEĀBEAR FA",
    "CEĀPANDA FACEāIG NOSEāAW PRINTSĀCHIPMUNKĀEYESăāARĀNOSEĀMOUTHĀTONGUEĀWHITE UP POINTING BACKHAND I",
    "NDEXĆDOWN POINTING BACKHAND INDEXĆLEFT POINTING BACKHAND INDEXĆRIGHT POINTING BACKHAND INDEXĀFIS",
    "TED HAND SIGNĀWAVING HAND SIGNĀOK HAND SIGNĀTHUMBS UP SIGNćDOWN SIGNĀCLAPPING HANDS SIGNĀOPEN HA",
    "NDS SIGNĀCROWNĀWOMANS HATĀEYEGLASSESĀNECKTIEĀT-SHIRTĀJEANSĀDRESSĀKIMONOĀBIKINIĀWOMANS CLOTHESĀPU",
    "RSEĀHANDBAGĀPOUCHĀMANS SHOEĀATHLETIC SHOEĀHIGH-HEELED SHOEĀWOMANS SANDALćBOOTSĀFOOTPRINTSĀBUST I",
    "N SILHOUETTEĄS IN SILHOUETTEāOYĀGIRLĀMANĀWOMANĀFAMILYĀMAN AND WOMAN HOLDING HANDSĀTWO MEN HOLDIN",
    "G HANDSĄWOMEN HOLDING HANDSĀPOLICE OFFICERĀWOMAN WITH BUNNY EARSĀBRIDE WITH VEILĀPERSON WITH BLO",
    "ND HAIRĀMAN WITH GUA PI MAOĉTURBANĀOLDER MANĆWOMANĀBABYĀCONSTRUCTION WORKERĀPRINCESSĀJAPANESE OG",
    "REĉGOBLINĀGHOSTĀBABY ANGELĀEXTRATERRESTRIAL ALIENĀALIEN MONSTERĀIMPĀSKULLĀINFORMATION DESK PERSO",
    "NĀGUARDSMANĀDANCERĀLIPSTICKĀNAIL POLISHĀFACE MASSAGEĀHAIRCUTĀBARBER POLEĀSYRINGEĀPILLĀKISS MARKĀ",
    "LOVE LETTERĀRINGĀGEM STONEĀKISSĀBOUQUETĀCOUPLE WITH HEARTĀWEDDINGĀBEATING HEARTāROKEN HEARTĀTWO ",
    "HEARTSĀSPARKLING HEARTĀGROWING HEARTĀHEART WITH ARROWĀBLUE HEARTĀGREEN HEARTĀYELLOW HEARTĀPURPLE",
    " HEARTĀHEART WITH RIBBONĀREVOLVING HEARTSĀHEART DECORATIONĀDIAMOND SHAPE WITH A DOT INSIDEĀELECT",
    "RIC LIGHT BULBĀANGER SYMBOLĀBOMBĀSLEEPING SYMBOLĀCOLLISION SYMBOLĀSPLASHING SWEAT SYMBOLĀDROPLET",
    "āASH SYMBOLĀPILE OF POOĀFLEXED BICEPSĀDIZZY SYMBOLĀSPEECH BALLOONĀTHOUGHT BALLOONĀWHITE FLOWERĀH",
    "UNDRED POINTS SYMBOLĀMONEY BAGĀCURRENCY EXCHANGEĀHEAVY DOLLAR SIGNĀCREDIT CARDĀBANKNOTE WITH YEN",
    " SIGNĎDOLLAR SIGNĎEURO SIGNĎPOUND SIGNĀMONEY WITH WINGSĀCHART WITH UPWARDS TREND AND YEN SIGNĀSE",
    "ATĀPERSONAL COMPUTERĀBRIEFCASEĀMINIDISCĀFLOPPY DISKĀOPTICAL DISCĀDVDĀFILE FOLDERĀOPEN FILE FOLDE",
    "RĀPAGE WITH CURLąFACING UPĀCALENDARĀTEAR-OFF CALENDARĀCARD INDEXāHART WITH UPWARDS TRENDċDOWNWAR",
    "DS TRENDĀBAR CHARTĀCLIPBOARDĀPUSHPINĀROUND PUSHPINĀPAPERCLIPĀSTRAIGHT RULERĀTRIANGULAR RULERĀBOO",
    "KMARK TABSĀLEDGERĀNOTEBOOKĈ WITH DECORATIVE COVERĀCLOSED BOOKĀOPEN BOOKĀGREEN BOOKĀBLUE BOOKĀORA",
    "NGE BOOKĀBOOKSĀNAME BADGEĀSCROLLĀMEMOĀTELEPHONE RECEIVERĀPAGERĀFAX MACHINEĀSATELLITE ANTENNAĀPUB",
    "LIC ADDRESS LOUDSPEAKERĀCHEERING MEGAPHONEĀOUTBOX TRAYĀINBOX TRAYĀPACKAGEĀE-MAIL SYMBOLĀINCOMING",
    " ENVELOPEĀENVELOPE WITH DOWNWARDS ARROW ABOVEĀCLOSED MAILBOX WITH LOWERED FLAGĔRAISED FLAGĀOPEN ",
    "MAILBOX WITH RAISED FLAGĒLOWERED FLAGĀPOSTBOXĄAL HORNĀNEWSPAPERĀMOBILE PHONEČ WITH RIGHTWARDS AR",
    "ROW AT LEFTĀVIBRATION MODEĀMOBILE PHONE OFFĀNO MOBILE PHONESĀANTENNA WITH BARSĀCAMERAĆ WITH FLAS",
    "HĀVIDEO CAMERAĀTELEVISIONĀRADIOĀVIDEOCASSETTEĀFILM PROJECTORĀPORTABLE STEREOāRAYER BEADSĀTWISTED",
    " RIGHTWARDS ARROWSĀCLOCKWISE RIGHTWARDS AND LEFTWARDS OPEN CIRCLE ARROWSĵ WITH CIRCLED ONE OVERL",
    "AYĊDOWNWARDS AND UPWARDS OPEN CIRCLE ARROWSĀANTICLOCKWISE DOWNWARDS AND UPWARDS OPEN CIRCLE ARRO",
    "WSĀLOW BRIGHTNESS SYMBOLĀHIGH BRIGHTNESS SYMBOLĀSPEAKER WITH CANCELLATION STROKEćć WITH ONE SOUN",
    "D WAVEčTHREE SOUND WAVESĀBATTERYĀELECTRIC PLUGĀLEFT-POINTING MAGNIFYING GLASSĀRIGHT-POINTING MAG",
    "NIFYING GLASSĀLOCK WITH INK PENĀCLOSED LOCK WITH KEYĀKEYĀLOCKĀOPEN LOCKĀBELLĄ WITH CANCELLATION "],
  String.join [
    "STROKEāOOKMARKĀLINK SYMBOLĀRADIO BUTTONĀBACK WITH LEFTWARDS ARROW ABOVEĀEND WITH LEFTWARDS ARROW",
    " ABOVEĀON WITH EXCLAMATION MARK WITH LEFT RIGHT ARROW ABOVEĀSOON WITH RIGHTWARDS ARROW ABOVEĀTOP",
    " WITH UPWARDS ARROW ABOVEĀNO ONE UNDER EIGHTEEN SYMBOLĀKEYCAP TENĀINPUT SYMBOL FOR LATIN CAPITAL",
    " LETTERSėSMALL LETTERSđNUMBERSđSYMBOLSđLATIN LETTERSĀFIREĀELECTRIC TORCHĀWRENCHĀHAMMERĀNUT AND B",
    "OLTĀHOCHOĀPISTOLĀMICROSCOPEĀTELESCOPEĀCRYSTAL BALLĀSIX POINTED STAR WITH MIDDLE DOTĀJAPANESE SYM",
    "BOL FOR BEGINNERĀTRIDENT EMBLEMĀBLACK SQUARE BUTTONĀWHITE SQUARE BUTTONĀLARGE RED CIRCLEĆBLUE CI",
    "RCLEĆORANGE DIAMONDĆBLUE DIAMONDĀSMALL ORANGE DIAMONDĆBLUE DIAMONDĀUP-POINTING RED TRIANGLEĀDOWN",
    "-POINTING RED TRIANGLEĀUP-POINTING SMALL RED TRIANGLEĀDOWN-POINTING SMALL RED TRIANGLEĀLOWER RIG",
    "HT SHADOWED WHITE CIRCLEĀUPPER RIGHT SHADOWED WHITE CIRCLEĀCIRCLED CROSS POMMEEāROSS POMMEE WITH",
    " HALF-CIRCLE BELOWČĀNOTCHED LEFT SEMICIRCLE WITH THREE DOTSĈRIGHT SEMICIRCLE WITH THREE DOTSĀSYM",
    "BOL FOR MARKS CHAPTERĀWHITE LATIN CROSSĀHEAVY LATIN CROSSĀCELTIC CROSSĀOM SYMBOLĀDOVE OF PEACEĀK",
    "AABAĀMOSQUEĀSYNAGOGUEĀMENORAH WITH NINE BRANCHESĀBOWL OF HYGIEIAĀCLOCK FACE ONE OCLOCKċTWO OCLOC",
    "KČHREE OCLOCKċFOUR OCLOCKČIVE OCLOCKċSIX OCLOCKČEVEN OCLOCKċEIGHT OCLOCKċNINE OCLOCKċTEN OCLOCKċ",
    "ELEVEN OCLOCKċTWELVE OCLOCKċONE-THIRTYċTWO-THIRTYČHREE-THIRTYċFOUR-THIRTYČIVE-THIRTYċSIX-THIRTYČ",
    "EVEN-THIRTYċEIGHT-THIRTYċNINE-THIRTYċTEN-THIRTYċELEVEN-THIRTYċTWELVE-THIRTYĀRIGHT SPEAKERč WITH ",
    "ONE SOUND WAVEēTHREE SOUND WAVESĀBULLHORNĈ WITH SOUND WAVESĀRINGING BELLĀBOOKĀCANDLEĀMANTELPIECE",
    " CLOCKĀBLACK SKULL AND CROSSBONESĀNO PIRACYĀHOLEĀMAN IN BUSINESS SUIT LEVITATINGĀSLEUTH OR SPYĀD",
    "ARK SUNGLASSESĀSPIDERĆ WEBĀJOYSTICKĀMAN DANCINGĀLEFT HAND TELEPHONE RECEIVERĀTELEPHONE RECEIVER ",
    "WITH PAGEĀRIGHT HAND TELEPHONE RECEIVERĀWHITE TOUCHTONE TELEPHONEĀBLACK TOUCHTONE TELEPHONEĀTELE",
    "PHONE ON TOP OF MODEMĀCLAMSHELL MOBILE PHONEĀBACK OF ENVELOPEĀSTAMPED ENVELOPEĀENVELOPE WITH LIG",
    "HTNINGĀFLYING ENVELOPEĀPEN OVER STAMPED ENVELOPEĀLINKED PAPERCLIPSĀBLACK PUSHPINĀLOWER LEFT PENC",
    "ILċBALLPOINT PENċFOUNTAIN PENċPAINTBRUSHċCRAYONāEFT WRITING HANDĀTURNED OK HAND SIGNĀRAISED HAND",
    " WITH FINGERS SPLAYEDāEVERSED RAISED HAND WITH FINGERS SPLAYEDĉTHUMBS UP SIGNĐDOWN SIGNĉVICTORY ",
    "HANDĉHAND WITH MIDDLE FINGER EXTENDEDāAISED HAND WITH PART BETWEEN MIDDLE AND RING FINGERSĀWHITE",
    " DOWN POINTING LEFT HAND INDEXĀSIDEWAYS WHITE LEFT POINTING INDEXďRIGHT POINTING INDEXĉBLACK LEF",
    "T POINTING INDEXďRIGHT POINTING INDEXĀBLACK LEFT POINTING BACKHAND INDEXĆRIGHT POINTING BACKHAND",
    " INDEXĀSIDEWAYS WHITE UP POINTING INDEXďDOWN POINTING INDEXĉBLACK UP POINTING INDEXďDOWN POINTIN",
    "G INDEXĀBLACK UP POINTING BACKHAND INDEXĆDOWN POINTING BACKHAND INDEXĆHEARTĀDESKTOP COMPUTERĀKEY",
    "BOARD AND MOUSEĀTHREE NETWORKED COMPUTERSĀPRINTERāOCKET CALCULATORĀBLACK HARD SHELL FLOPPY DISKĀ",
    "WHITE HARD SHELL FLOPPY DISKĀSOFT SHELL FLOPPY DISKĀTAPE CARTRIDGEĀWIRED KEYBOARDĀONE BUTTON MOU",
    "SEĀTWO BUTTON MOUSEāHREE BUTTON MOUSEāRACKBALLĀOLD PERSONAL COMPUTERĀHARD DISKĀSCREENĀPRINTER IC",
    "ONĀFAX ICONĀOPTICAL DISC ICONĀDOCUMENT WITH TEXTĒ AND PICTUREĎPICTUREĀFRAME WITH PICTUREċTILESċA",
    "N XĀBLACK FOLDERĀFOLDERĀOPEN FOLDERĀCARD INDEX DIVIDERSąFILE BOXĀFILE CABINETĀEMPTY NOTEĊ PAGEčD",
    "ĀNOTEĄ PAGEćDĀEMPTY DOCUMENTĆPAGEĊSĀDOCUMENTĀPAGEĄSĀWASTEBASKETĀSPIRAL NOTE PADćCALENDAR PADĀDES",
    "KTOP WINDOWĀMINIMIZEāAXIMIZEĀOVERLAPĀCLOCKWISE RIGHT AND LEFT SEMICIRCLE ARROWSāANCELLATION XĀIN",
    "CREASE FONT SIZE SYMBOLĀDECREASE FONT SIZE SYMBOLĀCOMPRESSIONĀOLD KEYĀROLLED-UP NEWSPAPERĀPAGE W",
    "ITH CIRCLED TEXTĀSTOCK CHARTĀDAGGER KNIFEĀLIPSĀSPEAKING HEAD IN SILHOUETTEĀTHREE RAYS ABOVEċBELO",
    "WċLEFTċRIGHTĀLEFT SPEECH BUBBLEĀRIGHT SPEECH BUBBLEĀTWO SPEECH BUBBLESāHREE SPEECH BUBBLESĀLEFT ",
    "THOUGHT BUBBLEĀRIGHT THOUGHT BUBBLEĀLEFT ANGER BUBBLEĀRIGHT ANGER BUBBLEĀMOOD BUBBLEĀLIGHTNING M",
    "OOD BUBBLEĎĀBALLOT BOX WITH BALLOTćSCRIPT XćBOX WITH SCRIPT XĉLD SCRIPT XĉX WITH BOLD SCRIPT XĀL",
    "IGHT CHECK MARKĀBALLOT BOX WITH BOLD CHECKĀWORLD MAPĀMOUNT FUJIĀTOKYO TOWERĀSTATUE OF LIBERTYāIL",
    "HOUETTE OF JAPANĀMOYAIĀGRINNING FACEč WITH SMILING EYESĀFACE WITH TEARS OF JOYĀSMILING FACE WITH",
    " OPEN MOUTHĜ AND SMILING EYESġCOLD SWEATġTIGHTLY-CLOSED EYESĒHALOēORNSĀWINKING FACEĀSMILING FACE",
    " WITH SMILING EYESĀFACE SAVOURING DELICIOUS FOODĀRELIEVED FACEĀSMILING FACE WITH HEART-SHAPED EY",
    "ESĒSUNGLASSESăRKING FACEĀNEUTRAL FACEĀEXPRESSIONLESS FACEĀUNAMUSED FACEĀFACE WITH COLD SWEATĀPEN",
    "SIVE FACEĀCONFUSED FACEĄOUNDED FACEĀKISSING FACEĀFACE THROWING A KISSĀKISSING FACE WITH SMILING ",
    "EYESĒCLOSED EYESĀFACE WITH STUCK-OUT TONGUEĚ AND WINKING EYEğTIGHTLY-CLOSED EYESĀDISAPPOINTED FA",
    "CEĀWORRIED FACEĀANGRY FACEĀPOUTING FACEĀCRYING FACEĀPERSEVERING FACEĀFACE WITH LOOK OF TRIUMPHĀD",
    "ISAPPOINTED BUT RELIEVED FACEĀFROWNING FACE WITH OPEN MOUTHĀANGUISHED FACEĀFEARFUL FACEĀWEARY FA",
    "CEĀSLEEPY FACEĀTIRED FACEĀGRIMACING FACEĀLOUDLY CRYING FACEĀFACE WITH OPEN MOUTHĀHUSHED FACEĀFAC",
    "E WITH OPEN MOUTH AND COLD SWEATąSCREAMING IN FEARĀASTONISHED FACEĀFLUSHED FACEĀSLEEPING FACEĀDI",
    "ZZY FACEĀFACE WITHOUT MOUTHĉ MEDICAL MASKĀGRINNING CAT FACE WITH SMILING EYESĀCAT FACE WITH TEAR",
    "S OF JOYĀSMILING CAT FACE WITH OPEN MOUTHĖHEART-SHAPED EYESĀCAT FACE WITH WRY SMILEĀKISSING CAT ",
    "FACE WITH CLOSED EYESĀPOUTING CAT FACEĀCRYING CAT FACEĀWEARY CAT FACEĀSLIGHTLY FROWNING FACEĉSMI",
    "LING FACEĀUPSIDE-DOWN FACEĀFACE WITH ROLLING EYESĊNO GOOD GESTUREĊOK GESTUREĀPERSON BOWING DEEPL",
    "YĀSEE-NO-EVIL MONKEYĀHEAR-NO-EVIL MONKEYĀSPEAK-NO-EVIL MONKEYĀHAPPY PERSON RAISING ONE HANDĀPERS",
    "ON RAISING BOTH HANDS IN CELEBRATIONćFROWNINGćWITH POUTING FACEČFOLDED HANDSĀNORTH WEST POINTING",
    " LEAFĀSOUTH WEST POINTING LEAFĀNORTH EAST POINTING LEAFĀSOUTH EAST POINTING LEAFĀTURNED NORTH WE",
    "ST POINTING LEAFćSOUTH WEST POINTING LEAFćNORTH EAST POINTING LEAFćSOUTH EAST POINTING LEAFĀNORT",
    "H WEST POINTING VINE LEAFĀSOUTH WEST POINTING VINE LEAFĀNORTH EAST POINTING VINE LEAFĀSOUTH EAST",
    " POINTING VINE LEAFĀHEAVY NORTH WEST POINTING VINE LEAFĆSOUTH WEST POINTING VINE LEAFĆNORTH EAST",
    " POINTING VINE LEAFĆSOUTH EAST POINTING VINE LEAFĀNORTH WEST POINTING BUDĀSOUTH WEST POINTING BU",
    "DĀNORTH EAST POINTING BUDĀSOUTH EAST POINTING BUDĀHEAVY NORTH WEST POINTING BUDĆSOUTH WEST POINT",
    "ING BUDĆNORTH EAST POINTING BUDĆSOUTH EAST POINTING BUDāOLLOW QUILT SQUARE ORNAMENTĜ IN BLACK SQ",
    "UAREĀSOLID QUILT SQUARE ORNAMENTě IN BLACK SQUAREĀLEFTWARDS ROCKETĀUPWARDS ROCKETĀRIGHTWARDS ROC",
    "KETĀDOWNWARDS ROCKETĀSCRIPT LIGATURE ET ORNAMENTĀHEAVY SCRIPT LIGATURE ET ORNAMENTĀLIGATURE OPEN",
    " ET ORNAMENTĀHEAVY LIGATURE OPEN ET ORNAMENTĆAMPERSAND ORNAMENTĀSWASH AMPERSAND ORNAMENTāANS-SER",
    "IF HEAVY DOUBLE TURNED COMMA QUOTATION MARK ORNAMENTĘCOMMA QUOTATION MARK ORNAMENTđLOW DOUBLE CO",
    "MMA QUOTATION MARK ORNAMENTĀHEAVY INTERROBANG ORNAMENTĀSANS-SERIF INTERROBANG ORNAMENTĀHEAVY SAN",
    "S-SERIF INTERROBANG ORNAMENTĀVERY HEAVY SOLIDUSċREVERSE SOLIDUSĀCHECKER BOARDĀREVERSE CHECKER BO",
    "ARDāOCKETĀHELICOPTERĀSTEAM LOCOMOTIVEĀRAILWAY CARĀHIGH-SPEED TRAINĐ WITH BULLET NOSEĀTRAINĀMETRO",
    "ĀLIGHT RAILĀSTATIONĀTRAMĄ CARĀBUSĀONCOMING BUSĀTROLLEYBUSĀBUS STOPĀMINIBUSĀAMBULANCEĀFIRE ENGINE",
    "ĀPOLICE CARĀONCOMING POLICE CARĀTAXIĀONCOMING TAXIĀAUTOMOBILEĀONCOMING AUTOMOBILEĀRECREATIONAL V",
    "EHICLEĀDELIVERY TRUCKĀARTICULATED LORRYĀTRACTORĀMONORAILĂUNTAIN RAILWAYĀSUSPENSION RAILWAYĀMOUNT",
    "AIN CABLEWAYĀAERIAL TRAMWAYĀSHIPĀROWBOATĀSPEEDBOATĀHORIZONTAL TRAFFIC LIGHTĀVERTICAL TRAFFIC LIG",
    "HTĀCONSTRUCTION SIGNĀPOLICE CARS REVOLVING LIGHTĀTRIANGULAR FLAG ON POSTĀDOORĀNO ENTRY SIGNĀSMOK",
    "ING SYMBOLĀNO SMOKING SYMBOLĀPUT LITTER IN ITS PLACE SYMBOLĀDO NOT LITTER SYMBOLĀPOTABLE WATER S",
    "YMBOLĀNON-POTABLE WATER SYMBOLĀBICYCLEĀNO BICYCLESĀBICYCLISTĀMOUNTAIN BICYCLISTĀPEDESTRIANĀNO PE",
    "DESTRIANSĀCHILDREN CROSSINGĀMENS SYMBOLĀWOMENS SYMBOLĀRESTROOMĀBABY SYMBOLĀTOILETĀWATER CLOSETĀS",
    "HOWERĀBATHĄTUBĀPASSPORT CONTROLĀCUSTOMSĀBAGGAGE CLAIMĀLEFT LUGGAGEĀTRIANGLE WITH ROUNDED CORNERS",
    "ĀPROHIBITED SIGNĀCIRCLED INFORMATION SOURCEĀBOYS SYMBOLĀGIRLS SYMBOLĀCOUCH AND LAMPĀSLEEPING ACC",
    "OMMODATIONāHOPPING BAGSĀBELLHOP BELLĂDĀPLACE OF WORSHIPĀOCTAGONAL SIGNĀSHOPPING TROLLEYāTUPAĀPAG",
    "ODAĀHINDU TEMPLEāUTĀELEVATOR@1F6DDĀPLAYGROUND SLIDEĀWHEELĀRING BUOYĀHAMMER AND WRENCHĀSHIELDĀOIL",
    " DRUMĀMOTORWAYĀRAILWAY TRACKĀMOTOR BOATĀUP-POINTING MILITARY AIRPLANEČAIRPLANEČSMALL AIRPLANEĀSM",
    "ALL AIRPLANEĀNORTHEAST-POINTING AIRPLANEĀAIRPLANE DEPARTUREĉARRIVING@1F6F0ĀSATELLITEĀONCOMING FI",
    "RE ENGINEĀDIESEL LOCOMOTIVEĀPASSENGER SHIPĀSCOOTERĀMOTOR SCOOTERĀCANOEĀSLEDĀFLYING SAUCERĀSKATEB",
    "OARDĀAUTO RICKSHAWĀPICKUP TRUCKĀROLLER SKATE@1F700ĀALCHEMICAL SYMBOL FOR QUINTESSENCEĖAIRĖFIREĖE",
    "ARTHĖWATERĖAQUAFORTISĚ REGIAĠ-2ěVITAEĠ-2ĖVINEGARĝ-2Ğ3ĖSULFURĖPHILOSOPHERS SULFURĖBLACK SULFURĖME",
    "RCURY SUBLIMATEħ-2Ĩ3ĖCINNABARĖSALTĖNITREĖVITRIOLĝ-2ĖROCK SALTğ-2ĖGOLDĖSILVERĖIRON OREĞ-2ĖCROCUS ",
    "OF IRONĖREGULUS OF IRONĖCOPPER OREĖIRON-COPPER OREĖSUBLIMATE OF COPPERĖCROCUS OF COPPERĦ-2ėOPPER",
    " ANTIMONIATEĖSALT OF COPPER ANTIMONIATEėUBLIMATE OF SALT OF COPPERĖVERDIGRISĖTIN OREĖLEAD OREĖAN",
    "TIMONY OREĖSUBLIMATE OF ANTIMONYėALT OF ANTIMONYėUBLIMATE OF SALT OF ANTIMONYĖVINEGAR OF ANTIMON",
    "YĖREGULUS OF ANTIMONYĩ-2ĝĝ-2Ğ3Ğ4ĖALKALIĜ-2ĖMARCASITEĖSAL-AMMONIACĖARSENICĖREALGARĝ-2ĖAURIPIGMENT",
    "ĖBISMUTH OREĖTARTARĜ-2ĖQUICK LIMEĖBORAXě-2Ĝ3ĖALUMĖOILĖSPIRITĖTINCTUREĖGUMĖWAXĖPOWDERĖCALXĖTUTTYĖ",
    "CAPUT MORTUUMĖSCEPTER OF JOVEĖCADUCEUSĖTRIDENTĖSTARRED TRIDENTĖLODESTONEĖSOAPĖURINEĖHORSE DUNGĖA",
    "SHESĖPOT ASHESĖBRICKĖPOWDERED BRICKĖAMALGAMĖSTRATUM SUPER STRATUMī-2ėUBLIMATIONĖPRECIPITATEĖDIST",
    "ILLęSOLVEĞ-2ĖPURIFYĘTREFACTIONĖCRUCIBLEĞ-2ğ3ğ4ğ5ĖALEMBICĖBATH OF MARYĞVAPOURSĖRETORTĖHOURĖNIGHTĖ",
    "DAY-NIGHTĖMONTHĖHALF DRAMěOUNCE@1F780ĀBLACK LEFT-POINTING ISOSCELES RIGHT TRIANGLEĆUP-POINTING I",
    "SOSCELES RIGHT TRIANGLEĆRIGHT-POINTING ISOSCELES RIGHT TRIANGLEĆDOWN-POINTING ISOSCELES RIGHT TR",
    "IANGLEĆSLIGHTLY SMALL CIRCLEĀMEDIUM BOLD WHITE CIRCLEĀBOLD WHITE CIRCLEĀHEAVY WHITE CIRCLEĀVERY "],
  String.join [
    "HEAVY WHITE CIRCLEĀEXTREMELY HEAVY WHITE CIRCLEĀWHITE CIRCLE CONTAINING BLACK SMALL CIRCLEĀROUND",
    " TARGETĀBLACK TINY SQUAREĆSLIGHTLY SMALL SQUAREĀLIGHT WHITE SQUAREĀMEDIUM WHITE SQUAREĀBOLD WHIT",
    "E SQUAREĀHEAVY WHITE SQUAREĀVERY HEAVY WHITE SQUAREĀEXTREMELY HEAVY WHITE SQUAREĀWHITE SQUARE CO",
    "NTAINING BLACK VERY SMALL SQUAREĞMEDIUM SQUAREĀSQUARE TARGETĀBLACK TINY DIAMONDĆVERY SMALL DIAMO",
    "NDĆMEDIUM SMALL DIAMONDĀWHITE DIAMOND CONTAINING BLACK VERY SMALL DIAMONDğMEDIUM DIAMONDĀDIAMOND",
    " TARGETĀBLACK TINY LOZENGEĆVERY SMALL LOZENGEĆMEDIUM SMALL LOZENGEĀWHITE LOZENGE CONTAINING BLAC",
    "K SMALL LOZENGEĀTHIN GREEK CROSSĀLIGHT GREEK CROSSĀMEDIUM GREEK CROSSĀBOLD GREEK CROSSĀVERY BOLD",
    " GREEK CROSSąHEAVY GREEK CROSSĀEXTREMELY HEAVY GREEK CROSSĀTHIN SALTIREĀLIGHT SALTIREĀMEDIUM SAL",
    "TIREĀBOLD SALTIREĀHEAVY SALTIREĀVERY HEAVY SALTIREĀEXTREMELY HEAVY SALTIREĀLIGHT FIVE SPOKED AST",
    "ERISKĀMEDIUM FIVE SPOKED ASTERISKĀBOLD FIVE SPOKED ASTERISKĀHEAVY FIVE SPOKED ASTERISKĀVERY HEAV",
    "Y FIVE SPOKED ASTERISKĀEXTREMELY HEAVY FIVE SPOKED ASTERISKĀLIGHT SIX SPOKED ASTERISKĀMEDIUM SIX",
    " SPOKED ASTERISKĀBOLD SIX SPOKED ASTERISKĀHEAVY SIX SPOKED ASTERISKĀVERY HEAVY SIX SPOKED ASTERI",
    "SKĀEXTREMELY HEAVY SIX SPOKED ASTERISKĀLIGHT EIGHT SPOKED ASTERISKĀMEDIUM EIGHT SPOKED ASTERISKĀ",
    "BOLD EIGHT SPOKED ASTERISKĀHEAVY EIGHT SPOKED ASTERISKĀVERY HEAVY EIGHT SPOKED ASTERISKĀLIGHT TH",
    "REE POINTED BLACK STARĀMEDIUM THREE POINTED BLACK STARĀTHREE POINTED BLACK STARĀMEDIUM THREE POI",
    "NTED PINWHEEL STARĀLIGHT FOUR POINTED BLACK STARĀMEDIUM FOUR POINTED BLACK STARĀFOUR POINTED BLA",
    "CK STARĀMEDIUM FOUR POINTED PINWHEEL STARĀREVERSE LIGHT FOUR POINTED PINWHEEL STARĀLIGHT FIVE PO",
    "INTED BLACK STARĀHEAVY FIVE POINTED BLACK STARĀMEDIUM SIX POINTED BLACK STARĀHEAVY SIX POINTED B",
    "LACK STARĀSIX POINTED PINWHEEL STARĀMEDIUM EIGHT POINTED BLACK STARĀHEAVY EIGHT POINTED BLACK ST",
    "ARĀVERY HEAVY EIGHT POINTED BLACK STARĀHEAVY EIGHT POINTED PINWHEEL STARĀLIGHT TWELVE POINTED BL",
    "ACK STARĀHEAVY TWELVE POINTED BLACK STARĕPINWHEEL STARĀCIRCLED TRIANGLEĀNEGATIVE CIRCLED TRIANGL",
    "EĀCIRCLED SQUAREĀNEGATIVE CIRCLED SQUARE@1F7E0ĀLARGE ORANGE CIRCLEĆYELLOW CIRCLEĆGREEN CIRCLEĆPU",
    "RPLE CIRCLEĆBROWN CIRCLEĆRED SQUAREĆBLUE SQUAREĆORANGE SQUAREĆYELLOW SQUAREĆGREEN SQUAREĆPURPLE ",
    "SQUAREĆBROWN SQUARE@1F7F0ĀHEAVY EQUALS SIGN@1F800ĀLEFTWARDS ARROW WITH SMALL TRIANGLE ARROWHEADĀ",
    "UPWARDS ARROW WITH SMALL TRIANGLE ARROWHEADĀRIGHTWARDS ARROW WITH SMALL TRIANGLE ARROWHEADĀDOWNW",
    "ARDS ARROW WITH SMALL TRIANGLE ARROWHEADĀLEFTWARDS ARROW WITH MEDIUM TRIANGLE ARROWHEADĀUPWARDS ",
    "ARROW WITH MEDIUM TRIANGLE ARROWHEADĀRIGHTWARDS ARROW WITH MEDIUM TRIANGLE ARROWHEADĀDOWNWARDS A",
    "RROW WITH MEDIUM TRIANGLE ARROWHEADĀLEFTWARDS ARROW WITH LARGE TRIANGLE ARROWHEADĀUPWARDS ARROW ",
    "WITH LARGE TRIANGLE ARROWHEADĀRIGHTWARDS ARROW WITH LARGE TRIANGLE ARROWHEADĀDOWNWARDS ARROW WIT",
    "H LARGE TRIANGLE ARROWHEAD@1F810ĀLEFTWARDS ARROW WITH SMALL EQUILATERAL ARROWHEADĀUPWARDS ARROW ",
    "WITH SMALL EQUILATERAL ARROWHEADĀRIGHTWARDS ARROW WITH SMALL EQUILATERAL ARROWHEADĀDOWNWARDS ARR",
    "OW WITH SMALL EQUILATERAL ARROWHEADĀLEFTWARDS ARROW WITH EQUILATERAL ARROWHEADĀUPWARDS ARROW WIT",
    "H EQUILATERAL ARROWHEADĀRIGHTWARDS ARROW WITH EQUILATERAL ARROWHEADĀDOWNWARDS ARROW WITH EQUILAT",
    "ERAL ARROWHEADĀHEAVY LEFTWARDS ARROW WITH EQUILATERAL ARROWHEADĆUPWARDS ARROW WITH EQUILATERAL A",
    "RROWHEADĆRIGHTWARDS ARROW WITH EQUILATERAL ARROWHEADĆDOWNWARDS ARROW WITH EQUILATERAL ARROWHEADĆ",
    "LEFTWARDS ARROW WITH LARGE EQUILATERAL ARROWHEADĆUPWARDS ARROW WITH LARGE EQUILATERAL ARROWHEADĆ",
    "RIGHTWARDS ARROW WITH LARGE EQUILATERAL ARROWHEADĆDOWNWARDS ARROW WITH LARGE EQUILATERAL ARROWHE",
    "ADĀLEFTWARDS TRIANGLE-HEADED ARROW WITH NARROW SHAFTĀUPWARDS TRIANGLE-HEADED ARROW WITH NARROW S",
    "HAFTĀRIGHTWARDS TRIANGLE-HEADED ARROW WITH NARROW SHAFTĀDOWNWARDS TRIANGLE-HEADED ARROW WITH NAR",
    "ROW SHAFTĀLEFTWARDS TRIANGLE-HEADED ARROW WITH MEDIUM SHAFTĀUPWARDS TRIANGLE-HEADED ARROW WITH M",
    "EDIUM SHAFTĀRIGHTWARDS TRIANGLE-HEADED ARROW WITH MEDIUM SHAFTĀDOWNWARDS TRIANGLE-HEADED ARROW W",
    "ITH MEDIUM SHAFTĀLEFTWARDS TRIANGLE-HEADED ARROW WITH BOLD SHAFTĀUPWARDS TRIANGLE-HEADED ARROW W",
    "ITH BOLD SHAFTĀRIGHTWARDS TRIANGLE-HEADED ARROW WITH BOLD SHAFTĀDOWNWARDS TRIANGLE-HEADED ARROW ",
    "WITH BOLD SHAFTĀLEFTWARDS TRIANGLE-HEADED ARROW WITH HEAVY SHAFTĀUPWARDS TRIANGLE-HEADED ARROW W",
    "ITH HEAVY SHAFTĀRIGHTWARDS TRIANGLE-HEADED ARROW WITH HEAVY SHAFTĀDOWNWARDS TRIANGLE-HEADED ARRO",
    "W WITH HEAVY SHAFTĀLEFTWARDS TRIANGLE-HEADED ARROW WITH VERY HEAVY SHAFTĀUPWARDS TRIANGLE-HEADED",
    " ARROW WITH VERY HEAVY SHAFTĀRIGHTWARDS TRIANGLE-HEADED ARROW WITH VERY HEAVY SHAFTĀDOWNWARDS TR",
    "IANGLE-HEADED ARROW WITH VERY HEAVY SHAFTĀLEFTWARDS FINGER-POST ARROWĀUPWARDS FINGER-POST ARROWĀ",
    "RIGHTWARDS FINGER-POST ARROWĀDOWNWARDS FINGER-POST ARROWĀLEFTWARDS SQUARED ARROWĀUPWARDS SQUARED",
    " ARROWĀRIGHTWARDS SQUARED ARROWĀDOWNWARDS SQUARED ARROWĀLEFTWARDS COMPRESSED ARROWĀUPWARDS COMPR",
    "ESSED ARROWĀRIGHTWARDS COMPRESSED ARROWĀDOWNWARDS COMPRESSED ARROWĀLEFTWARDS HEAVY COMPRESSED AR",
    "ROWĀUPWARDS HEAVY COMPRESSED ARROWĀRIGHTWARDS HEAVY COMPRESSED ARROWĀDOWNWARDS HEAVY COMPRESSED ",
    "ARROWĀLEFTWARDS HEAVY ARROWĀUPWARDS HEAVY ARROWĀRIGHTWARDS HEAVY ARROWĀDOWNWARDS HEAVY ARROW@1F8",
    "50ĀLEFTWARDS SANS-SERIF ARROWĀUPWARDS SANS-SERIF ARROWĀRIGHTWARDS SANS-SERIF ARROWĀDOWNWARDS SAN",
    "S-SERIF ARROWĀNORTH WEST SANS-SERIF ARROWĆEAST SANS-SERIF ARROWĀSOUTH EAST SANS-SERIF ARROWĆWEST",
    " SANS-SERIF ARROWĀLEFT RIGHT SANS-SERIF ARROWĀUP DOWN SANS-SERIF ARROW@1F860ĀWIDE-HEADED LEFTWAR",
    "DS LIGHT BARB ARROWČUPWARDS LIGHT BARB ARROWČRIGHTWARDS LIGHT BARB ARROWČDOWNWARDS LIGHT BARB AR",
    "ROWČNORTH WEST LIGHT BARB ARROWĒEAST LIGHT BARB ARROWČSOUTH EAST LIGHT BARB ARROWĒWEST LIGHT BAR",
    "B ARROWČLEFTWARDS BARB ARROWČUPWARDS BARB ARROWČRIGHTWARDS BARB ARROWČDOWNWARDS BARB ARROWČNORTH",
    " WEST BARB ARROWĒEAST BARB ARROWČSOUTH EAST BARB ARROWĒWEST BARB ARROWČLEFTWARDS MEDIUM BARB ARR",
    "OWČUPWARDS MEDIUM BARB ARROWČRIGHTWARDS MEDIUM BARB ARROWČDOWNWARDS MEDIUM BARB ARROWČNORTH WEST",
    " MEDIUM BARB ARROWĒEAST MEDIUM BARB ARROWČSOUTH EAST MEDIUM BARB ARROWĒWEST MEDIUM BARB ARROWČLE",
    "FTWARDS HEAVY BARB ARROWČUPWARDS HEAVY BARB ARROWČRIGHTWARDS HEAVY BARB ARROWČDOWNWARDS HEAVY BA",
    "RB ARROWČNORTH WEST HEAVY BARB ARROWĒEAST HEAVY BARB ARROWČSOUTH EAST HEAVY BARB ARROWĒWEST HEAV",
    "Y BARB ARROWČLEFTWARDS VERY HEAVY BARB ARROWČUPWARDS VERY HEAVY BARB ARROWČRIGHTWARDS VERY HEAVY",
    " BARB ARROWČDOWNWARDS VERY HEAVY BARB ARROWČNORTH WEST VERY HEAVY BARB ARROWĒEAST VERY HEAVY BAR",
    "B ARROWČSOUTH EAST VERY HEAVY BARB ARROWĒWEST VERY HEAVY BARB ARROW@1F890ĀLEFTWARDS TRIANGLE ARR",
    "OWHEADĀUPWARDS TRIANGLE ARROWHEADĀRIGHTWARDS TRIANGLE ARROWHEADĀDOWNWARDS TRIANGLE ARROWHEADĀLEF",
    "TWARDS WHITE ARROW WITHIN TRIANGLE ARROWHEADĀUPWARDS WHITE ARROW WITHIN TRIANGLE ARROWHEADĀRIGHT",
    "WARDS WHITE ARROW WITHIN TRIANGLE ARROWHEADĀDOWNWARDS WHITE ARROW WITHIN TRIANGLE ARROWHEADĀLEFT",
    "WARDS ARROW WITH NOTCHED TAILĀUPWARDS ARROW WITH NOTCHED TAILĀRIGHTWARDS ARROW WITH NOTCHED TAIL",
    "ĀDOWNWARDS ARROW WITH NOTCHED TAILĀHEAVY ARROW SHAFT WIDTH ONEĘTWO THIRDSĘONE HALFĜTHIRDĀLEFTWAR",
    "DS BOTTOM-SHADED WHITE ARROWĀRIGHTWARDS BOTTOM SHADED WHITE ARROWĀLEFTWARDS TOP SHADED WHITE ARR",
    "OWĀRIGHTWARDS TOP SHADED WHITE ARROWĀLEFTWARDS LEFT-SHADED WHITE ARROWĀRIGHTWARDS RIGHT-SHADED W",
    "HITE ARROWĀLEFTWARDS RIGHT-SHADED WHITE ARROWĀRIGHTWARDS LEFT-SHADED WHITE ARROWĀLEFTWARDS BACK-",
    "TILTED SHADOWED WHITE ARROWĀRIGHTWARDS BACK-TILTED SHADOWED WHITE ARROWĀLEFTWARDS FRONT-TILTED S",
    "HADOWED WHITE ARROWĀRIGHTWARDS FRONT-TILTED SHADOWED WHITE ARROWĀWHITE ARROW SHAFT WIDTH ONEĘTWO",
    " THIRDS@1F8B0ĀARROW POINTING UPWARDS THEN NORTH WESTďRIGHTWARDS THEN CURVING SOUTH WEST@1F900ĀCI",
    "RCLED CROSS FORMEE WITH FOUR DOTSĚTWO DOTSĔĀLEFT HALF CIRCLE WITH FOUR DOTSĖTHREE DOTSėWO DOTSĖD",
    "OTĐĀDOWNWARD FACING HOOKĐNOTCHED HOOKĐHOOK WITH DOTĐNOTCHED HOOK WITH DOTĀPINCHED FINGERSĀWHITE ",
    "HEARTĀBROWN HEARTĀPINCHING HANDĀZIPPER-MOUTH FACEĀMONEY-MOUTH FACEĀFACE WITH THERMOMETERĀNERD FA",
    "CEĀTHINKING FACEĀFACE WITH HEAD-BANDAGEĀROBOT FACEĀHUGGING FACEĀSIGN OF THE HORNSĀCALL ME HANDĀR",
    "AISED BACK OF HANDĀLEFT-FACING FISTĀRIGHT-FACING FISTĀHANDSHAKEĄ WITH INDEX AND MIDDLE FINGERS C",
    "ROSSEDĀI LOVE YOU HAND SIGNĀFACE WITH COWBOY HATĀCLOWN FACEĀNAUSEATED FACEĀROLLING ON THE FLOOR ",
    "LAUGHINGĀDROOLING FACEĀLYING FACEĀFACE PALMĀSNEEZING FACEĀFACE WITH ONE EYEBROW RAISEDĀGRINNING ",
    "FACE WITH STAR EYESēONE LARGE AND ONE SMALL EYEĀFACE WITH FINGER COVERING CLOSED LIPSĀSERIOUS FA",
    "CE WITH SYMBOLS COVERING MOUTHāMILING FACE WITH SMILING EYES AND HAND COVERING MOUTHĀFACE WITH O",
    "PEN MOUTH VOMITINGĀSHOCKED FACE WITH EXPLODING HEADĀPREGNANT WOMANĀBREAST-FEEDINGĀPALMS UP TOGET",
    "HERĀSELFIEĀPRINCEĀMAN IN TUXEDOāOTHER CHRISTMASĀSHRUGĀPERSON DOING CARTWHEELĀJUGGLINGĀFENCERĀMOD",
    "ERN PENTATHLONĀWRESTLERSāATER POLOĀHANDBALLĀDIVING MASKĀWILTED FLOWERĀDRUM WITH DRUMSTICKSĀCLINK",
    "ING GLASSESĀTUMBLER GLASSĀSPOONĀGOAL NETĀRIFLEĀFIRST PLACE MEDALĀSECOND PLACE MEDALĀTHIRD PLACE ",
    "MEDALĀBOXING GLOVEĀMARTIAL ARTS UNIFORMĀCURLING STONEĀLACROSSE STICK AND BALLĀSOFTBALLĀFLYING DI",
    "SCĀCROISSANTĀAVOCADOĀCUCUMBERĀBACONĀPOTATOĀCARROTĀBAGUETTE BREADĀGREEN SALADĀSHALLOW PAN OF FOOD",
    "āTUFFED FLATBREADĀEGGĀGLASS OF MILKĀPEANUTSĀKIWIFRUITĀPANCAKESĀDUMPLINGĀFORTUNE COOKIEĀTAKEOUT B",
    "OXĀCHOPSTICKSĀBOWL WITH SPOONĀCUP WITH STRAWāOCONUTĀBROCCOLIĀPIEāRETZELĀCUT OF MEATĀSANDWICHĀCAN",
    "NED FOODĀLEAFY GREENĀMANGOāOON CAKEĀBAGELĀSMILING FACE WITH SMILING EYES AND THREE HEARTSĀYAWNIN",
    "G FACEĀSMILING FACE WITH TEARĀFACE WITH PARTY HORN AND PARTY HATĊUNEVEN EYES AND WAVY MOUTHĀOVER",
    "HEATED FACEĀFREEZING FACEĀNINJAĀDISGUISED FACEĀFACE HOLDING BACK TEARSąWITH PLEADING EYESĀSARIĀL",
    "AB COATĀGOGGLESĀHIKING BOOTĀFLAT SHOEĀCRABĀLION FACEĀSCORPIONĀTURKEYĀUNICORN FACEĀEAGLEĀDUCKĀBAT",
    "ĀSHARKĀOWLĀFOX FACEĀBUTTERFLYĀDEERĀGORILLAĀLIZARDĀRHINOCEROSĀSHRIMPāQUIDĀGIRAFFE FACEĀZEBRA FACE"],
  String.join [
    "ĀHEDGEHOGĀSAUROPODĀT-REXĀCRICKETĀKANGAROOĀLLAMAĀPEACOCKĀHIPPOPOTAMUSĀPARROTĀRACCOONĀLOBSTERĀMOSQ",
    "UITOāICROBEĀBADGERĀSWANĀMAMMOTHĀDODOĀSLOTHĀOTTERāRANGUTANĀSKUNKĀFLAMINGOĀOYSTERĀBEAVERāISONĀSEAL",
    "ĀGUIDE DOGĀPROBING CANEĀEMOJI COMPONENT RED HAIRĐCURLY HAIRĐBALDĐWHITE HAIRĀBONEĀLEGĀFOOTĀTOOTHĀ",
    "SUPERHEROąVILLAINāAFETY VESTĀEAR WITH HEARING AIDĀMOTORIZED WHEELCHAIRāANUAL WHEELCHAIRāECHANICA",
    "L ARMċLEGĀCHEESE WEDGEāUPCAKEĀSALT SHAKERĀBEVERAGE BOXĀGARLICĀONIONĀFALAFELĀWAFFLEĀBUTTERĀMATE D",
    "RINKĀICE CUBEĀBUBBLE TEAĀTROLLĀSTANDING PERSONĀKNEELING PERSONĀDEAF PERSONĀFACE WITH MONOCLEĀADU",
    "LTĀCHILDĀOLDER ADULTĀBEARDED PERSONĀPERSON WITH HEADSCARFćIN STEAMY ROOMćCLIMBINGćIN LOTUS POSIT",
    "IONĀMAGEĀFAIRYĀVAMPIREĀMERPERSONĀELFĀGENIEĀZOMBIEĀBRAINĀORANGE HEARTĀBILLED CAPĀSCARFĀGLOVESĀCOA",
    "TĀSOCKSĀRED GIFT ENVELOPEĀFIRECRACKERĀJIGSAW PUZZLE PIECEĀTEST TUBEĀPETRI DISHĀDNA DOUBLE HELIXĀ",
    "COMPASSĀABACUSĀFIRE EXTINGUISHERĀTOOLBOXĀBRICKĀMAGNETĀLUGGAGEāOTION BOTTLEĀSPOOL OF THREADĀBALL ",
    "OF YARNĀSAFETY PINĀTEDDY BEARĀBROOMāASKETĀROLL OF PAPERĀBAR OF SOAPĀSPONGEĀRECEIPTĀNAZAR AMULETā",
    "EUTRAL CHESS KINGĎQUEENĎROOKĎBISHOPĎKNIGHTĎPAWNĀWHITE CHESS KNIGHT ROTATED FORTY-FIVE DEGREESĀBL",
    "ACK CHESS KNIGHT ROTATED FORTY-FIVE DEGREESĀNEUTRAL CHESS KNIGHT ROTATED FORTY-FIVE DEGREESĀWHIT",
    "E CHESS KING ROTATED NINETY DEGREESČQUEEN ROTATED NINETY DEGREESČROOK ROTATED NINETY DEGREESČBIS",
    "HOP ROTATED NINETY DEGREESČKNIGHT ROTATED NINETY DEGREESČPAWN ROTATED NINETY DEGREESĀBLACK CHESS",
    " KING ROTATED NINETY DEGREESČQUEEN ROTATED NINETY DEGREESČROOK ROTATED NINETY DEGREESČBISHOP ROT",
    "ATED NINETY DEGREESČKNIGHT ROTATED NINETY DEGREESČPAWN ROTATED NINETY DEGREESĀNEUTRAL CHESS KING",
    " ROTATED NINETY DEGREESĎQUEEN ROTATED NINETY DEGREESĎROOK ROTATED NINETY DEGREESĎBISHOP ROTATED ",
    "NINETY DEGREESĎKNIGHT ROTATED NINETY DEGREESĎPAWN ROTATED NINETY DEGREESĀWHITE CHESS KNIGHT ROTA",
    "TED ONE HUNDRED THIRTY-FIVE DEGREESĀBLACK CHESS KNIGHT ROTATED ONE HUNDRED THIRTY-FIVE DEGREESĀN",
    "EUTRAL CHESS KNIGHT ROTATED ONE HUNDRED THIRTY-FIVE DEGREESĀWHITE CHESS TURNED KINGēQUEENēROOKēB",
    "ISHOPēKNIGHTēPAWNĀBLACK CHESS TURNED KINGēQUEENēROOKēBISHOPēKNIGHTēPAWNĀNEUTRAL CHESS TURNED KIN",
    "GĕQUEENĕROOKĕBISHOPĕKNIGHTĕPAWNĀWHITE CHESS KNIGHT ROTATED TWO HUNDRED TWENTY-FIVE DEGREESĀBLACK",
    " CHESS KNIGHT ROTATED TWO HUNDRED TWENTY-FIVE DEGREESĀNEUTRAL CHESS KNIGHT ROTATED TWO HUNDRED T",
    "WENTY-FIVE DEGREESĀWHITE CHESS KING ROTATED TWO HUNDRED SEVENTY DEGREESČQUEEN ROTATED TWO HUNDRE",
    "D SEVENTY DEGREESČROOK ROTATED TWO HUNDRED SEVENTY DEGREESČBISHOP ROTATED TWO HUNDRED SEVENTY DE",
    "GREESČKNIGHT ROTATED TWO HUNDRED SEVENTY DEGREESČPAWN ROTATED TWO HUNDRED SEVENTY DEGREESĀBLACK ",
    "CHESS KING ROTATED TWO HUNDRED SEVENTY DEGREESČQUEEN ROTATED TWO HUNDRED SEVENTY DEGREESČROOK RO",
    "TATED TWO HUNDRED SEVENTY DEGREESČBISHOP ROTATED TWO HUNDRED SEVENTY DEGREESČKNIGHT ROTATED TWO ",
    "HUNDRED SEVENTY DEGREESČPAWN ROTATED TWO HUNDRED SEVENTY DEGREESĀNEUTRAL CHESS KING ROTATED TWO ",
    "HUNDRED SEVENTY DEGREESĎQUEEN ROTATED TWO HUNDRED SEVENTY DEGREESĎROOK ROTATED TWO HUNDRED SEVEN",
    "TY DEGREESĎBISHOP ROTATED TWO HUNDRED SEVENTY DEGREESĎKNIGHT ROTATED TWO HUNDRED SEVENTY DEGREES",
    "ĎPAWN ROTATED TWO HUNDRED SEVENTY DEGREESĀWHITE CHESS KNIGHT ROTATED THREE HUNDRED FIFTEEN DEGRE",
    "ESĀBLACK CHESS KNIGHT ROTATED THREE HUNDRED FIFTEEN DEGREESĀNEUTRAL CHESS KNIGHT ROTATED THREE H",
    "UNDRED FIFTEEN DEGREESĀWHITE CHESS EQUIHOPPERĀBLACK CHESS EQUIHOPPERĀNEUTRAL CHESS EQUIHOPPERĀWH",
    "ITE CHESS EQUIHOPPER ROTATED NINETY DEGREESĀBLACK CHESS EQUIHOPPER ROTATED NINETY DEGREESĀNEUTRA",
    "L CHESS EQUIHOPPER ROTATED NINETY DEGREESĀWHITE CHESS KNIGHT-QUEENēROOKēBISHOPĀBLACK CHESS KNIGH",
    "T-QUEENēROOKēBISHOP@1FA60ĀXIANGQI RED GENERALČMANDARINČELEPHANTČHORSEČCHARIOTčANNONČSOLDIERĈBLAC",
    "K GENERALĎMANDARINĎELEPHANTĎHORSEĎCHARIOTďANNONĎSOLDIER@1FA70ĀBALLET SHOESĀONE-PIECE SWIMSUITĀBR",
    "IEFSĀSHORTSĀTHONG SANDAL@1FA78ĀDROP OF BLOODĀADHESIVE BANDAGEĀSTETHOSCOPEĀX-RAYĀCRUTCH@1FA80ĀYO-",
    "YOĀKITEĀPARACHUTEĀBOOMERANGĀMAGIC WANDĀPINATAĀNESTING DOLLS@1FA90ĀRINGED PLANETĀCHAIRĀRAZORĀAXEĀ",
    "DIYA LAMPĀBANJOĀMILITARY HELMETĀACCORDIONĀLONG DRUMĀCOINāARPENTRY SAWĀSCREWDRIVERĀLADDERĀHOOKĀMI",
    "RRORĀWINDOWĀPLUNGERĀSEWING NEEDLEĀKNOTĀBUCKETĀMOUSE TRAPĀTOOTHBRUSHĀHEADSTONEĀPLACARDĀROCKĀMIRRO",
    "R BALLĀIDENTIFICATION CARDĀLOW BATTERYĀHAMSA@1FAB0ĀFLYĀWORMĀBEETLEĀCOCKROACHĀPOTTED PLANTĀWOODĀF",
    "EATHERĀLOTUSĀCORALĀEMPTY NESTĀNEST WITH EGGS@1FAC0ĀANATOMICAL HEARTĀLUNGSĀPEOPLE HUGGINGāREGNANT",
    " MANĉPERSONāERSON WITH CROWN@1FAD0ĀBLUEBERRIESāELL PEPPERĀOLIVEĀFLATBREADĀTAMALEĀFONDUEĀTEAPOTĀP",
    "OURING LIQUIDĀBEANSĀJAR@1FAE0ĀMELTING FACEĀSALUTING FACEĀFACE WITH OPEN EYES AND HAND OVER MOUTH",
    "ĊPEEKING EYEĊDIAGONAL MOUTHĀDOTTED LINE FACEĀBITING LIPāUBBLES@1FAF0ĀHAND WITH INDEX FINGER AND ",
    "THUMB CROSSEDĀRIGHTWARDS HANDĀLEFTWARDS HANDĀPALM DOWN HANDąUP HANDĀINDEX POINTING AT THE VIEWER",
    "ĀHEART HANDS@1FB00ĀBLOCK SEXTANT-1Ď2Ď12Ď3Ď13Ď23Ď123Ď4Ď14Ď24Ď124Ď34Ď134Ď234Ď1234Ď5Ď15Ď25Ď125Ď35Ď2",
    "35Ď1235Ď45Ď145Ď245Ď1245Ď345Ď1345Ď2345Ď12345Ď6Ď16Ď26Ď126Ď36Ď136Ď236Ď1236Ď46Ď146ď246Ď346Ď1346Ď2346",
    "Ď12346Ď56Ď156Ď256Ď1256Ď356Ď1356Ď2356Ď12356Ď456Ď1456Ď2456Ď12456Ď3456Ď13456Ď23456ĀLOWER LEFT BLOCK",
    " DIAGONAL LOWER MIDDLE LEFT TO LOWER CENTREĵRIGHTĚUPPER MIDDLE LEFT TO LOWER CENTREĵRIGHTĠLEFT T",
    "O LOWER CENTREĆRIGHT BLOCK DIAGONAL UPPER MIDDLE LEFT TO UPPER CENTREĶRIGHTěLOWER MIDDLE LEFT TO",
    " UPPER CENTREĶRIGHTġLEFT TO UPPER CENTREġMIDDLE LEFT TO UPPER MIDDLE RIGHTġCENTRE TO LOWER MIDDL",
    "E RIGHTġLEFT TO LOWER MIDDLE RIGHTġCENTRE TO UPPER MIDDLE RIGHTġLEFT TO UPPER MIDDLE RIGHTġCENTR",
    "E TO UPPER RIGHTĆLEFT BLOCK DIAGONAL UPPER CENTRE TO UPPER MIDDLE RIGHTĠLEFT TO UPPER MIDDLE RIG",
    "HTĠCENTRE TO LOWER MIDDLE RIGHTĠLEFT TO LOWER MIDDLE RIGHTĠCENTRE TO LOWER RIGHTĠMIDDLE LEFT TO ",
    "LOWER MIDDLE RIGHTĀUPPER RIGHT BLOCK DIAGONAL LOWER MIDDLE LEFT TO LOWER CENTREĶRIGHTěUPPER MIDD",
    "LE LEFT TO LOWER CENTREĶRIGHTġLEFT TO LOWER CENTREĆLEFT BLOCK DIAGONAL UPPER MIDDLE LEFT TO UPPE",
    "R CENTREĵRIGHTĚLOWER MIDDLE LEFT TO UPPER CENTREĵRIGHTĠLEFT TO UPPER CENTREĠMIDDLE LEFT TO UPPER",
    " MIDDLE RIGHTĠCENTRE TO LOWER MIDDLE RIGHTĠLEFT TO LOWER MIDDLE RIGHTĠCENTRE TO UPPER MIDDLE RIG",
    "HTĠLEFT TO UPPER MIDDLE RIGHTĠCENTRE TO UPPER RIGHTĆRIGHT BLOCK DIAGONAL UPPER CENTRE TO UPPER M",
    "IDDLE RIGHTġLEFT TO UPPER MIDDLE RIGHTġCENTRE TO LOWER MIDDLE RIGHTġLEFT TO LOWER MIDDLE RIGHTġC",
    "ENTRE TO LOWER RIGHTġMIDDLE LEFT TO LOWER MIDDLE RIGHTĆAND RIGHT AND LOWER TRIANGULAR THREE QUAR",
    "TERS BLOCKĀLEFT AND LOWER AND RIGHT TRIANGULAR THREE QUARTERS BLOCKĀUPPER AND LEFT AND LOWER TRI",
    "ANGULAR THREE QUARTERS BLOCKĀLEFT AND UPPER AND RIGHT TRIANGULAR THREE QUARTERS BLOCKąTRIANGULAR",
    " ONE QUARTER BLOCKĀUPPER TRIANGULAR ONE QUARTER BLOCKĀRIGHT TRIANGULAR ONE QUARTER BLOCKĀLOWER T",
    "RIANGULAR ONE QUARTER BLOCKĀVERTICAL ONE EIGHTH BLOCK-2Ě3Ě4Ě5Ě6Ě7ĀHORIZONTAL ONE EIGHTH BLOCK-2Ĝ",
    "3Ĝ4Ĝ5Ĝ6Ĝ7ĀLEFT AND LOWER ONE EIGHTH BLOCKĉUPPER ONE EIGHTH BLOCKĀRIGHT AND UPPER ONE EIGHTH BLOC",
    "KĊLOWER ONE EIGHTH BLOCKĀUPPER AND LOWER ONE EIGHTH BLOCKĀHORIZONTAL ONE EIGHTH BLOCK-1358ĀUPPER",
    " ONE QUARTER BLOCKĆTHREE EIGHTHS BLOCKĆFIVE EIGHTHS BLOCKĆTHREE QUARTERS BLOCKĆSEVEN EIGHTHS BLO",
    "CKĀRIGHT ONE QUARTER BLOCKĆTHREE EIGHTHS BLOCKĆFIVE EIGHTHS BLOCKĆTHREE QUARTERS BLOCKĆSEVEN EIG",
    "HTHS BLOCKĀLEFT HALF MEDIUM SHADEĀRIGHT HALF MEDIUM SHADEĀUPPER HALF MEDIUM SHADEĀLOWER HALF MED",
    "IUM SHADEĀINVERSE MEDIUM SHADEĀUPPER HALF BLOCK AND LOWER HALF INVERSE MEDIUM SHADEċINVERSE MEDI",
    "UM SHADE AND LOWER HALF BLOCK@1FB94ĀLEFT HALF INVERSE MEDIUM SHADE AND RIGHT HALF BLOCKĀCHECKER ",
    "BOARD FILLĀINVERSE CHECKER BOARD FILLĀHEAVY HORIZONTAL FILLĀUPPER LEFT TO LOWER RIGHT FILLĆRIGHT",
    " TO LOWER LEFT FILLĆAND LOWER TRIANGULAR HALF BLOCKĀLEFT AND RIGHT TRIANGULAR HALF BLOCKĀUPPER L",
    "EFT TRIANGULAR MEDIUM SHADEĆRIGHT TRIANGULAR MEDIUM SHADEĀLOWER RIGHT TRIANGULAR MEDIUM SHADEĆLE",
    "FT TRIANGULAR MEDIUM SHADEĀBOX DRAWINGS LIGHT DIAGONAL UPPER CENTRE TO MIDDLE LEFTĳRIGHTĜMIDDLE ",
    "LEFT TO LOWER CENTREģRIGHT TO LOWER CENTREĜUPPER CENTRE TO MIDDLE LEFT TO LOWER CENTREĳRIGHT TO ",
    "LOWER CENTREĜMIDDLE LEFT TO LOWER CENTRE TO MIDDLE RIGHTīUPPER CENTRE TO MIDDLE RIGHTĜUPPER CENT",
    "RE TO MIDDLE LEFT AND MIDDLE RIGHT TO LOWER CENTREĳRIGHT AND MIDDLE LEFT TO LOWER CENTREĹTO LOWE",
    "R CENTRE TO MIDDLE LEFTĳLEFT TO LOWER CENTRE TO MIDDLE RIGHTĜMIDDLE LEFT TO UPPER CENTRE TO MIDD",
    "LE RIGHT TO LOWER CENTREģRIGHT TO UPPER CENTRE TO MIDDLE LEFT TO LOWER CENTREĜDIAMONDēHORIZONTAL",
    " WITH VERTICAL STROKEĀARROWHEAD-SHAPED POINTERĀINVERSE CHECK MARKĀLEFT HALF RUNNING MANĀRIGHT HA",
    "LF RUNNING MANĀINVERSE DOWNWARDS ARROW WITH TIP LEFTWARDSĀLEFTWARDS ARROW AND UPPER AND LOWER ON",
    "E EIGHTH BLOCKĀRIGHTWARDS ARROW AND UPPER AND LOWER ONE EIGHTH BLOCKĀDOWNWARDS ARROW AND RIGHT O",
    "NE EIGHTH BLOCKĀUPWARDS ARROW AND RIGHT ONE EIGHTH BLOCKĀLEFT HALF FOLDERĀRIGHT HALF FOLDERĀVOID",
    "ED GREEK CROSSĀRIGHT OPEN SQUARED DOTĀNEGATIVE DIAGONAL CROSSĒMIDDLE RIGHT TO LOWER CENTREĒDIAMO",
    "NDĀWHITE HEAVY SALTIRE WITH ROUNDED CORNERSĀLEFT THIRD WHITE RIGHT POINTING INDEXĀMIDDLE THIRD W",
    "HITE RIGHT POINTING INDEXĀRIGHT THIRD WHITE RIGHT POINTING INDEXĀNEGATIVE SQUARED QUESTION MARKĀ",
    "STICK FIGUREČ WITH ARMS RAISEDčLEANING LEFTĕRIGHTčWITH DRESSĀWHITE UP-POINTING CHEVRON@1FBF0ĀSEG",
    "MENTED DIGIT ZEROĐONEĐTWOđHREEĐFOURđIVEĐSIXđEVENĐEIGHTĐNINE@2F800ĀCJK COMPATIBILITY IDEOGRAPH-2F",
    "800Ġ1Ġ2Ġ3Ġ4Ġ5Ġ6Ġ7Ġ8Ġ9ĠAĠBĠCĠDĠEĠFğ10Ġ1Ġ2Ġ3Ġ4Ġ5Ġ6Ġ7Ġ8Ġ9ĠAĠBĠCĠDĠEĠFğ20Ġ1Ġ2Ġ3Ġ4Ġ5Ġ6Ġ7Ġ8Ġ9ĠAĠBĠCĠDĠ",
    "EĠFğ30Ġ1Ġ2Ġ3Ġ4Ġ5Ġ6Ġ7Ġ8Ġ9ĠAĠBĠCĠDĠEĠFğ40Ġ1Ġ2Ġ3Ġ4Ġ5Ġ6Ġ7Ġ8Ġ9ĠAĠBĠCĠDĠEĠFğ50Ġ1Ġ2Ġ3Ġ4Ġ5Ġ6Ġ7Ġ8Ġ9ĠAĠBĠC",
    "ĠDĠEĠFğ60Ġ1Ġ2Ġ3Ġ4Ġ5Ġ6Ġ7Ġ8Ġ9ĠAĠBĠCĠDĠEĠFğ70Ġ1Ġ2Ġ3Ġ4Ġ5Ġ6Ġ7Ġ8Ġ9ĠAĠBĠCĠDĠEĠFğ80Ġ1Ġ2Ġ3Ġ4Ġ5Ġ6Ġ7Ġ8Ġ9ĠAĠ",
    "BĠCĠDĠEĠFğ90Ġ1Ġ2Ġ3Ġ4Ġ5Ġ6Ġ7Ġ8Ġ9ĠAĠBĠCĠDĠEĠFğA0Ġ1Ġ2Ġ3Ġ4Ġ5Ġ6Ġ7Ġ8Ġ9ĠAĠBĠCĠDĠEĠFğB0Ġ1Ġ2Ġ3Ġ4Ġ5Ġ6Ġ7Ġ8Ġ9",
    "ĠAĠBĠCĠDĠEĠFğC0Ġ1Ġ2Ġ3Ġ4Ġ5Ġ6Ġ7Ġ8Ġ9ĠAĠBĠCĠDĠEĠFğD0Ġ1Ġ2Ġ3Ġ4Ġ5Ġ6Ġ7Ġ8Ġ9ĠAĠBĠCĠDĠEĠFğE0Ġ1Ġ2Ġ3Ġ4Ġ5Ġ6Ġ7Ġ",
    "8Ġ9ĠAĠBĠCĠDĠEĠFğF0Ġ1Ġ2Ġ3Ġ4Ġ5Ġ6Ġ7Ġ8Ġ9ĠAĠBĠCĠDĠEĠFĞ900Ġ1Ġ2Ġ3Ġ4Ġ5Ġ6Ġ7Ġ8Ġ9ĠAĠBĠCĠDĠEĠFğ10Ġ1Ġ2Ġ3Ġ4Ġ5Ġ"],
  String.join [
    "6Ġ7Ġ8Ġ9ĠAĠBĠCĠDĠEĠFğ20Ġ1Ġ2Ġ3Ġ4Ġ5Ġ6Ġ7Ġ8Ġ9ĠAĠBĠCĠDĠEĠFğ30Ġ1Ġ2Ġ3Ġ4Ġ5Ġ6Ġ7Ġ8Ġ9ĠAĠBĠCĠDĠEĠFğ40Ġ1Ġ2Ġ3Ġ4",
    "Ġ5Ġ6Ġ7Ġ8Ġ9ĠAĠBĠCĠDĠEĠFğ50Ġ1Ġ2Ġ3Ġ4Ġ5Ġ6Ġ7Ġ8Ġ9ĠAĠBĠCĠDĠEĠFğ60Ġ1Ġ2Ġ3Ġ4Ġ5Ġ6Ġ7Ġ8Ġ9ĠAĠBĠCĠDĠEĠFğ70Ġ1Ġ2Ġ",
    "3Ġ4Ġ5Ġ6Ġ7Ġ8Ġ9ĠAĠBĠCĠDĠEĠFğ80Ġ1Ġ2Ġ3Ġ4Ġ5Ġ6Ġ7Ġ8Ġ9ĠAĠBĠCĠDĠEĠFğ90Ġ1Ġ2Ġ3Ġ4Ġ5Ġ6Ġ7Ġ8Ġ9ĠAĠBĠCĠDĠEĠFğA0Ġ1",
    "Ġ2Ġ3Ġ4Ġ5Ġ6Ġ7Ġ8Ġ9ĠAĠBĠCĠDĠEĠFğB0Ġ1Ġ2Ġ3Ġ4Ġ5Ġ6Ġ7Ġ8Ġ9ĠAĠBĠCĠDĠEĠFğC0Ġ1Ġ2Ġ3Ġ4Ġ5Ġ6Ġ7Ġ8Ġ9ĠAĠBĠCĠDĠEĠFğD",
    "0Ġ1Ġ2Ġ3Ġ4Ġ5Ġ6Ġ7Ġ8Ġ9ĠAĠBĠCĠDĠEĠFğE0Ġ1Ġ2Ġ3Ġ4Ġ5Ġ6Ġ7Ġ8Ġ9ĠAĠBĠCĠDĠEĠFğF0Ġ1Ġ2Ġ3Ġ4Ġ5Ġ6Ġ7Ġ8Ġ9ĠAĠBĠCĠDĠEĠ",
    "FĞA00Ġ1Ġ2Ġ3Ġ4Ġ5Ġ6Ġ7Ġ8Ġ9ĠAĠBĠCĠDĠEĠFğ10Ġ1Ġ2Ġ3Ġ4Ġ5Ġ6Ġ7Ġ8Ġ9ĠAĠBĠCĠD@E0001ĀLANGUAGE TAG@E0020ĀTAG SP",
    "ACEĄEXCLAMATION MARKĄQUOTATION MARKĄNUMBER SIGNĄDOLLAR SIGNĄPERCENT SIGNĄAMPERSANDąPOSTROPHEĄLEF",
    "T PARENTHESISĄRIGHT PARENTHESISĄASTERISKĄPLUS SIGNĄCOMMAĄHYPHEN-MINUSĄFULL STOPĄSOLIDUSĄDIGIT ZE",
    "ROĊONEĊTWOċHREEĊFOURċIVEĊSIXċEVENĊEIGHTĊNINEĄCOLONĄSEMICOLONĄLESS-THAN SIGNĄEQUALS SIGNĄGREATER-",
    "THAN SIGNĄQUESTION MARKĄCOMMERCIAL ATĄLATIN CAPITAL LETTER AęBęCęDęEęFęGęHęIęJęKęLęMęNęOęPęQęRęS",
    "ęTęUęVęWęXęYęZąEFT SQUARE BRACKETĄREVERSE SOLIDUSąIGHT SQUARE BRACKETĄCIRCUMFLEX ACCENTĄLOW LINE",
    "ĄGRAVE ACCENTĄLATIN SMALL LETTER AėBėCėDėEėFėGėHėIėJėKėLėMėNėOėPėQėRėSėTėUėVėWėXėYėZąEFT CURLY B",
    "RACKETĄVERTICAL LINEĄRIGHT CURLY BRACKETĄTILDEĀCANCEL TAG@E0100ĀVARIATION SELECTOR-17Ĕ8Ĕ9ē20Ĕ1Ĕ2",
    "Ĕ3Ĕ4Ĕ5Ĕ6Ĕ7Ĕ8Ĕ9ē30Ĕ1Ĕ2Ĕ3Ĕ4Ĕ5Ĕ6Ĕ7Ĕ8Ĕ9ē40Ĕ1Ĕ2Ĕ3Ĕ4Ĕ5Ĕ6Ĕ7Ĕ8Ĕ9ē50Ĕ1Ĕ2Ĕ3Ĕ4Ĕ5Ĕ6Ĕ7Ĕ8Ĕ9ē60Ĕ1Ĕ2Ĕ3Ĕ4Ĕ5Ĕ6Ĕ7Ĕ8",
    "Ĕ9ē70Ĕ1Ĕ2Ĕ3Ĕ4Ĕ5Ĕ6Ĕ7Ĕ8Ĕ9ē80Ĕ1Ĕ2Ĕ3Ĕ4Ĕ5Ĕ6Ĕ7Ĕ8Ĕ9ē90Ĕ1Ĕ2Ĕ3Ĕ4Ĕ5Ĕ6Ĕ7Ĕ8Ĕ9ē100ĕ1ĕ2ĕ3ĕ4ĕ5ĕ6ĕ7ĕ8ĕ9Ĕ10ĕ1ĕ2ĕ3",
    "ĕ4ĕ5ĕ6ĕ7ĕ8ĕ9Ĕ20ĕ1ĕ2ĕ3ĕ4ĕ5ĕ6ĕ7ĕ8ĕ9Ĕ30ĕ1ĕ2ĕ3ĕ4ĕ5ĕ6ĕ7ĕ8ĕ9Ĕ40ĕ1ĕ2ĕ3ĕ4ĕ5ĕ6ĕ7ĕ8ĕ9Ĕ50ĕ1ĕ2ĕ3ĕ4ĕ5ĕ6ĕ7ĕ8ĕ9",
    "Ĕ60ĕ1ĕ2ĕ3ĕ4ĕ5ĕ6ĕ7ĕ8ĕ9Ĕ70ĕ1ĕ2ĕ3ĕ4ĕ5ĕ6ĕ7ĕ8ĕ9Ĕ80ĕ1ĕ2ĕ3ĕ4ĕ5ĕ6ĕ7ĕ8ĕ9Ĕ90ĕ1ĕ2ĕ3ĕ4ĕ5ĕ6ĕ7ĕ8ĕ9ē200ĕ1ĕ2ĕ3ĕ4",
    "ĕ5ĕ6ĕ7ĕ8ĕ9Ĕ10ĕ1ĕ2ĕ3ĕ4ĕ5ĕ6ĕ7ĕ8ĕ9Ĕ20ĕ1ĕ2ĕ3ĕ4ĕ5ĕ6ĕ7ĕ8ĕ9Ĕ30ĕ1ĕ2ĕ3ĕ4ĕ5ĕ6ĕ7ĕ8ĕ9Ĕ40ĕ1ĕ2ĕ3ĕ4ĕ5ĕ6ĕ7ĕ8ĕ9Ĕ5",
    "0ĕ1ĕ2ĕ3ĕ4ĕ5ĕ6"]]

/-- The aliases of Unicode 14.0, each `NAME:CODE;` with the code point in hexadecimal. -/
def aliasData : String :=
  String.join [
  "NULL:0;NUL:0;START OF HEADING:1;SOH:1;START OF TEXT:2;STX:2;END OF TEXT:3;ETX:3;END OF TRANSMISS",
  "ION:4;EOT:4;ENQUIRY:5;ENQ:5;ACKNOWLEDGE:6;ACK:6;ALERT:7;BEL:7;BACKSPACE:8;BS:8;CHARACTER TABULAT",
  "ION:9;HORIZONTAL TABULATION:9;HT:9;TAB:9;LINE FEED:A;NEW LINE:A;END OF LINE:A;EOL:A;LF:A;NL:A;LI",
  "NE TABULATION:B;VERTICAL TABULATION:B;VT:B;FORM FEED:C;FF:C;CARRIAGE RETURN:D;CR:D;SHIFT OUT:E;L",
  "OCKING-SHIFT ONE:E;SO:E;SHIFT IN:F;LOCKING-SHIFT ZERO:F;SI:F;DATA LINK ESCAPE:10;DLE:10;DEVICE C",
  "ONTROL ONE:11;DC1:11;DEVICE CONTROL TWO:12;DC2:12;DEVICE CONTROL THREE:13;DC3:13;DEVICE CONTROL ",
  "FOUR:14;DC4:14;NEGATIVE ACKNOWLEDGE:15;NAK:15;SYNCHRONOUS IDLE:16;SYN:16;END OF TRANSMISSION BLO",
  "CK:17;ETB:17;CANCEL:18;CAN:18;END OF MEDIUM:19;EOM:19;SUBSTITUTE:1A;SUB:1A;ESCAPE:1B;ESC:1B;INFO",
  "RMATION SEPARATOR FOUR:1C;FILE SEPARATOR:1C;FS:1C;INFORMATION SEPARATOR THREE:1D;GROUP SEPARATOR",
  ":1D;GS:1D;INFORMATION SEPARATOR TWO:1E;RECORD SEPARATOR:1E;RS:1E;INFORMATION SEPARATOR ONE:1F;UN",
  "IT SEPARATOR:1F;US:1F;SP:20;DELETE:7F;DEL:7F;PADDING CHARACTER:80;PAD:80;HIGH OCTET PRESET:81;HO",
  "P:81;BREAK PERMITTED HERE:82;BPH:82;NO BREAK HERE:83;NBH:83;INDEX:84;IND:84;NEXT LINE:85;NEL:85;",
  "START OF SELECTED AREA:86;SSA:86;END OF SELECTED AREA:87;ESA:87;CHARACTER TABULATION SET:88;HORI",
  "ZONTAL TABULATION SET:88;HTS:88;CHARACTER TABULATION WITH JUSTIFICATION:89;HORIZONTAL TABULATION",
  " WITH JUSTIFICATION:89;HTJ:89;LINE TABULATION SET:8A;VERTICAL TABULATION SET:8A;VTS:8A;PARTIAL L",
  "INE FORWARD:8B;PARTIAL LINE DOWN:8B;PLD:8B;PARTIAL LINE BACKWARD:8C;PARTIAL LINE UP:8C;PLU:8C;RE",
  "VERSE LINE FEED:8D;REVERSE INDEX:8D;RI:8D;SINGLE SHIFT TWO:8E;SINGLE-SHIFT-2:8E;SS2:8E;SINGLE SH",
  "IFT THREE:8F;SINGLE-SHIFT-3:8F;SS3:8F;DEVICE CONTROL STRING:90;DCS:90;PRIVATE USE ONE:91;PRIVATE",
  " USE-1:91;PU1:91;PRIVATE USE TWO:92;PRIVATE USE-2:92;PU2:92;SET TRANSMIT STATE:93;STS:93;CANCEL ",
  "CHARACTER:94;CCH:94;MESSAGE WAITING:95;MW:95;START OF GUARDED AREA:96;START OF PROTECTED AREA:96",
  ";SPA:96;END OF GUARDED AREA:97;END OF PROTECTED AREA:97;EPA:97;START OF STRING:98;SOS:98;SINGLE ",
  "GRAPHIC CHARACTER INTRODUCER:99;SGC:99;SINGLE CHARACTER INTRODUCER:9A;SCI:9A;CONTROL SEQUENCE IN",
  "TRODUCER:9B;CSI:9B;STRING TERMINATOR:9C;ST:9C;OPERATING SYSTEM COMMAND:9D;OSC:9D;PRIVACY MESSAGE",
  ":9E;PM:9E;APPLICATION PROGRAM COMMAND:9F;APC:9F;NBSP:A0;SHY:AD;LATIN CAPITAL LETTER GHA:1A2;LATI",
  "N SMALL LETTER GHA:1A3;CGJ:34F;ALM:61C;SYRIAC SUBLINEAR COLON SKEWED LEFT:709;KANNADA LETTER LLL",
  "A:CDE;LAO LETTER FO FON:E9D;LAO LETTER FO FAY:E9F;LAO LETTER RO:EA3;LAO LETTER LO:EA5;TIBETAN MA",
  "RK BKA- SHOG GI MGO RGYAN:FD0;HANGUL JONGSEONG YESIEUNG-KIYEOK:11EC;HANGUL JONGSEONG YESIEUNG-SS",
  "ANGKIYEOK:11ED;HANGUL JONGSEONG SSANGYESIEUNG:11EE;HANGUL JONGSEONG YESIEUNG-KHIEUKH:11EF;FVS1:1",
  "80B;FVS2:180C;FVS3:180D;MVS:180E;FVS4:180F;ZWSP:200B;ZWNJ:200C;ZWJ:200D;LRM:200E;RLM:200F;LRE:20",
  "2A;RLE:202B;PDF:202C;LRO:202D;RLO:202E;NNBSP:202F;MMSP:205F;WJ:2060;LRI:2066;RLI:2067;FSI:2068;P",
  "DI:2069;WEIERSTRASS ELLIPTIC FUNCTION:2118;MICR ON US SYMBOL:2448;MICR DASH SYMBOL:2449;LEFTWARD",
  "S TRIANGLE-HEADED ARROW WITH DOUBLE VERTICAL STROKE:2B7A;RIGHTWARDS TRIANGLE-HEADED ARROW WITH D",
  "OUBLE VERTICAL STROKE:2B7C;YI SYLLABLE ITERATION MARK:A015;MYANMAR LETTER KHAMTI LLA:AA6E;VS1:FE",
  "00;VS2:FE01;VS3:FE02;VS4:FE03;VS5:FE04;VS6:FE05;VS7:FE06;VS8:FE07;VS9:FE08;VS10:FE09;VS11:FE0A;V",
  "S12:FE0B;VS13:FE0C;VS14:FE0D;VS15:FE0E;VS16:FE0F;PRESENTATION FORM FOR VERTICAL RIGHT WHITE LENT",
  "ICULAR BRACKET:FE18;BYTE ORDER MARK:FEFF;BOM:FEFF;ZWNBSP:FEFF;CUNEIFORM SIGN NU11 TENU:122D4;CUN",
  "EIFORM SIGN NU11 OVER NU11 BUR OVER BUR:122D5;MEDEFAIDRIN CAPITAL LETTER H:16E56;MEDEFAIDRIN CAP",
  "ITAL LETTER NG:16E57;MEDEFAIDRIN SMALL LETTER H:16E76;MEDEFAIDRIN SMALL LETTER NG:16E77;HENTAIGA",
  "NA LETTER E-1:1B001;BYZANTINE MUSICAL SYMBOL FTHORA SKLIRON CHROMA VASIS:1D0C5;VS17:E0100;VS18:E",
  "0101;VS19:E0102;VS20:E0103;VS21:E0104;VS22:E0105;VS23:E0106;VS24:E0107;VS25:E0108;VS26:E0109;VS2",
  "7:E010A;VS28:E010B;VS29:E010C;VS30:E010D;VS31:E010E;VS32:E010F;VS33:E0110;VS34:E0111;VS35:E0112;",
  "VS36:E0113;VS37:E0114;VS38:E0115;VS39:E0116;VS40:E0117;VS41:E0118;VS42:E0119;VS43:E011A;VS44:E01",
  "1B;VS45:E011C;VS46:E011D;VS47:E011E;VS48:E011F;VS49:E0120;VS50:E0121;VS51:E0122;VS52:E0123;VS53:",
  "E0124;VS54:E0125;VS55:E0126;VS56:E0127;VS57:E0128;VS58:E0129;VS59:E012A;VS60:E012B;VS61:E012C;VS",
  "62:E012D;VS63:E012E;VS64:E012F;VS65:E0130;VS66:E0131;VS67:E0132;VS68:E0133;VS69:E0134;VS70:E0135",
  ";VS71:E0136;VS72:E0137;VS73:E0138;VS74:E0139;VS75:E013A;VS76:E013B;VS77:E013C;VS78:E013D;VS79:E0",
  "13E;VS80:E013F;VS81:E0140;VS82:E0141;VS83:E0142;VS84:E0143;VS85:E0144;VS86:E0145;VS87:E0146;VS88",
  ":E0147;VS89:E0148;VS90:E0149;VS91:E014A;VS92:E014B;VS93:E014C;VS94:E014D;VS95:E014E;VS96:E014F;V",
  "S97:E0150;VS98:E0151;VS99:E0152;VS100:E0153;VS101:E0154;VS102:E0155;VS103:E0156;VS104:E0157;VS10",
  "5:E0158;VS106:E0159;VS107:E015A;VS108:E015B;VS109:E015C;VS110:E015D;VS111:E015E;VS112:E015F;VS11",
  "3:E0160;VS114:E0161;VS115:E0162;VS116:E0163;VS117:E0164;VS118:E0165;VS119:E0166;VS120:E0167;VS12",
  "1:E0168;VS122:E0169;VS123:E016A;VS124:E016B;VS125:E016C;VS126:E016D;VS127:E016E;VS128:E016F;VS12",
  "9:E0170;VS130:E0171;VS131:E0172;VS132:E0173;VS133:E0174;VS134:E0175;VS135:E0176;VS136:E0177;VS13",
  "7:E0178;VS138:E0179;VS139:E017A;VS140:E017B;VS141:E017C;VS142:E017D;VS143:E017E;VS144:E017F;VS14",
  "5:E0180;VS146:E0181;VS147:E0182;VS148:E0183;VS149:E0184;VS150:E0185;VS151:E0186;VS152:E0187;VS15",
  "3:E0188;VS154:E0189;VS155:E018A;VS156:E018B;VS157:E018C;VS158:E018D;VS159:E018E;VS160:E018F;VS16",
  "1:E0190;VS162:E0191;VS163:E0192;VS164:E0193;VS165:E0194;VS166:E0195;VS167:E0196;VS168:E0197;VS16",
  "9:E0198;VS170:E0199;VS171:E019A;VS172:E019B;VS173:E019C;VS174:E019D;VS175:E019E;VS176:E019F;VS17",
  "7:E01A0;VS178:E01A1;VS179:E01A2;VS180:E01A3;VS181:E01A4;VS182:E01A5;VS183:E01A6;VS184:E01A7;VS18",
  "5:E01A8;VS186:E01A9;VS187:E01AA;VS188:E01AB;VS189:E01AC;VS190:E01AD;VS191:E01AE;VS192:E01AF;VS19",
  "3:E01B0;VS194:E01B1;VS195:E01B2;VS196:E01B3;VS197:E01B4;VS198:E01B5;VS199:E01B6;VS200:E01B7;VS20",
  "1:E01B8;VS202:E01B9;VS203:E01BA;VS204:E01BB;VS205:E01BC;VS206:E01BD;VS207:E01BE;VS208:E01BF;VS20",
  "9:E01C0;VS210:E01C1;VS211:E01C2;VS212:E01C3;VS213:E01C4;VS214:E01C5;VS215:E01C6;VS216:E01C7;VS21",
  "7:E01C8;VS218:E01C9;VS219:E01CA;VS220:E01CB;VS221:E01CC;VS222:E01CD;VS223:E01CE;VS224:E01CF;VS22",
  "5:E01D0;VS226:E01D1;VS227:E01D2;VS228:E01D3;VS229:E01D4;VS230:E01D5;VS231:E01D6;VS232:E01D7;VS23",
  "3:E01D8;VS234:E01D9;VS235:E01DA;VS236:E01DB;VS237:E01DC;VS238:E01DD;VS239:E01DE;VS240:E01DF;VS24",
  "1:E01E0;VS242:E01E1;VS243:E01E2;VS244:E01E3;VS245:E01E4;VS246:E01E5;VS247:E01E6;VS248:E01E7;VS24",
  "9:E01E8;VS250:E01E9;VS251:E01EA;VS252:E01EB;VS253:E01EC;VS254:E01ED;VS255:E01EE;VS256:E01EF;"]

/-- The value of a capital hexadecimal digit. -/
def capitalHexDigit? (c : Char) : Option Nat :=
  if '0' ≤ c && c ≤ '9' then some (c.toNat - '0'.toNat)
  else if 'A' ≤ c && c ≤ 'F' then some (c.toNat - 'A'.toNat + 10)
  else none

/-- The value of capital hexadecimal digits, if all of them are. -/
def capitalHex? (cs : List Char) : Option Nat :=
  cs.foldlM (fun acc c => (capitalHexDigit? c).map (acc * 16 + ·)) 0

/-- Where the reading of the front-coded names stands. -/
structure NameCursor where
  /-- The code point of the name being read. -/
  code : Nat := 0
  /-- The name being read. -/
  name : Array Char := #[]
  /-- A code point being read after `@`. -/
  jump : Option (List Char) := none
  /-- The code point of the name sought, once found. -/
  found : Option Nat := none

/-- Ends the name being read, noting it if it is the one sought. -/
def NameCursor.close (target : Array Char) (s : NameCursor) : NameCursor :=
  if s.found.isNone && !s.name.isEmpty && s.name == target then { s with found := some s.code }
  else s

/-- Reads one character of the front-coded names. -/
def NameCursor.step (target : Array Char) (s : NameCursor) (c : Char) : NameCursor :=
  if c == '@' then { s with jump := some [] }
  else if 0x100 ≤ c.toNat then
    let s := s.close target
    let code := match s.jump with
      | some ds => (capitalHex? ds.reverse).getD 0
      | none => s.code + 1
    { s with code := code, name := s.name.extract 0 (c.toNat - 0x100), jump := none }
  else match s.jump with
    | some ds => { s with jump := some (c :: ds) }
    | none => { s with name := s.name.push c }

/-- The code point of a listed name, given in capitals. -/
def listedCode? (upper : String) : Option Nat :=
  let target := upper.toList.toArray
  ((nameData.toList.foldl (NameCursor.step target) {}).close target).found

/-- The code point of an alias, given in capitals. -/
def aliasCode? (upper : String) : Option Nat :=
  (aliasData.splitOn ";").findSome? fun entry =>
    match entry.splitOn ":" with
    | [n, h] => if n == upper then capitalHex? h.toList else none
    | _ => none

/-- The short names of the initial jamo, in the order of their codes. -/
def jamoInitials : List String :=
  ["G", "GG", "N", "D", "DD", "R", "M", "B", "BB", "S", "SS", "", "J", "JJ", "C", "K", "T", "P",
    "H"]

/-- The short names of the medial jamo, in the order of their codes. -/
def jamoMedials : List String :=
  ["A", "AE", "YA", "YAE", "EO", "E", "YEO", "YE", "O", "WA", "WAE", "OE", "YO", "U", "WEO", "WE",
    "WI", "YU", "EU", "YI", "I"]

/-- The short names of the final jamo, in the order of their codes; the first is no final. -/
def jamoFinals : List String :=
  ["", "G", "GG", "GS", "N", "NJ", "NH", "D", "L", "LG", "LM", "LB", "LS", "LT", "LP", "LH", "M",
    "B", "BS", "S", "SS", "NG", "J", "C", "K", "T", "P", "H"]

/-- The longest of the short names that starts `cs`, the first of equally long ones: its place
and its length. -/
def longestJamo (names : List String) (cs : List Char) : Option (Nat × Nat) :=
  names.zipIdx.foldl (fun best (n, i) =>
    if n.toList.isPrefixOf cs && (best.map fun b => decide (b.2 < n.length)).getD true then
      some (i, n.length)
    else best) none

/-- The code point of the Hangul syllable whose jamo names are `cs`. -/
def hangulSyllable? (cs : List Char) : Option Nat := do
  let (l, n1) ← longestJamo jamoInitials cs
  let cs := cs.drop n1
  let (v, n2) ← longestJamo jamoMedials cs
  let cs := cs.drop n2
  let (t, n3) ← longestJamo jamoFinals cs
  if cs.drop n3 == [] then some (0xac00 + (l * 21 + v) * 28 + t) else none

/-- Whether a code point is a unified ideograph of Unicode 14.0. -/
def isUnifiedIdeograph (v : Nat) : Bool :=
  (0x3400 ≤ v && v ≤ 0x4dbf) || (0x4e00 ≤ v && v ≤ 0x9fff) || (0x20000 ≤ v && v ≤ 0x2a6df) ||
  (0x2a700 ≤ v && v ≤ 0x2b738) || (0x2b740 ≤ v && v ≤ 0x2b81d) ||
  (0x2b820 ≤ v && v ≤ 0x2cea1) || (0x2ceb0 ≤ v && v ≤ 0x2ebe0) || (0x30000 ≤ v && v ≤ 0x3134a)

/-- The code point of a unified ideograph named by its hexadecimal digits. -/
def unifiedIdeograph? (cs : List Char) : Option Nat := do
  if cs.length != 4 && cs.length != 5 then none
  let v ← capitalHex? cs
  if isUnifiedIdeograph v then some v else none

/-- The character a name or alias names. -/
def charOfName? (name : String) : Option Char :=
  let cs := name.toList
  if cs.any (fun c => 128 ≤ c.toNat) then none
  else
    let hangul := "HANGUL SYLLABLE ".toList
    let ideograph := "CJK UNIFIED IDEOGRAPH-".toList
    let code :=
      if hangul.isPrefixOf cs then hangulSyllable? (cs.drop hangul.length)
      else if ideograph.isPrefixOf cs then unifiedIdeograph? (cs.drop ideograph.length)
      else
        let upper := String.ofList (cs.map Char.toUpper)
        (listedCode? upper).orElse fun _ => aliasCode? upper
    code.map Char.ofNat

end AccessLog.Text
