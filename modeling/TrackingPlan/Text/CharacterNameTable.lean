/-!
# The names of characters

The names of the Unicode character database, version 14, and the other names that it gives to
characters. A row starts with a code point in hexadecimal digits and lists the names of the code
points from there on. Before each name stands a small letter: it counts, from `a` for none, the
words that the name shares with the name before it, which are left out. The names of syllables
are put together from the names of their letters, and some names are a text with the code point
after it.

Key definitions: `characterNameTable`, `otherNameTable`, `numberedNames`, `ideographRanges`,
`syllableLeads`, `syllableVowels`, `syllableTails`.
-/

namespace TrackingPlan
namespace Text

/-- The names of the initial letters of Hangul syllables. -/
def syllableLeads : List String := [
  "G", "GG", "N", "D", "DD", "R", "M", "B", "BB", "S", "SS", "", "J", "JJ", "C", "K", "T", "P",
  "H"]

/-- The names of the vowels of Hangul syllables. -/
def syllableVowels : List String := [
  "A", "AE", "YA", "YAE", "EO", "E", "YEO", "YE", "O", "WA", "WAE", "OE", "YO", "U", "WEO", "WE",
  "WI", "YU", "EU", "YI", "I"]

/-- The names of the final letters of Hangul syllables, of which the first is none. -/
def syllableTails : List String := [
  "", "G", "GG", "GS", "N", "NJ", "NH", "D", "L", "LG", "LM", "LB", "LS", "LT", "LP", "LH", "M",
  "B", "BS", "S", "SS", "NG", "J", "C", "K", "T", "P", "H"]

/-- The ranges of the unified ideographs. -/
def ideographRanges : List (Nat × Nat) := [
  (0x3400, 0x4DBF), (0x4E00, 0x9FFF), (0x20000, 0x2A6DF), (0x2A700, 0x2B738), (0x2B740, 0x2B81D),
  (0x2B820, 0x2CEA1), (0x2CEB0, 0x2EBE0), (0x30000, 0x3134A)]

/-- Ranges of characters that are named by a text and their code point. -/
def numberedNames : List (String × Nat × Nat) := [
  ("CJK COMPATIBILITY IDEOGRAPH-", 0xF900, 0xFA6D),
  ("CJK COMPATIBILITY IDEOGRAPH-", 0xFA70, 0xFAD9),
  ("KHITAN SMALL SCRIPT CHARACTER-", 0x18B00, 0x18CD5), ("NUSHU CHARACTER-", 0x1B170, 0x1B2FB),
  ("CJK COMPATIBILITY IDEOGRAPH-", 0x2F800, 0x2FA1D)]

/-- Names of characters beside their own: corrections, the names of controls, abbreviations. -/
def otherNameTable : String := "
  0 aNULLaSTART OF HEADINGcTEXTaEND OF TEXTcTRANSMISSIONaENQUIRYaACKNOWLEDGEaALERTaBACKSPACE
  9 aCHARACTER TABULATIONaLINE FEEDbTABULATIONaFORM FEEDaCARRIAGE RETURNaSHIFT OUTbIN
  10 aDATA LINK ESCAPEaDEVICE CONTROL ONEcTWOcTHREEcFOURaNEGATIVE ACKNOWLEDGEaSYNCHRONOUS IDLE
  17 aEND OF TRANSMISSION BLOCKaCANCELaEND OF MEDIUMaSUBSTITUTEaESCAPEaINFORMATION SEPARATOR FOUR
  1D aINFORMATION SEPARATOR THREEcTWOcONEaSP
  7F aDELETEaPADDING CHARACTERaHIGH OCTET PRESETaBREAK PERMITTED HEREaNO BREAK HEREaINDEX
  85 aNEXT LINEaSTART OF SELECTED AREAaEND OF SELECTED AREAaCHARACTER TABULATION SET
  89 aCHARACTER TABULATION WITH JUSTIFICATIONaLINE TABULATION SETaPARTIAL LINE FORWARDcBACKWARD
  8D aREVERSE LINE FEEDaSINGLE SHIFT TWOcTHREEaDEVICE CONTROL STRINGaPRIVATE USE ONEcTWO
  93 aSET TRANSMIT STATEaCANCEL CHARACTERaMESSAGE WAITINGaSTART OF GUARDED AREA
  97 aEND OF GUARDED AREAaSTART OF STRINGaSINGLE GRAPHIC CHARACTER INTRODUCERbCHARACTER INTRODUCER
  9B aCONTROL SEQUENCE INTRODUCERaSTRING TERMINATORaOPERATING SYSTEM COMMANDaPRIVACY MESSAGE
  9F aAPPLICATION PROGRAM COMMANDaNBSP
  AD aSHY
  1A2 aLATIN CAPITAL LETTER GHAbSMALL LETTER GHA
  34F aCGJ
  61C aALM
  709 aSYRIAC SUBLINEAR COLON SKEWED LEFT
  CDE aKANNADA LETTER LLLA
  E9D aLAO LETTER FO FON
  E9F aLAO LETTER FO FAY
  EA3 aLAO LETTER RO
  EA5 aLAO LETTER LO
  FD0 aTIBETAN MARK BKA- SHOG GI MGO RGYAN
  11EC aHANGUL JONGSEONG YESIEUNG-KIYEOKcYESIEUNG-SSANGKIYEOKcSSANGYESIEUNGcYESIEUNG-KHIEUKH
  180B aFVS1aFVS2aFVS3aMVSaFVS4
  200B aZWSPaZWNJaZWJaLRMaRLM
  202A aLREaRLEaPDFaLROaRLOaNNBSP
  205F aMMSPaWJ
  2066 aLRIaRLIaFSIaPDI
  2118 aWEIERSTRASS ELLIPTIC FUNCTION
  2448 aMICR ON US SYMBOLbDASH SYMBOL
  2B7A aLEFTWARDS TRIANGLE-HEADED ARROW WITH DOUBLE VERTICAL STROKE
  2B7C aRIGHTWARDS TRIANGLE-HEADED ARROW WITH DOUBLE VERTICAL STROKE
  A015 aYI SYLLABLE ITERATION MARK
  AA6E aMYANMAR LETTER KHAMTI LLA
  FE00 aVS1aVS2aVS3aVS4aVS5aVS6aVS7aVS8aVS9aVS10aVS11aVS12aVS13aVS14aVS15aVS16
  FE18 aPRESENTATION FORM FOR VERTICAL RIGHT WHITE LENTICULAR BRACKET
  FEFF aBYTE ORDER MARK
  122D4 aCUNEIFORM SIGN NU11 TENUdOVER NU11 BUR OVER BUR
  16E56 aMEDEFAIDRIN CAPITAL LETTER HdNG
  16E76 aMEDEFAIDRIN SMALL LETTER HdNG
  1B001 aHENTAIGANA LETTER E-1
  1D0C5 aBYZANTINE MUSICAL SYMBOL FTHORA SKLIRON CHROMA VASIS
  E0100 aVS17aVS18aVS19aVS20aVS21aVS22aVS23aVS24aVS25aVS26aVS27aVS28aVS29aVS30aVS31aVS32aVS33aVS34
  E0112 aVS35aVS36aVS37aVS38aVS39aVS40aVS41aVS42aVS43aVS44aVS45aVS46aVS47aVS48aVS49aVS50aVS51aVS52
  E0124 aVS53aVS54aVS55aVS56aVS57aVS58aVS59aVS60aVS61aVS62aVS63aVS64aVS65aVS66aVS67aVS68aVS69aVS70
  E0136 aVS71aVS72aVS73aVS74aVS75aVS76aVS77aVS78aVS79aVS80aVS81aVS82aVS83aVS84aVS85aVS86aVS87aVS88
  E0148 aVS89aVS90aVS91aVS92aVS93aVS94aVS95aVS96aVS97aVS98aVS99aVS100aVS101aVS102aVS103aVS104
  E0158 aVS105aVS106aVS107aVS108aVS109aVS110aVS111aVS112aVS113aVS114aVS115aVS116aVS117aVS118aVS119
  E0167 aVS120aVS121aVS122aVS123aVS124aVS125aVS126aVS127aVS128aVS129aVS130aVS131aVS132aVS133aVS134
  E0176 aVS135aVS136aVS137aVS138aVS139aVS140aVS141aVS142aVS143aVS144aVS145aVS146aVS147aVS148aVS149
  E0185 aVS150aVS151aVS152aVS153aVS154aVS155aVS156aVS157aVS158aVS159aVS160aVS161aVS162aVS163aVS164
  E0194 aVS165aVS166aVS167aVS168aVS169aVS170aVS171aVS172aVS173aVS174aVS175aVS176aVS177aVS178aVS179
  E01A3 aVS180aVS181aVS182aVS183aVS184aVS185aVS186aVS187aVS188aVS189aVS190aVS191aVS192aVS193aVS194
  E01B2 aVS195aVS196aVS197aVS198aVS199aVS200aVS201aVS202aVS203aVS204aVS205aVS206aVS207aVS208aVS209
  E01C1 aVS210aVS211aVS212aVS213aVS214aVS215aVS216aVS217aVS218aVS219aVS220aVS221aVS222aVS223aVS224
  E01D0 aVS225aVS226aVS227aVS228aVS229aVS230aVS231aVS232aVS233aVS234aVS235aVS236aVS237aVS238aVS239
  E01DF aVS240aVS241aVS242aVS243aVS244aVS245aVS246aVS247aVS248aVS249aVS250aVS251aVS252aVS253aVS254
  E01EE aVS255aVS256
  0 aNULaSOHaSTXaETXaEOTaENQaACKaBELaBSaHORIZONTAL TABULATIONaNEW LINEaVERTICAL TABULATIONaFFaCR
  E aLOCKING-SHIFT ONEbZEROaDLEaDC1aDC2aDC3aDC4aNAKaSYNaETBaCANaEOMaSUBaESCaFILE SEPARATOR
  1D aGROUP SEPARATORaRECORD SEPARATORaUNIT SEPARATOR
  7F aDELaPADaHOPaBPHaNBHaINDaNELaSSAaESAaHORIZONTAL TABULATION SETcWITH JUSTIFICATION
  8A aVERTICAL TABULATION SETaPARTIAL LINE DOWNcUPaREVERSE INDEXaSINGLE-SHIFT-2aSINGLE-SHIFT-3aDCS
  91 aPRIVATE USE-1bUSE-2aSTSaCCHaMWaSTART OF PROTECTED AREAaEND OF PROTECTED AREAaSOSaSGCaSCIaCSI
  9C aSTaOSCaPMaAPC
  FEFF aBOM
  9 aHTaEND OF LINEaVT
  E aSOaSI
  1C aFSaGSaRSaUS
  88 aHTSaHTJaVTSaPLDaPLUaRIaSS2aSS3
  91 aPU1aPU2
  96 aSPAaEPA
  FEFF aZWNBSP
  9 aTABaLF
  A aNL
  A aEOL
"

/-- The names of characters. -/
def characterNameTable : String := "
  20 aSPACEaEXCLAMATION MARKaQUOTATION MARKaNUMBER SIGNaDOLLAR SIGNaPERCENT SIGNaAMPERSAND
  27 aAPOSTROPHEaLEFT PARENTHESISaRIGHT PARENTHESISaASTERISKaPLUS SIGNaCOMMAaHYPHEN-MINUS
  2E aFULL STOPaSOLIDUSaDIGIT ZERObONEbTWObTHREEbFOURbFIVEbSIXbSEVENbEIGHTbNINEaCOLONaSEMICOLON
  3C aLESS-THAN SIGNaEQUALS SIGNaGREATER-THAN SIGNaQUESTION MARKaCOMMERCIAL AT
  41 aLATIN CAPITAL LETTER AdBdCdDdEdFdGdHdIdJdKdLdMdNdOdPdQdRdSdTdUdVdWdXdYdZaLEFT SQUARE BRACKET
  5C aREVERSE SOLIDUSaRIGHT SQUARE BRACKETaCIRCUMFLEX ACCENTaLOW LINEaGRAVE ACCENT
  61 aLATIN SMALL LETTER AdBdCdDdEdFdGdHdIdJdKdLdMdNdOdPdQdRdSdTdUdVdWdXdYdZaLEFT CURLY BRACKET
  7C aVERTICAL LINEaRIGHT CURLY BRACKETaTILDE
  A0 aNO-BREAK SPACEaINVERTED EXCLAMATION MARKaCENT SIGNaPOUND SIGNaCURRENCY SIGNaYEN SIGN
  A6 aBROKEN BARaSECTION SIGNaDIAERESISaCOPYRIGHT SIGNaFEMININE ORDINAL INDICATOR
  AB aLEFT-POINTING DOUBLE ANGLE QUOTATION MARKaNOT SIGNaSOFT HYPHENaREGISTERED SIGNaMACRON
  B0 aDEGREE SIGNaPLUS-MINUS SIGNaSUPERSCRIPT TWObTHREEaACUTE ACCENTaMICRO SIGNaPILCROW SIGN
  B7 aMIDDLE DOTaCEDILLAaSUPERSCRIPT ONEaMASCULINE ORDINAL INDICATOR
  BB aRIGHT-POINTING DOUBLE ANGLE QUOTATION MARKaVULGAR FRACTION ONE QUARTERdHALFcTHREE QUARTERS
  BF aINVERTED QUESTION MARKaLATIN CAPITAL LETTER A WITH GRAVEfACUTEfCIRCUMFLEXfTILDEfDIAERESIS
  C5 aLATIN CAPITAL LETTER A WITH RING ABOVEdAEdC WITH CEDILLAdE WITH GRAVEfACUTEfCIRCUMFLEX
  CB aLATIN CAPITAL LETTER E WITH DIAERESISdI WITH GRAVEfACUTEfCIRCUMFLEXfDIAERESISdETH
  D1 aLATIN CAPITAL LETTER N WITH TILDEdO WITH GRAVEfACUTEfCIRCUMFLEXfTILDEfDIAERESIS
  D7 aMULTIPLICATION SIGNaLATIN CAPITAL LETTER O WITH STROKEdU WITH GRAVEfACUTEfCIRCUMFLEX
  DC aLATIN CAPITAL LETTER U WITH DIAERESISdY WITH ACUTEdTHORNbSMALL LETTER SHARP SdA WITH GRAVE
  E1 aLATIN SMALL LETTER A WITH ACUTEfCIRCUMFLEXfTILDEfDIAERESISfRING ABOVEdAEdC WITH CEDILLA
  E8 aLATIN SMALL LETTER E WITH GRAVEfACUTEfCIRCUMFLEXfDIAERESISdI WITH GRAVEfACUTEfCIRCUMFLEX
  EF aLATIN SMALL LETTER I WITH DIAERESISdETHdN WITH TILDEdO WITH GRAVEfACUTEfCIRCUMFLEXfTILDE
  F6 aLATIN SMALL LETTER O WITH DIAERESISaDIVISION SIGNaLATIN SMALL LETTER O WITH STROKE
  F9 aLATIN SMALL LETTER U WITH GRAVEfACUTEfCIRCUMFLEXfDIAERESISdY WITH ACUTEdTHORN
  FF aLATIN SMALL LETTER Y WITH DIAERESISbCAPITAL LETTER A WITH MACRONbSMALL LETTER A WITH MACRON
  102 aLATIN CAPITAL LETTER A WITH BREVEbSMALL LETTER A WITH BREVEbCAPITAL LETTER A WITH OGONEK
  105 aLATIN SMALL LETTER A WITH OGONEKbCAPITAL LETTER C WITH ACUTEbSMALL LETTER C WITH ACUTE
  108 aLATIN CAPITAL LETTER C WITH CIRCUMFLEXbSMALL LETTER C WITH CIRCUMFLEX
  10A aLATIN CAPITAL LETTER C WITH DOT ABOVEbSMALL LETTER C WITH DOT ABOVE
  10C aLATIN CAPITAL LETTER C WITH CARONbSMALL LETTER C WITH CARONbCAPITAL LETTER D WITH CARON
  10F aLATIN SMALL LETTER D WITH CARONbCAPITAL LETTER D WITH STROKEbSMALL LETTER D WITH STROKE
  112 aLATIN CAPITAL LETTER E WITH MACRONbSMALL LETTER E WITH MACRONbCAPITAL LETTER E WITH BREVE
  115 aLATIN SMALL LETTER E WITH BREVEbCAPITAL LETTER E WITH DOT ABOVE
  117 aLATIN SMALL LETTER E WITH DOT ABOVEbCAPITAL LETTER E WITH OGONEKbSMALL LETTER E WITH OGONEK
  11A aLATIN CAPITAL LETTER E WITH CARONbSMALL LETTER E WITH CARON
  11C aLATIN CAPITAL LETTER G WITH CIRCUMFLEXbSMALL LETTER G WITH CIRCUMFLEX
  11E aLATIN CAPITAL LETTER G WITH BREVEbSMALL LETTER G WITH BREVEbCAPITAL LETTER G WITH DOT ABOVE
  121 aLATIN SMALL LETTER G WITH DOT ABOVEbCAPITAL LETTER G WITH CEDILLA
  123 aLATIN SMALL LETTER G WITH CEDILLAbCAPITAL LETTER H WITH CIRCUMFLEX
  125 aLATIN SMALL LETTER H WITH CIRCUMFLEXbCAPITAL LETTER H WITH STROKE
  127 aLATIN SMALL LETTER H WITH STROKEbCAPITAL LETTER I WITH TILDEbSMALL LETTER I WITH TILDE
  12A aLATIN CAPITAL LETTER I WITH MACRONbSMALL LETTER I WITH MACRONbCAPITAL LETTER I WITH BREVE
  12D aLATIN SMALL LETTER I WITH BREVEbCAPITAL LETTER I WITH OGONEKbSMALL LETTER I WITH OGONEK
  130 aLATIN CAPITAL LETTER I WITH DOT ABOVEbSMALL LETTER DOTLESS IbCAPITAL LIGATURE IJ
  133 aLATIN SMALL LIGATURE IJbCAPITAL LETTER J WITH CIRCUMFLEXbSMALL LETTER J WITH CIRCUMFLEX
  136 aLATIN CAPITAL LETTER K WITH CEDILLAbSMALL LETTER K WITH CEDILLAdKRA
  139 aLATIN CAPITAL LETTER L WITH ACUTEbSMALL LETTER L WITH ACUTEbCAPITAL LETTER L WITH CEDILLA
  13C aLATIN SMALL LETTER L WITH CEDILLAbCAPITAL LETTER L WITH CARONbSMALL LETTER L WITH CARON
  13F aLATIN CAPITAL LETTER L WITH MIDDLE DOTbSMALL LETTER L WITH MIDDLE DOT
  141 aLATIN CAPITAL LETTER L WITH STROKEbSMALL LETTER L WITH STROKEbCAPITAL LETTER N WITH ACUTE
  144 aLATIN SMALL LETTER N WITH ACUTEbCAPITAL LETTER N WITH CEDILLAbSMALL LETTER N WITH CEDILLA
  147 aLATIN CAPITAL LETTER N WITH CARONbSMALL LETTER N WITH CARONePRECEDED BY APOSTROPHE
  14A aLATIN CAPITAL LETTER ENGbSMALL LETTER ENGbCAPITAL LETTER O WITH MACRON
  14D aLATIN SMALL LETTER O WITH MACRONbCAPITAL LETTER O WITH BREVEbSMALL LETTER O WITH BREVE
  150 aLATIN CAPITAL LETTER O WITH DOUBLE ACUTEbSMALL LETTER O WITH DOUBLE ACUTE
  152 aLATIN CAPITAL LIGATURE OEbSMALL LIGATURE OEbCAPITAL LETTER R WITH ACUTE
  155 aLATIN SMALL LETTER R WITH ACUTEbCAPITAL LETTER R WITH CEDILLAbSMALL LETTER R WITH CEDILLA
  158 aLATIN CAPITAL LETTER R WITH CARONbSMALL LETTER R WITH CARONbCAPITAL LETTER S WITH ACUTE
  15B aLATIN SMALL LETTER S WITH ACUTEbCAPITAL LETTER S WITH CIRCUMFLEX
  15D aLATIN SMALL LETTER S WITH CIRCUMFLEXbCAPITAL LETTER S WITH CEDILLA
  15F aLATIN SMALL LETTER S WITH CEDILLAbCAPITAL LETTER S WITH CARONbSMALL LETTER S WITH CARON
  162 aLATIN CAPITAL LETTER T WITH CEDILLAbSMALL LETTER T WITH CEDILLAbCAPITAL LETTER T WITH CARON
  165 aLATIN SMALL LETTER T WITH CARONbCAPITAL LETTER T WITH STROKEbSMALL LETTER T WITH STROKE
  168 aLATIN CAPITAL LETTER U WITH TILDEbSMALL LETTER U WITH TILDEbCAPITAL LETTER U WITH MACRON
  16B aLATIN SMALL LETTER U WITH MACRONbCAPITAL LETTER U WITH BREVEbSMALL LETTER U WITH BREVE
  16E aLATIN CAPITAL LETTER U WITH RING ABOVEbSMALL LETTER U WITH RING ABOVE
  170 aLATIN CAPITAL LETTER U WITH DOUBLE ACUTEbSMALL LETTER U WITH DOUBLE ACUTE
  172 aLATIN CAPITAL LETTER U WITH OGONEKbSMALL LETTER U WITH OGONEK
  174 aLATIN CAPITAL LETTER W WITH CIRCUMFLEXbSMALL LETTER W WITH CIRCUMFLEX
  176 aLATIN CAPITAL LETTER Y WITH CIRCUMFLEXbSMALL LETTER Y WITH CIRCUMFLEX
  178 aLATIN CAPITAL LETTER Y WITH DIAERESISdZ WITH ACUTEbSMALL LETTER Z WITH ACUTE
  17B aLATIN CAPITAL LETTER Z WITH DOT ABOVEbSMALL LETTER Z WITH DOT ABOVE
  17D aLATIN CAPITAL LETTER Z WITH CARONbSMALL LETTER Z WITH CARONdLONG SdB WITH STROKE
  181 aLATIN CAPITAL LETTER B WITH HOOKfTOPBARbSMALL LETTER B WITH TOPBARbCAPITAL LETTER TONE SIX
  185 aLATIN SMALL LETTER TONE SIXbCAPITAL LETTER OPEN OdC WITH HOOKbSMALL LETTER C WITH HOOK
  189 aLATIN CAPITAL LETTER AFRICAN DdD WITH HOOKfTOPBARbSMALL LETTER D WITH TOPBARdTURNED DELTA
  18E aLATIN CAPITAL LETTER REVERSED EdSCHWAdOPEN EdF WITH HOOKbSMALL LETTER F WITH HOOK
  193 aLATIN CAPITAL LETTER G WITH HOOKdGAMMAbSMALL LETTER HVbCAPITAL LETTER IOTAdI WITH STROKE
  198 aLATIN CAPITAL LETTER K WITH HOOKbSMALL LETTER K WITH HOOKdL WITH BARdLAMBDA WITH STROKE
  19C aLATIN CAPITAL LETTER TURNED MdN WITH LEFT HOOKbSMALL LETTER N WITH LONG RIGHT LEG
  19F aLATIN CAPITAL LETTER O WITH MIDDLE TILDEfHORNbSMALL LETTER O WITH HORNbCAPITAL LETTER OI
  1A3 aLATIN SMALL LETTER OIbCAPITAL LETTER P WITH HOOKbSMALL LETTER P WITH HOOKbLETTER YR
  1A7 aLATIN CAPITAL LETTER TONE TWObSMALL LETTER TONE TWObCAPITAL LETTER ESH
  1AA aLATIN LETTER REVERSED ESH LOOPbSMALL LETTER T WITH PALATAL HOOKbCAPITAL LETTER T WITH HOOK
  1AD aLATIN SMALL LETTER T WITH HOOKbCAPITAL LETTER T WITH RETROFLEX HOOKdU WITH HORN
  1B0 aLATIN SMALL LETTER U WITH HORNbCAPITAL LETTER UPSILONdV WITH HOOKdY WITH HOOK
  1B4 aLATIN SMALL LETTER Y WITH HOOKbCAPITAL LETTER Z WITH STROKEbSMALL LETTER Z WITH STROKE
  1B7 aLATIN CAPITAL LETTER EZHeREVERSEDbSMALL LETTER EZH REVERSEDeWITH TAIL
  1BB aLATIN LETTER TWO WITH STROKEbCAPITAL LETTER TONE FIVEbSMALL LETTER TONE FIVE
  1BE aLATIN LETTER INVERTED GLOTTAL STOP WITH STROKEcWYNNcDENTAL CLICKcLATERAL CLICK
  1C2 aLATIN LETTER ALVEOLAR CLICKcRETROFLEX CLICKbCAPITAL LETTER DZ WITH CARON
  1C5 aLATIN CAPITAL LETTER D WITH SMALL LETTER Z WITH CARONbSMALL LETTER DZ WITH CARON
  1C7 aLATIN CAPITAL LETTER LJdL WITH SMALL LETTER JbSMALL LETTER LJbCAPITAL LETTER NJ
  1CB aLATIN CAPITAL LETTER N WITH SMALL LETTER JbSMALL LETTER NJbCAPITAL LETTER A WITH CARON
  1CE aLATIN SMALL LETTER A WITH CARONbCAPITAL LETTER I WITH CARONbSMALL LETTER I WITH CARON
  1D1 aLATIN CAPITAL LETTER O WITH CARONbSMALL LETTER O WITH CARONbCAPITAL LETTER U WITH CARON
  1D4 aLATIN SMALL LETTER U WITH CARONbCAPITAL LETTER U WITH DIAERESIS AND MACRON
  1D6 aLATIN SMALL LETTER U WITH DIAERESIS AND MACRONbCAPITAL LETTER U WITH DIAERESIS AND ACUTE
  1D8 aLATIN SMALL LETTER U WITH DIAERESIS AND ACUTEbCAPITAL LETTER U WITH DIAERESIS AND CARON
  1DA aLATIN SMALL LETTER U WITH DIAERESIS AND CARONbCAPITAL LETTER U WITH DIAERESIS AND GRAVE
  1DC aLATIN SMALL LETTER U WITH DIAERESIS AND GRAVEdTURNED E
  1DE aLATIN CAPITAL LETTER A WITH DIAERESIS AND MACRONbSMALL LETTER A WITH DIAERESIS AND MACRON
  1E0 aLATIN CAPITAL LETTER A WITH DOT ABOVE AND MACRONbSMALL LETTER A WITH DOT ABOVE AND MACRON
  1E2 aLATIN CAPITAL LETTER AE WITH MACRONbSMALL LETTER AE WITH MACRON
  1E4 aLATIN CAPITAL LETTER G WITH STROKEbSMALL LETTER G WITH STROKEbCAPITAL LETTER G WITH CARON
  1E7 aLATIN SMALL LETTER G WITH CARONbCAPITAL LETTER K WITH CARONbSMALL LETTER K WITH CARON
  1EA aLATIN CAPITAL LETTER O WITH OGONEKbSMALL LETTER O WITH OGONEK
  1EC aLATIN CAPITAL LETTER O WITH OGONEK AND MACRONbSMALL LETTER O WITH OGONEK AND MACRON
  1EE aLATIN CAPITAL LETTER EZH WITH CARONbSMALL LETTER EZH WITH CARONdJ WITH CARON
  1F1 aLATIN CAPITAL LETTER DZdD WITH SMALL LETTER ZbSMALL LETTER DZbCAPITAL LETTER G WITH ACUTE
  1F5 aLATIN SMALL LETTER G WITH ACUTEbCAPITAL LETTER HWAIRdWYNNdN WITH GRAVE
  1F9 aLATIN SMALL LETTER N WITH GRAVEbCAPITAL LETTER A WITH RING ABOVE AND ACUTE
  1FB aLATIN SMALL LETTER A WITH RING ABOVE AND ACUTEbCAPITAL LETTER AE WITH ACUTE
  1FD aLATIN SMALL LETTER AE WITH ACUTEbCAPITAL LETTER O WITH STROKE AND ACUTE
  1FF aLATIN SMALL LETTER O WITH STROKE AND ACUTEbCAPITAL LETTER A WITH DOUBLE GRAVE
  201 aLATIN SMALL LETTER A WITH DOUBLE GRAVEbCAPITAL LETTER A WITH INVERTED BREVE
  203 aLATIN SMALL LETTER A WITH INVERTED BREVEbCAPITAL LETTER E WITH DOUBLE GRAVE
  205 aLATIN SMALL LETTER E WITH DOUBLE GRAVEbCAPITAL LETTER E WITH INVERTED BREVE
  207 aLATIN SMALL LETTER E WITH INVERTED BREVEbCAPITAL LETTER I WITH DOUBLE GRAVE
  209 aLATIN SMALL LETTER I WITH DOUBLE GRAVEbCAPITAL LETTER I WITH INVERTED BREVE
  20B aLATIN SMALL LETTER I WITH INVERTED BREVEbCAPITAL LETTER O WITH DOUBLE GRAVE
  20D aLATIN SMALL LETTER O WITH DOUBLE GRAVEbCAPITAL LETTER O WITH INVERTED BREVE
  20F aLATIN SMALL LETTER O WITH INVERTED BREVEbCAPITAL LETTER R WITH DOUBLE GRAVE
  211 aLATIN SMALL LETTER R WITH DOUBLE GRAVEbCAPITAL LETTER R WITH INVERTED BREVE
  213 aLATIN SMALL LETTER R WITH INVERTED BREVEbCAPITAL LETTER U WITH DOUBLE GRAVE
  215 aLATIN SMALL LETTER U WITH DOUBLE GRAVEbCAPITAL LETTER U WITH INVERTED BREVE
  217 aLATIN SMALL LETTER U WITH INVERTED BREVEbCAPITAL LETTER S WITH COMMA BELOW
  219 aLATIN SMALL LETTER S WITH COMMA BELOWbCAPITAL LETTER T WITH COMMA BELOW
  21B aLATIN SMALL LETTER T WITH COMMA BELOWbCAPITAL LETTER YOGHbSMALL LETTER YOGH
  21E aLATIN CAPITAL LETTER H WITH CARONbSMALL LETTER H WITH CARON
  220 aLATIN CAPITAL LETTER N WITH LONG RIGHT LEGbSMALL LETTER D WITH CURLbCAPITAL LETTER OU
  223 aLATIN SMALL LETTER OUbCAPITAL LETTER Z WITH HOOKbSMALL LETTER Z WITH HOOK
  226 aLATIN CAPITAL LETTER A WITH DOT ABOVEbSMALL LETTER A WITH DOT ABOVE
  228 aLATIN CAPITAL LETTER E WITH CEDILLAbSMALL LETTER E WITH CEDILLA
  22A aLATIN CAPITAL LETTER O WITH DIAERESIS AND MACRONbSMALL LETTER O WITH DIAERESIS AND MACRON
  22C aLATIN CAPITAL LETTER O WITH TILDE AND MACRONbSMALL LETTER O WITH TILDE AND MACRON
  22E aLATIN CAPITAL LETTER O WITH DOT ABOVEbSMALL LETTER O WITH DOT ABOVE
  230 aLATIN CAPITAL LETTER O WITH DOT ABOVE AND MACRONbSMALL LETTER O WITH DOT ABOVE AND MACRON
  232 aLATIN CAPITAL LETTER Y WITH MACRONbSMALL LETTER Y WITH MACRONdL WITH CURLdN WITH CURL
  236 aLATIN SMALL LETTER T WITH CURLdDOTLESS JdDB DIGRAPHdQP DIGRAPHbCAPITAL LETTER A WITH STROKE
  23B aLATIN CAPITAL LETTER C WITH STROKEbSMALL LETTER C WITH STROKEbCAPITAL LETTER L WITH BAR
  23E aLATIN CAPITAL LETTER T WITH DIAGONAL STROKEbSMALL LETTER S WITH SWASH TAIL
  240 aLATIN SMALL LETTER Z WITH SWASH TAILbCAPITAL LETTER GLOTTAL STOPbSMALL LETTER GLOTTAL STOP
  243 aLATIN CAPITAL LETTER B WITH STROKEdU BARdTURNED VdE WITH STROKEbSMALL LETTER E WITH STROKE
  248 aLATIN CAPITAL LETTER J WITH STROKEbSMALL LETTER J WITH STROKE
  24A aLATIN CAPITAL LETTER SMALL Q WITH HOOK TAILbSMALL LETTER Q WITH HOOK TAIL
  24C aLATIN CAPITAL LETTER R WITH STROKEbSMALL LETTER R WITH STROKEbCAPITAL LETTER Y WITH STROKE
  24F aLATIN SMALL LETTER Y WITH STROKEdTURNED AdALPHAdTURNED ALPHAdB WITH HOOKdOPEN OdC WITH CURL
  256 aLATIN SMALL LETTER D WITH TAILfHOOKdREVERSED EdSCHWAeWITH HOOKdOPEN EdREVERSED OPEN E
  25D aLATIN SMALL LETTER REVERSED OPEN E WITH HOOKdCLOSED REVERSED OPEN EdDOTLESS J WITH STROKE
  260 aLATIN SMALL LETTER G WITH HOOKdSCRIPT GbLETTER SMALL CAPITAL GbSMALL LETTER GAMMAdRAMS HORN
  265 aLATIN SMALL LETTER TURNED HdH WITH HOOKdHENG WITH HOOKdI WITH STROKEdIOTA
  26A aLATIN LETTER SMALL CAPITAL IbSMALL LETTER L WITH MIDDLE TILDEfBELTfRETROFLEX HOOKdLEZH
  26F aLATIN SMALL LETTER TURNED MfWITH LONG LEGdM WITH HOOKdN WITH LEFT HOOKfRETROFLEX HOOK
  274 aLATIN LETTER SMALL CAPITAL NbSMALL LETTER BARRED ObLETTER SMALL CAPITAL OE
  277 aLATIN SMALL LETTER CLOSED OMEGAdPHIdTURNED RfWITH LONG LEGgHOOKdR WITH LONG LEGfTAIL
  27E aLATIN SMALL LETTER R WITH FISHHOOKdREVERSED R WITH FISHHOOKbLETTER SMALL CAPITAL R
  281 aLATIN LETTER SMALL CAPITAL INVERTED RbSMALL LETTER S WITH HOOKdESH
  284 aLATIN SMALL LETTER DOTLESS J WITH STROKE AND HOOKdSQUAT REVERSED ESHdESH WITH CURLdTURNED T
  288 aLATIN SMALL LETTER T WITH RETROFLEX HOOKdU BARdUPSILONdV WITH HOOKdTURNED VeWeY
  28F aLATIN LETTER SMALL CAPITAL YbSMALL LETTER Z WITH RETROFLEX HOOKfCURLdEZHeWITH CURL
  294 aLATIN LETTER GLOTTAL STOPcPHARYNGEAL VOICED FRICATIVEcINVERTED GLOTTAL STOPcSTRETCHED C
  298 aLATIN LETTER BILABIAL CLICKcSMALL CAPITAL BbSMALL LETTER CLOSED OPEN E
  29B aLATIN LETTER SMALL CAPITAL G WITH HOOKeHbSMALL LETTER J WITH CROSSED-TAILdTURNED K
  29F aLATIN LETTER SMALL CAPITAL LbSMALL LETTER Q WITH HOOKbLETTER GLOTTAL STOP WITH STROKE
  2A2 aLATIN LETTER REVERSED GLOTTAL STOP WITH STROKEbSMALL LETTER DZ DIGRAPHdDEZH DIGRAPH
  2A5 aLATIN SMALL LETTER DZ DIGRAPH WITH CURLdTS DIGRAPHdTESH DIGRAPHdTC DIGRAPH WITH CURL
  2A9 aLATIN SMALL LETTER FENG DIGRAPHdLS DIGRAPHdLZ DIGRAPHbLETTER BILABIAL PERCUSSIVE
  2AD aLATIN LETTER BIDENTAL PERCUSSIVEbSMALL LETTER TURNED H WITH FISHHOOKhAND TAIL
  2B0 aMODIFIER LETTER SMALL HeWITH HOOKdJdRdTURNED RfWITH HOOKdCAPITAL INVERTED RdWdYcPRIME
  2BA aMODIFIER LETTER DOUBLE PRIMEcTURNED COMMAcAPOSTROPHEcREVERSED COMMAcRIGHT HALF RING
  2BF aMODIFIER LETTER LEFT HALF RINGcGLOTTAL STOPcREVERSED GLOTTAL STOPcLEFT ARROWHEAD
  2C3 aMODIFIER LETTER RIGHT ARROWHEADcUP ARROWHEADcDOWN ARROWHEADcCIRCUMFLEX ACCENTaCARON
  2C8 aMODIFIER LETTER VERTICAL LINEcMACRONcACUTE ACCENTcGRAVE ACCENTcLOW VERTICAL LINEdMACRON
  2CE aMODIFIER LETTER LOW GRAVE ACCENTdACUTE ACCENTcTRIANGULAR COLONcHALF TRIANGULAR COLON
  2D2 aMODIFIER LETTER CENTRED RIGHT HALF RINGdLEFT HALF RINGcUP TACKcDOWN TACKcPLUS SIGN
  2D7 aMODIFIER LETTER MINUS SIGNaBREVEaDOT ABOVEaRING ABOVEaOGONEKaSMALL TILDE
  2DD aDOUBLE ACUTE ACCENTaMODIFIER LETTER RHOTIC HOOKcCROSS ACCENTcSMALL GAMMAdLdSdX
  2E4 aMODIFIER LETTER SMALL REVERSED GLOTTAL STOPcEXTRA-HIGH TONE BARcHIGH TONE BARcMID TONE BAR
  2E8 aMODIFIER LETTER LOW TONE BARcEXTRA-LOW TONE BARcYIN DEPARTING TONE MARK
  2EB aMODIFIER LETTER YANG DEPARTING TONE MARKcVOICINGcUNASPIRATEDcDOUBLE APOSTROPHE
  2EF aMODIFIER LETTER LOW DOWN ARROWHEADdUP ARROWHEADdLEFT ARROWHEADdRIGHT ARROWHEADdRING
  2F4 aMODIFIER LETTER MIDDLE GRAVE ACCENTdDOUBLE GRAVE ACCENTeACUTE ACCENTcLOW TILDEcRAISED COLON
  2F9 aMODIFIER LETTER BEGIN HIGH TONEcEND HIGH TONEcBEGIN LOW TONEcEND LOW TONEcSHELFcOPEN SHELF
  2FF aMODIFIER LETTER LOW LEFT ARROWaCOMBINING GRAVE ACCENTbACUTE ACCENTbCIRCUMFLEX ACCENTbTILDE
  304 aCOMBINING MACRONbOVERLINEbBREVEbDOT ABOVEbDIAERESISbHOOK ABOVEbRING ABOVE
  30B aCOMBINING DOUBLE ACUTE ACCENTbCARONbVERTICAL LINE ABOVEbDOUBLE VERTICAL LINE ABOVE
  30F aCOMBINING DOUBLE GRAVE ACCENTbCANDRABINDUbINVERTED BREVEbTURNED COMMA ABOVEbCOMMA ABOVE
  314 aCOMBINING REVERSED COMMA ABOVEbCOMMA ABOVE RIGHTbGRAVE ACCENT BELOWbACUTE ACCENT BELOW
  318 aCOMBINING LEFT TACK BELOWbRIGHT TACK BELOWbLEFT ANGLE ABOVEbHORNbLEFT HALF RING BELOW
  31D aCOMBINING UP TACK BELOWbDOWN TACK BELOWbPLUS SIGN BELOWbMINUS SIGN BELOW
  321 aCOMBINING PALATALIZED HOOK BELOWbRETROFLEX HOOK BELOWbDOT BELOWbDIAERESIS BELOWbRING BELOW
  326 aCOMBINING COMMA BELOWbCEDILLAbOGONEKbVERTICAL LINE BELOWbBRIDGE BELOW
  32B aCOMBINING INVERTED DOUBLE ARCH BELOWbCARON BELOWbCIRCUMFLEX ACCENT BELOWbBREVE BELOW
  32F aCOMBINING INVERTED BREVE BELOWbTILDE BELOWbMACRON BELOWbLOW LINEbDOUBLE LOW LINE
  334 aCOMBINING TILDE OVERLAYbSHORT STROKE OVERLAYbLONG STROKE OVERLAYbSHORT SOLIDUS OVERLAY
  338 aCOMBINING LONG SOLIDUS OVERLAYbRIGHT HALF RING BELOWbINVERTED BRIDGE BELOWbSQUARE BELOW
  33C aCOMBINING SEAGULL BELOWbX ABOVEbVERTICAL TILDEbDOUBLE OVERLINEbGRAVE TONE MARK
  341 aCOMBINING ACUTE TONE MARKbGREEK PERISPOMENIcKORONIScDIALYTIKA TONOScYPOGEGRAMMENI
  346 aCOMBINING BRIDGE ABOVEbEQUALS SIGN BELOWbDOUBLE VERTICAL LINE BELOWbLEFT ANGLE BELOW
  34A aCOMBINING NOT TILDE ABOVEbHOMOTHETIC ABOVEbALMOST EQUAL TO ABOVEbLEFT RIGHT ARROW BELOW
  34E aCOMBINING UPWARDS ARROW BELOWbGRAPHEME JOINERbRIGHT ARROWHEAD ABOVEbLEFT HALF RING ABOVE
  352 aCOMBINING FERMATAbX BELOWbLEFT ARROWHEAD BELOWbRIGHT ARROWHEAD BELOWdAND UP ARROWHEAD BELOW
  357 aCOMBINING RIGHT HALF RING ABOVEbDOT ABOVE RIGHTbASTERISK BELOWbDOUBLE RING BELOW
  35B aCOMBINING ZIGZAG ABOVEbDOUBLE BREVE BELOWcBREVEcMACRONdBELOWcTILDEcINVERTED BREVE
  362 aCOMBINING DOUBLE RIGHTWARDS ARROW BELOWbLATIN SMALL LETTER AeEeIeOeUeCeDeHeMeReTeVeX
  370 aGREEK CAPITAL LETTER HETAbSMALL LETTER HETAbCAPITAL LETTER ARCHAIC SAMPI
  373 aGREEK SMALL LETTER ARCHAIC SAMPIbNUMERAL SIGNbLOWER NUMERAL SIGN
  376 aGREEK CAPITAL LETTER PAMPHYLIAN DIGAMMAbSMALL LETTER PAMPHYLIAN DIGAMMA
  37A aGREEK YPOGEGRAMMENIbSMALL REVERSED LUNATE SIGMA SYMBOLcDOTTED LUNATE SIGMA SYMBOL
  37D aGREEK SMALL REVERSED DOTTED LUNATE SIGMA SYMBOLbQUESTION MARKbCAPITAL LETTER YOT
  384 aGREEK TONOSbDIALYTIKA TONOSbCAPITAL LETTER ALPHA WITH TONOSbANO TELEIA
  388 aGREEK CAPITAL LETTER EPSILON WITH TONOSdETA WITH TONOSdIOTA WITH TONOS
  38C aGREEK CAPITAL LETTER OMICRON WITH TONOS
  38E aGREEK CAPITAL LETTER UPSILON WITH TONOSdOMEGA WITH TONOS
  390 aGREEK SMALL LETTER IOTA WITH DIALYTIKA AND TONOSbCAPITAL LETTER ALPHAdBETAdGAMMAdDELTA
  395 aGREEK CAPITAL LETTER EPSILONdZETAdETAdTHETAdIOTAdKAPPAdLAMDAdMUdNUdXIdOMICRONdPIdRHO
  3A3 aGREEK CAPITAL LETTER SIGMAdTAUdUPSILONdPHIdCHIdPSIdOMEGAdIOTA WITH DIALYTIKA
  3AB aGREEK CAPITAL LETTER UPSILON WITH DIALYTIKAbSMALL LETTER ALPHA WITH TONOS
  3AD aGREEK SMALL LETTER EPSILON WITH TONOSdETA WITH TONOSdIOTA WITH TONOS
  3B0 aGREEK SMALL LETTER UPSILON WITH DIALYTIKA AND TONOSdALPHAdBETAdGAMMAdDELTAdEPSILONdZETAdETA
  3B8 aGREEK SMALL LETTER THETAdIOTAdKAPPAdLAMDAdMUdNUdXIdOMICRONdPIdRHOdFINAL SIGMAdSIGMAdTAU
  3C5 aGREEK SMALL LETTER UPSILONdPHIdCHIdPSIdOMEGAdIOTA WITH DIALYTIKAdUPSILON WITH DIALYTIKA
  3CC aGREEK SMALL LETTER OMICRON WITH TONOSdUPSILON WITH TONOSdOMEGA WITH TONOS
  3CF aGREEK CAPITAL KAI SYMBOLbBETA SYMBOLbTHETA SYMBOLbUPSILON WITH HOOK SYMBOL
  3D3 aGREEK UPSILON WITH ACUTE AND HOOK SYMBOLdDIAERESIS AND HOOK SYMBOLbPHI SYMBOLbPI SYMBOL
  3D7 aGREEK KAI SYMBOLbLETTER ARCHAIC KOPPAbSMALL LETTER ARCHAIC KOPPAbLETTER STIGMA
  3DB aGREEK SMALL LETTER STIGMAbLETTER DIGAMMAbSMALL LETTER DIGAMMAbLETTER KOPPA
  3DF aGREEK SMALL LETTER KOPPAbLETTER SAMPIbSMALL LETTER SAMPIaCOPTIC CAPITAL LETTER SHEI
  3E3 aCOPTIC SMALL LETTER SHEIbCAPITAL LETTER FEIbSMALL LETTER FEIbCAPITAL LETTER KHEI
  3E7 aCOPTIC SMALL LETTER KHEIbCAPITAL LETTER HORIbSMALL LETTER HORIbCAPITAL LETTER GANGIA
  3EB aCOPTIC SMALL LETTER GANGIAbCAPITAL LETTER SHIMAbSMALL LETTER SHIMAbCAPITAL LETTER DEI
  3EF aCOPTIC SMALL LETTER DEIaGREEK KAPPA SYMBOLbRHO SYMBOLbLUNATE SIGMA SYMBOLbLETTER YOT
  3F4 aGREEK CAPITAL THETA SYMBOLbLUNATE EPSILON SYMBOLbREVERSED LUNATE EPSILON SYMBOL
  3F7 aGREEK CAPITAL LETTER SHObSMALL LETTER SHObCAPITAL LUNATE SIGMA SYMBOLcLETTER SAN
  3FB aGREEK SMALL LETTER SANbRHO WITH STROKE SYMBOLbCAPITAL REVERSED LUNATE SIGMA SYMBOL
  3FE aGREEK CAPITAL DOTTED LUNATE SIGMA SYMBOLcREVERSED DOTTED LUNATE SIGMA SYMBOL
  400 aCYRILLIC CAPITAL LETTER IE WITH GRAVEdIOdDJEdGJEdUKRAINIAN IEdDZEdBYELORUSSIAN-UKRAINIAN I
  407 aCYRILLIC CAPITAL LETTER YIdJEdLJEdNJEdTSHEdKJEdI WITH GRAVEdSHORT UdDZHEdAdBEdVEdGHEdDEdIE
  416 aCYRILLIC CAPITAL LETTER ZHEdZEdIdSHORT IdKAdELdEMdENdOdPEdERdESdTEdUdEFdHAdTSEdCHEdSHA
  429 aCYRILLIC CAPITAL LETTER SHCHAdHARD SIGNdYERUdSOFT SIGNdEdYUdYAbSMALL LETTER AdBEdVEdGHEdDE
  435 aCYRILLIC SMALL LETTER IEdZHEdZEdIdSHORT IdKAdELdEMdENdOdPEdERdESdTEdUdEFdHAdTSEdCHEdSHA
  449 aCYRILLIC SMALL LETTER SHCHAdHARD SIGNdYERUdSOFT SIGNdEdYUdYAdIE WITH GRAVEdIOdDJEdGJE
  454 aCYRILLIC SMALL LETTER UKRAINIAN IEdDZEdBYELORUSSIAN-UKRAINIAN IdYIdJEdLJEdNJEdTSHEdKJE
  45D aCYRILLIC SMALL LETTER I WITH GRAVEdSHORT UdDZHEbCAPITAL LETTER OMEGAbSMALL LETTER OMEGA
  462 aCYRILLIC CAPITAL LETTER YATbSMALL LETTER YATbCAPITAL LETTER IOTIFIED E
  465 aCYRILLIC SMALL LETTER IOTIFIED EbCAPITAL LETTER LITTLE YUSbSMALL LETTER LITTLE YUS
  468 aCYRILLIC CAPITAL LETTER IOTIFIED LITTLE YUSbSMALL LETTER IOTIFIED LITTLE YUS
  46A aCYRILLIC CAPITAL LETTER BIG YUSbSMALL LETTER BIG YUSbCAPITAL LETTER IOTIFIED BIG YUS
  46D aCYRILLIC SMALL LETTER IOTIFIED BIG YUSbCAPITAL LETTER KSIbSMALL LETTER KSI
  470 aCYRILLIC CAPITAL LETTER PSIbSMALL LETTER PSIbCAPITAL LETTER FITAbSMALL LETTER FITA
  474 aCYRILLIC CAPITAL LETTER IZHITSAbSMALL LETTER IZHITSA
  476 aCYRILLIC CAPITAL LETTER IZHITSA WITH DOUBLE GRAVE ACCENT
  477 aCYRILLIC SMALL LETTER IZHITSA WITH DOUBLE GRAVE ACCENTbCAPITAL LETTER UKbSMALL LETTER UK
  47A aCYRILLIC CAPITAL LETTER ROUND OMEGAbSMALL LETTER ROUND OMEGA
  47C aCYRILLIC CAPITAL LETTER OMEGA WITH TITLObSMALL LETTER OMEGA WITH TITLObCAPITAL LETTER OT
  47F aCYRILLIC SMALL LETTER OTbCAPITAL LETTER KOPPAbSMALL LETTER KOPPAbTHOUSANDS SIGN
  483 aCOMBINING CYRILLIC TITLOcPALATALIZATIONcDASIA PNEUMATAcPSILI PNEUMATAcPOKRYTIE
  488 aCOMBINING CYRILLIC HUNDRED THOUSANDS SIGNcMILLIONS SIGN
  48A aCYRILLIC CAPITAL LETTER SHORT I WITH TAILbSMALL LETTER SHORT I WITH TAIL
  48C aCYRILLIC CAPITAL LETTER SEMISOFT SIGNbSMALL LETTER SEMISOFT SIGN
  48E aCYRILLIC CAPITAL LETTER ER WITH TICKbSMALL LETTER ER WITH TICK
  490 aCYRILLIC CAPITAL LETTER GHE WITH UPTURNbSMALL LETTER GHE WITH UPTURN
  492 aCYRILLIC CAPITAL LETTER GHE WITH STROKEbSMALL LETTER GHE WITH STROKE
  494 aCYRILLIC CAPITAL LETTER GHE WITH MIDDLE HOOKbSMALL LETTER GHE WITH MIDDLE HOOK
  496 aCYRILLIC CAPITAL LETTER ZHE WITH DESCENDERbSMALL LETTER ZHE WITH DESCENDER
  498 aCYRILLIC CAPITAL LETTER ZE WITH DESCENDERbSMALL LETTER ZE WITH DESCENDER
  49A aCYRILLIC CAPITAL LETTER KA WITH DESCENDERbSMALL LETTER KA WITH DESCENDER
  49C aCYRILLIC CAPITAL LETTER KA WITH VERTICAL STROKEbSMALL LETTER KA WITH VERTICAL STROKE
  49E aCYRILLIC CAPITAL LETTER KA WITH STROKEbSMALL LETTER KA WITH STROKE
  4A0 aCYRILLIC CAPITAL LETTER BASHKIR KAbSMALL LETTER BASHKIR KAbCAPITAL LETTER EN WITH DESCENDER
  4A3 aCYRILLIC SMALL LETTER EN WITH DESCENDERbCAPITAL LIGATURE EN GHEbSMALL LIGATURE EN GHE
  4A6 aCYRILLIC CAPITAL LETTER PE WITH MIDDLE HOOKbSMALL LETTER PE WITH MIDDLE HOOK
  4A8 aCYRILLIC CAPITAL LETTER ABKHASIAN HAbSMALL LETTER ABKHASIAN HA
  4AA aCYRILLIC CAPITAL LETTER ES WITH DESCENDERbSMALL LETTER ES WITH DESCENDER
  4AC aCYRILLIC CAPITAL LETTER TE WITH DESCENDERbSMALL LETTER TE WITH DESCENDER
  4AE aCYRILLIC CAPITAL LETTER STRAIGHT UbSMALL LETTER STRAIGHT U
  4B0 aCYRILLIC CAPITAL LETTER STRAIGHT U WITH STROKEbSMALL LETTER STRAIGHT U WITH STROKE
  4B2 aCYRILLIC CAPITAL LETTER HA WITH DESCENDERbSMALL LETTER HA WITH DESCENDER
  4B4 aCYRILLIC CAPITAL LIGATURE TE TSEbSMALL LIGATURE TE TSEbCAPITAL LETTER CHE WITH DESCENDER
  4B7 aCYRILLIC SMALL LETTER CHE WITH DESCENDERbCAPITAL LETTER CHE WITH VERTICAL STROKE
  4B9 aCYRILLIC SMALL LETTER CHE WITH VERTICAL STROKEbCAPITAL LETTER SHHAbSMALL LETTER SHHA
  4BC aCYRILLIC CAPITAL LETTER ABKHASIAN CHEbSMALL LETTER ABKHASIAN CHE
  4BE aCYRILLIC CAPITAL LETTER ABKHASIAN CHE WITH DESCENDER
  4BF aCYRILLIC SMALL LETTER ABKHASIAN CHE WITH DESCENDERbLETTER PALOCHKA
  4C1 aCYRILLIC CAPITAL LETTER ZHE WITH BREVEbSMALL LETTER ZHE WITH BREVE
  4C3 aCYRILLIC CAPITAL LETTER KA WITH HOOKbSMALL LETTER KA WITH HOOKbCAPITAL LETTER EL WITH TAIL
  4C6 aCYRILLIC SMALL LETTER EL WITH TAILbCAPITAL LETTER EN WITH HOOKbSMALL LETTER EN WITH HOOK
  4C9 aCYRILLIC CAPITAL LETTER EN WITH TAILbSMALL LETTER EN WITH TAIL
  4CB aCYRILLIC CAPITAL LETTER KHAKASSIAN CHEbSMALL LETTER KHAKASSIAN CHE
  4CD aCYRILLIC CAPITAL LETTER EM WITH TAILbSMALL LETTER EM WITH TAILdPALOCHKA
  4D0 aCYRILLIC CAPITAL LETTER A WITH BREVEbSMALL LETTER A WITH BREVE
  4D2 aCYRILLIC CAPITAL LETTER A WITH DIAERESISbSMALL LETTER A WITH DIAERESIS
  4D4 aCYRILLIC CAPITAL LIGATURE A IEbSMALL LIGATURE A IEbCAPITAL LETTER IE WITH BREVE
  4D7 aCYRILLIC SMALL LETTER IE WITH BREVEbCAPITAL LETTER SCHWAbSMALL LETTER SCHWA
  4DA aCYRILLIC CAPITAL LETTER SCHWA WITH DIAERESISbSMALL LETTER SCHWA WITH DIAERESIS
  4DC aCYRILLIC CAPITAL LETTER ZHE WITH DIAERESISbSMALL LETTER ZHE WITH DIAERESIS
  4DE aCYRILLIC CAPITAL LETTER ZE WITH DIAERESISbSMALL LETTER ZE WITH DIAERESIS
  4E0 aCYRILLIC CAPITAL LETTER ABKHASIAN DZEbSMALL LETTER ABKHASIAN DZE
  4E2 aCYRILLIC CAPITAL LETTER I WITH MACRONbSMALL LETTER I WITH MACRON
  4E4 aCYRILLIC CAPITAL LETTER I WITH DIAERESISbSMALL LETTER I WITH DIAERESIS
  4E6 aCYRILLIC CAPITAL LETTER O WITH DIAERESISbSMALL LETTER O WITH DIAERESIS
  4E8 aCYRILLIC CAPITAL LETTER BARRED ObSMALL LETTER BARRED O
  4EA aCYRILLIC CAPITAL LETTER BARRED O WITH DIAERESISbSMALL LETTER BARRED O WITH DIAERESIS
  4EC aCYRILLIC CAPITAL LETTER E WITH DIAERESISbSMALL LETTER E WITH DIAERESIS
  4EE aCYRILLIC CAPITAL LETTER U WITH MACRONbSMALL LETTER U WITH MACRON
  4F0 aCYRILLIC CAPITAL LETTER U WITH DIAERESISbSMALL LETTER U WITH DIAERESIS
  4F2 aCYRILLIC CAPITAL LETTER U WITH DOUBLE ACUTEbSMALL LETTER U WITH DOUBLE ACUTE
  4F4 aCYRILLIC CAPITAL LETTER CHE WITH DIAERESISbSMALL LETTER CHE WITH DIAERESIS
  4F6 aCYRILLIC CAPITAL LETTER GHE WITH DESCENDERbSMALL LETTER GHE WITH DESCENDER
  4F8 aCYRILLIC CAPITAL LETTER YERU WITH DIAERESISbSMALL LETTER YERU WITH DIAERESIS
  4FA aCYRILLIC CAPITAL LETTER GHE WITH STROKE AND HOOKbSMALL LETTER GHE WITH STROKE AND HOOK
  4FC aCYRILLIC CAPITAL LETTER HA WITH HOOKbSMALL LETTER HA WITH HOOK
  4FE aCYRILLIC CAPITAL LETTER HA WITH STROKEbSMALL LETTER HA WITH STROKEbCAPITAL LETTER KOMI DE
  501 aCYRILLIC SMALL LETTER KOMI DEbCAPITAL LETTER KOMI DJEbSMALL LETTER KOMI DJE
  504 aCYRILLIC CAPITAL LETTER KOMI ZJEbSMALL LETTER KOMI ZJEbCAPITAL LETTER KOMI DZJE
  507 aCYRILLIC SMALL LETTER KOMI DZJEbCAPITAL LETTER KOMI LJEbSMALL LETTER KOMI LJE
  50A aCYRILLIC CAPITAL LETTER KOMI NJEbSMALL LETTER KOMI NJEbCAPITAL LETTER KOMI SJE
  50D aCYRILLIC SMALL LETTER KOMI SJEbCAPITAL LETTER KOMI TJEbSMALL LETTER KOMI TJE
  510 aCYRILLIC CAPITAL LETTER REVERSED ZEbSMALL LETTER REVERSED ZEbCAPITAL LETTER EL WITH HOOK
  513 aCYRILLIC SMALL LETTER EL WITH HOOKbCAPITAL LETTER LHAbSMALL LETTER LHAbCAPITAL LETTER RHA
  517 aCYRILLIC SMALL LETTER RHAbCAPITAL LETTER YAEbSMALL LETTER YAEbCAPITAL LETTER QA
  51B aCYRILLIC SMALL LETTER QAbCAPITAL LETTER WEbSMALL LETTER WEbCAPITAL LETTER ALEUT KA
  51F aCYRILLIC SMALL LETTER ALEUT KAbCAPITAL LETTER EL WITH MIDDLE HOOK
  521 aCYRILLIC SMALL LETTER EL WITH MIDDLE HOOKbCAPITAL LETTER EN WITH MIDDLE HOOK
  523 aCYRILLIC SMALL LETTER EN WITH MIDDLE HOOKbCAPITAL LETTER PE WITH DESCENDER
  525 aCYRILLIC SMALL LETTER PE WITH DESCENDERbCAPITAL LETTER SHHA WITH DESCENDER
  527 aCYRILLIC SMALL LETTER SHHA WITH DESCENDERbCAPITAL LETTER EN WITH LEFT HOOK
  529 aCYRILLIC SMALL LETTER EN WITH LEFT HOOKbCAPITAL LETTER DZZHEbSMALL LETTER DZZHE
  52C aCYRILLIC CAPITAL LETTER DCHEbSMALL LETTER DCHEbCAPITAL LETTER EL WITH DESCENDER
  52F aCYRILLIC SMALL LETTER EL WITH DESCENDER
  531 aARMENIAN CAPITAL LETTER AYBdBENdGIMdDAdECHdZAdEHdETdTOdZHEdINIdLIWNdXEHdCAdKENdHOdJAdGHAD
  543 aARMENIAN CAPITAL LETTER CHEHdMENdYIdNOWdSHAdVOdCHAdPEHdJHEHdRAdSEHdVEWdTIWNdREHdCOdYIWN
  553 aARMENIAN CAPITAL LETTER PIWRdKEHdOHdFEH
  559 aARMENIAN MODIFIER LETTER LEFT HALF RINGbAPOSTROPHEbEMPHASIS MARKbEXCLAMATION MARKbCOMMA
  55E aARMENIAN QUESTION MARKbABBREVIATION MARKbSMALL LETTER TURNED AYBdAYBdBENdGIMdDAdECHdZAdEH
  568 aARMENIAN SMALL LETTER ETdTOdZHEdINIdLIWNdXEHdCAdKENdHOdJAdGHADdCHEHdMENdYIdNOWdSHAdVOdCHA
  57A aARMENIAN SMALL LETTER PEHdJHEHdRAdSEHdVEWdTIWNdREHdCOdYIWNdPIWRdKEHdOHdFEH
  587 aARMENIAN SMALL LIGATURE ECH YIWNcLETTER YI WITH STROKEbFULL STOPbHYPHEN
  58D aRIGHT-FACING ARMENIAN ETERNITY SIGNaLEFT-FACING ARMENIAN ETERNITY SIGNaARMENIAN DRAM SIGN
  591 aHEBREW ACCENT ETNAHTAcSEGOLcSHALSHELETcZAQEF QATANdGADOLcTIPEHAcREVIAcZARQAcPASHTAcYETIV
  59B aHEBREW ACCENT TEVIRcGERESHdMUQDAMcGERSHAYIMcQARNEY PARAcTELISHA GEDOLAcPAZERcATNAH HAFUKH
  5A3 aHEBREW ACCENT MUNAHcMAHAPAKHcMERKHAdKEFULAcDARGAcQADMAcTELISHA QETANAcYERAH BEN YOMOcOLE
  5AC aHEBREW ACCENT ILUYcDEHIcZINORbMARK MASORA CIRCLEbPOINT SHEVAcHATAF SEGOLdPATAHdQAMATScHIRIQ
  5B5 aHEBREW POINT TSEREcSEGOLcPATAHcQAMATScHOLAMdHASER FOR VAVcQUBUTScDAGESH OR MAPIQcMETEG
  5BE aHEBREW PUNCTUATION MAQAFbPOINT RAFEbPUNCTUATION PASEQbPOINT SHIN DOTcSIN DOT
  5C3 aHEBREW PUNCTUATION SOF PASUQbMARK UPPER DOTcLOWER DOTbPUNCTUATION NUN HAFUKHA
  5C7 aHEBREW POINT QAMATS QATAN
  5D0 aHEBREW LETTER ALEFcBETcGIMELcDALETcHEcVAVcZAYINcHETcTETcYODcFINAL KAFcKAFcLAMEDcFINAL MEM
  5DE aHEBREW LETTER MEMcFINAL NUNcNUNcSAMEKHcAYINcFINAL PEcPEcFINAL TSADIcTSADIcQOFcRESHcSHINcTAV
  5EF aHEBREW YOD TRIANGLEbLIGATURE YIDDISH DOUBLE VAVdVAV YODdDOUBLE YODbPUNCTUATION GERESH
  5F4 aHEBREW PUNCTUATION GERSHAYIM
  600 aARABIC NUMBER SIGNbSIGN SANAHbFOOTNOTE MARKERbSIGN SAFHAcSAMVATbNUMBER MARK ABOVE
  606 aARABIC-INDIC CUBE ROOTbFOURTH ROOTaARABIC RAYaARABIC-INDIC PER MILLE SIGNcTEN THOUSAND SIGN
  60B aAFGHANI SIGNaARABIC COMMAbDATE SEPARATORbPOETIC VERSE SIGNbSIGN MISRA
  610 aARABIC SIGN SALLALLAHOU ALAYHE WASSALLAMcALAYHE ASSALLAMcRAHMATULLAH ALAYHE
  613 aARABIC SIGN RADI ALLAHOU ANHUcTAKHALLUSbSMALL HIGH TAHdLIGATURE ALEF WITH LAM WITH YEHdZAIN
  618 aARABIC SMALL FATHAcDAMMAcKASRAbSEMICOLONbLETTER MARKbEND OF TEXT MARK
  61E aARABIC TRIPLE DOT PUNCTUATION MARKbQUESTION MARKbLETTER KASHMIRI YEHcHAMZA
  622 aARABIC LETTER ALEF WITH MADDA ABOVEeHAMZA ABOVEcWAW WITH HAMZA ABOVEcALEF WITH HAMZA BELOW
  626 aARABIC LETTER YEH WITH HAMZA ABOVEcALEFcBEHcTEH MARBUTAcTEHcTHEHcJEEMcHAHcKHAHcDALcTHALcREH
  632 aARABIC LETTER ZAINcSEENcSHEENcSADcDADcTAHcZAHcAINcGHAINcKEHEH WITH TWO DOTS ABOVE
  63C aARABIC LETTER KEHEH WITH THREE DOTS BELOWcFARSI YEH WITH INVERTED VfTWO DOTS ABOVE
  63F aARABIC LETTER FARSI YEH WITH THREE DOTS ABOVEbTATWEELbLETTER FEHcQAFcKAFcLAMcMEEMcNOONcHEH
  648 aARABIC LETTER WAWcALEF MAKSURAcYEHbFATHATANbDAMMATANbKASRATANbFATHAbDAMMAbKASRAbSHADDA
  652 aARABIC SUKUNbMADDAH ABOVEbHAMZA ABOVEcBELOWbSUBSCRIPT ALEFbINVERTED DAMMAbMARK NOON GHUNNA
  659 aARABIC ZWARAKAYbVOWEL SIGN SMALL V ABOVEdINVERTED SMALL V ABOVEdDOT BELOWbREVERSED DAMMA
  65E aARABIC FATHA WITH TWO DOTSbWAVY HAMZA BELOWaARABIC-INDIC DIGIT ZEROcONEcTWOcTHREEcFOURcFIVE
  666 aARABIC-INDIC DIGIT SIXcSEVENcEIGHTcNINEaARABIC PERCENT SIGNbDECIMAL SEPARATOR
  66C aARABIC THOUSANDS SEPARATORbFIVE POINTED STARbLETTER DOTLESS BEHdQAFcSUPERSCRIPT ALEF
  671 aARABIC LETTER ALEF WASLAdWITH WAVY HAMZA ABOVEgBELOWcHIGH HAMZAeALEFeWAWcU WITH HAMZA ABOVE
  678 aARABIC LETTER HIGH HAMZA YEHcTTEHcTTEHEHcBEEHcTEH WITH RINGeTHREE DOTS ABOVE DOWNWARDScPEH
  67F aARABIC LETTER TEHEHcBEHEHcHAH WITH HAMZA ABOVEeTWO DOTS VERTICAL ABOVEcNYEHcDYEH
  685 aARABIC LETTER HAH WITH THREE DOTS ABOVEcTCHEHcTCHEHEHcDDALcDAL WITH RINGeDOT BELOW
  68B aARABIC LETTER DAL WITH DOT BELOW AND SMALL TAHcDAHALcDDAHALcDUL
  68F aARABIC LETTER DAL WITH THREE DOTS ABOVE DOWNWARDSeFOUR DOTS ABOVEcRREHcREH WITH SMALL V
  693 aARABIC LETTER REH WITH RINGeDOT BELOWeSMALL V BELOWeDOT BELOW AND DOT ABOVEeTWO DOTS ABOVE
  698 aARABIC LETTER JEHcREH WITH FOUR DOTS ABOVEcSEEN WITH DOT BELOW AND DOT ABOVE
  69B aARABIC LETTER SEEN WITH THREE DOTS BELOWhAND THREE DOTS ABOVEcSAD WITH TWO DOTS BELOW
  69E aARABIC LETTER SAD WITH THREE DOTS ABOVEcTAH WITH THREE DOTS ABOVEcAIN WITH THREE DOTS ABOVE
  6A1 aARABIC LETTER DOTLESS FEHcFEH WITH DOT MOVED BELOWfBELOWcVEHcFEH WITH THREE DOTS BELOW
  6A6 aARABIC LETTER PEHEHcQAF WITH DOT ABOVEeTHREE DOTS ABOVEcKEHEHcSWASH KAFcKAF WITH RING
  6AC aARABIC LETTER KAF WITH DOT ABOVEcNGcKAF WITH THREE DOTS BELOWcGAFdWITH RINGcNGOEH
  6B2 aARABIC LETTER GAF WITH TWO DOTS BELOWcGUEHcGAF WITH THREE DOTS ABOVEcLAM WITH SMALL V
  6B6 aARABIC LETTER LAM WITH DOT ABOVEeTHREE DOTS ABOVEgBELOWcNOON WITH DOT BELOWdGHUNNAcRNOON
  6BC aARABIC LETTER NOON WITH RINGeTHREE DOTS ABOVEcHEH DOACHASHMEEcTCHEH WITH DOT ABOVE
  6C0 aARABIC LETTER HEH WITH YEH ABOVEdGOALeWITH HAMZA ABOVEcTEH MARBUTA GOALcWAW WITH RING
  6C5 aARABIC LETTER KIRGHIZ OEcOEcUcYUcKIRGHIZ YUcWAW WITH TWO DOTS ABOVEcVEcFARSI YEH
  6CD aARABIC LETTER YEH WITH TAILeSMALL VcWAW WITH DOT ABOVEcEcYEH WITH THREE DOTS BELOWdBARREE
  6D3 aARABIC LETTER YEH BARREE WITH HAMZA ABOVEbFULL STOPbLETTER AE
  6D6 aARABIC SMALL HIGH LIGATURE SAD WITH LAM WITH ALEF MAKSURAeQAF WITH LAM WITH ALEF MAKSURA
  6D8 aARABIC SMALL HIGH MEEM INITIAL FORMdLAM ALEFdJEEMdTHREE DOTSdSEENbEND OF AYAH
  6DE aARABIC START OF RUB EL HIZBbSMALL HIGH ROUNDED ZEROdUPRIGHT RECTANGULAR ZERO
  6E1 aARABIC SMALL HIGH DOTLESS HEAD OF KHAHdMEEM ISOLATED FORMcLOW SEENcHIGH MADDAcWAWcYEH
  6E7 aARABIC SMALL HIGH YEHdNOONbPLACE OF SAJDAHbEMPTY CENTRE LOW STOPdHIGH STOP
  6EC aARABIC ROUNDED HIGH STOP WITH FILLED CENTREbSMALL LOW MEEMbLETTER DAL WITH INVERTED V
  6EF aARABIC LETTER REH WITH INVERTED VaEXTENDED ARABIC-INDIC DIGIT ZEROdONEdTWOdTHREEdFOURdFIVE
  6F6 aEXTENDED ARABIC-INDIC DIGIT SIXdSEVENdEIGHTdNINEaARABIC LETTER SHEEN WITH DOT BELOW
  6FB aARABIC LETTER DAD WITH DOT BELOWcGHAIN WITH DOT BELOWbSIGN SINDHI AMPERSAND
  6FE aARABIC SIGN SINDHI POSTPOSITION MENbLETTER HEH WITH INVERTED VaSYRIAC END OF PARAGRAPH
  701 aSYRIAC SUPRALINEAR FULL STOPbSUBLINEAR FULL STOPbSUPRALINEAR COLONbSUBLINEAR COLON
  705 aSYRIAC HORIZONTAL COLONbCOLON SKEWED LEFTdRIGHTbSUPRALINEAR COLON SKEWED LEFT
  709 aSYRIAC SUBLINEAR COLON SKEWED RIGHTbCONTRACTIONbHARKLEAN OBELUScMETOBELUScASTERISCUS
  70F aSYRIAC ABBREVIATION MARKbLETTER ALAPHcSUPERSCRIPT ALAPHcBETHcGAMALdGARSHUNIcDALATH
  716 aSYRIAC LETTER DOTLESS DALATH RISHcHEcWAWcZAINcHETHcTETHdGARSHUNIcYUDHdHEcKAPHcLAMADHcMIM
  722 aSYRIAC LETTER NUNcSEMKATHcFINAL SEMKATHcEcPEcREVERSED PEcSADHEcQAPHcRISHcSHINcTAW
  72D aSYRIAC LETTER PERSIAN BHETHdGHAMALdDHALATHbPTHAHA ABOVEcBELOWcDOTTEDbZQAPHA ABOVEcBELOW
  735 aSYRIAC ZQAPHA DOTTEDbRBASA ABOVEcBELOWbDOTTED ZLAMA HORIZONTALdANGULARbHBASA ABOVEcBELOW
  73C aSYRIAC HBASA-ESASA DOTTEDbESASA ABOVEcBELOWbRWAHAbFEMININE DOTbQUSHSHAYAbRUKKAKHA
  743 aSYRIAC TWO VERTICAL DOTS ABOVEeBELOWbTHREE DOTS ABOVEdBELOWbOBLIQUE LINE ABOVEdBELOWbMUSIC
  74A aSYRIAC BARREKH
  74D aSYRIAC LETTER SOGDIAN ZHAINdKHAPHdFEaARABIC LETTER BEH WITH THREE DOTS HORIZONTALLY BELOW
  751 aARABIC LETTER BEH WITH DOT BELOW AND THREE DOTS ABOVEeTHREE DOTS POINTING UPWARDS BELOW
  753 aARABIC LETTER BEH WITH THREE DOTS POINTING UPWARDS BELOW AND TWO DOTS ABOVE
  754 aARABIC LETTER BEH WITH TWO DOTS BELOW AND DOT ABOVEeINVERTED SMALL V BELOWeSMALL V
  757 aARABIC LETTER HAH WITH TWO DOTS ABOVEeTHREE DOTS POINTING UPWARDS BELOW
  759 aARABIC LETTER DAL WITH TWO DOTS VERTICALLY BELOW AND SMALL TAHeINVERTED SMALL V BELOW
  75B aARABIC LETTER REH WITH STROKEcSEEN WITH FOUR DOTS ABOVEcAIN WITH TWO DOTS ABOVE
  75E aARABIC LETTER AIN WITH THREE DOTS POINTING DOWNWARDS ABOVEeTWO DOTS VERTICALLY ABOVE
  760 aARABIC LETTER FEH WITH TWO DOTS BELOWeTHREE DOTS POINTING UPWARDS BELOW
  762 aARABIC LETTER KEHEH WITH DOT ABOVEeTHREE DOTS ABOVEgPOINTING UPWARDS BELOW
  765 aARABIC LETTER MEEM WITH DOT ABOVEfBELOWcNOON WITH TWO DOTS BELOWeSMALL TAHfVcLAM WITH BAR
  76B aARABIC LETTER REH WITH TWO DOTS VERTICALLY ABOVEeHAMZA ABOVE
  76D aARABIC LETTER SEEN WITH TWO DOTS VERTICALLY ABOVEcHAH WITH SMALL ARABIC LETTER TAH BELOW
  76F aARABIC LETTER HAH WITH SMALL ARABIC LETTER TAH AND TWO DOTS
  770 aARABIC LETTER SEEN WITH SMALL ARABIC LETTER TAH AND TWO DOTS
  771 aARABIC LETTER REH WITH SMALL ARABIC LETTER TAH AND TWO DOTS
  772 aARABIC LETTER HAH WITH SMALL ARABIC LETTER TAH ABOVE
  773 aARABIC LETTER ALEF WITH EXTENDED ARABIC-INDIC DIGIT TWO ABOVEhTHREE ABOVE
  775 aARABIC LETTER FARSI YEH WITH EXTENDED ARABIC-INDIC DIGIT TWO ABOVEiTHREE ABOVEiFOUR BELOW
  778 aARABIC LETTER WAW WITH EXTENDED ARABIC-INDIC DIGIT TWO ABOVEhTHREE ABOVE
  77A aARABIC LETTER YEH BARREE WITH EXTENDED ARABIC-INDIC DIGIT TWO ABOVEiTHREE ABOVE
  77C aARABIC LETTER HAH WITH EXTENDED ARABIC-INDIC DIGIT FOUR BELOW
  77D aARABIC LETTER SEEN WITH EXTENDED ARABIC-INDIC DIGIT FOUR ABOVEeINVERTED V
  77F aARABIC LETTER KAF WITH TWO DOTS ABOVEaTHAANA LETTER HAAcSHAVIYANIcNOONUcRAAcBAAcLHAVIYANI
  786 aTHAANA LETTER KAAFUcALIFUcVAAVUcMEEMUcFAAFUcDHAALUcTHAAcLAAMUcGAAFUcGNAVIYANIcSEENU
  791 aTHAANA LETTER DAVIYANIcZAVIYANIcTAVIYANIcYAAcPAVIYANIcJAVIYANIcCHAVIYANIcTTAAcHHAAcKHAA
  79B aTHAANA LETTER THAALUcZAAcSHEENUcSAADHUcDAADHUcTOcZOcAINUcGHAINUcQAAFUcWAAVUbABAFILI
  7A7 aTHAANA AABAAFILIbIBIFILIbEEBEEFILIbUBUFILIbOOBOOFILIbEBEFILIbEYBEYFILIbOBOFILIbOABOAFILI
  7B0 aTHAANA SUKUNbLETTER NAA
  7C0 aNKO DIGIT ZEROcONEcTWOcTHREEcFOURcFIVEcSIXcSEVENcEIGHTcNINEbLETTER AcEEcIcEcUcOOcO
  7D1 aNKO LETTER DAGBASINNAcNcBAcPAcTAcJAcCHAcDAcRAcRRAcSAcGBAcFAcKAcLAcNA WOLOSOcMAcNYAcNAcHAcWA
  7E6 aNKO LETTER YAcNYA WOLOSOcJONA JAdCHAdRAbCOMBINING SHORT HIGH TONEdLOW TONEdRISING TONE
  7EE aNKO COMBINING LONG DESCENDING TONEdHIGH TONEdLOW TONEdRISING TONEcNASALIZATION MARK
  7F3 aNKO COMBINING DOUBLE DOT ABOVEbHIGH TONE APOSTROPHEbLOW TONE APOSTROPHEbSYMBOL OO DENNEN
  7F7 aNKO SYMBOL GBAKURUNENbCOMMAbEXCLAMATION MARKbLAJANYALAN
  7FD aNKO DANTAYALANbDOROME SIGNbTAMAN SIGNaSAMARITAN LETTER ALAFcBITcGAMANcDALATcIYcBAAcZENcIT
  808 aSAMARITAN LETTER TITcYUTcKAAFcLABATcMIMcNUNcSINGAATcINcFIcTSAADIYcQUFcRISHcSHANcTAAF
  816 aSAMARITAN MARK INcIN-ALAFcOCCLUSIONcDAGESHbMODIFIER LETTER EPENTHETIC YUT
  81B aSAMARITAN MARK EPENTHETIC YUTbVOWEL SIGN LONG EdEdOVERLONG AAdLONG AAdAAdOVERLONG AdLONG A
  823 aSAMARITAN VOWEL SIGN AbMODIFIER LETTER SHORT AbVOWEL SIGN SHORT AdLONG UdU
  828 aSAMARITAN MODIFIER LETTER IbVOWEL SIGN LONG IdIdOdSUKUNbMARK NEQUDAA
  830 aSAMARITAN PUNCTUATION NEQUDAAcAFSAAQcANGEDcBAUcATMAAUcSHIYYAALAAbABBREVIATION MARK
  837 aSAMARITAN PUNCTUATION MELODIC QITSAcZIQAAcQITSAcZAEFcTURUcARKAANUcSOF MASHFAATcANNAAU
  840 aMANDAIC LETTER HALQAcABcAGcADcAHcUSHENNAcAZcITcATTcAKSAcAKcALcAMcANcAScINcAPcASZcAQcARcASH
  855 aMANDAIC LETTER ATcDUSHENNAcKADcAINbAFFRICATION MARKbVOCALIZATION MARKbGEMINATION MARK
  85E aMANDAIC PUNCTUATION
  860 aSYRIAC LETTER MALAYALAM NGAdJAdNYAdTTAdNNAdNNNAdBHAdRAdLLAdLLLAdSSA
  870 aARABIC LETTER ALEF WITH ATTACHED FATHAfTOP RIGHT FATHAeRIGHT MIDDLE STROKE
  873 aARABIC LETTER ALEF WITH LEFT MIDDLE STROKEeATTACHED KASRAfBOTTOM RIGHT KASRA
  876 aARABIC LETTER ALEF WITH ATTACHED ROUND DOT ABOVEfRIGHT ROUND DOTfLEFT ROUND DOT
  879 aARABIC LETTER ALEF WITH ATTACHED ROUND DOT BELOWeDOT ABOVE
  87B aARABIC LETTER ALEF WITH ATTACHED TOP RIGHT FATHA AND DOT ABOVE
  87C aARABIC LETTER ALEF WITH RIGHT MIDDLE STROKE AND DOT ABOVE
  87D aARABIC LETTER ALEF WITH ATTACHED BOTTOM RIGHT KASRA AND DOT ABOVE
  87E aARABIC LETTER ALEF WITH ATTACHED TOP RIGHT FATHA AND LEFT RING
  87F aARABIC LETTER ALEF WITH RIGHT MIDDLE STROKE AND LEFT RING
  880 aARABIC LETTER ALEF WITH ATTACHED BOTTOM RIGHT KASRA AND LEFT RINGfRIGHT HAMZAfLEFT HAMZA
  883 aARABIC TATWEEL WITH OVERSTRUCK HAMZAeWAWdTWO DOTS BELOWbLETTER THIN YEHbBASELINE ROUND DOT
  888 aARABIC RAISED ROUND DOTbLETTER NOON WITH INVERTED SMALL VcHAH WITH INVERTED SMALL V BELOW
  88B aARABIC LETTER TAH WITH DOT BELOWeTHREE DOTS BELOWcKEHEH WITH TWO DOTS VERTICALLY BELOW
  88E aARABIC VERTICAL TAIL
  890 aARABIC POUND MARK ABOVEbPIASTRE MARK ABOVE
  898 aARABIC SMALL HIGH WORD AL-JUZcLOW WORD ISHMAAMeIMAALAeTASHEELbMADDA WAAJIB
  89D aARABIC SUPERSCRIPT ALEF MOKHASSASbDOUBLED MADDAbHALF MADDA OVER MADDA
  8A0 aARABIC LETTER BEH WITH SMALL V BELOWeHAMZA ABOVEcJEEM WITH TWO DOTS ABOVE
  8A3 aARABIC LETTER TAH WITH TWO DOTS ABOVEcFEH WITH DOT BELOW AND THREE DOTS ABOVE
  8A5 aARABIC LETTER QAF WITH DOT BELOWcLAM WITH DOUBLE BARcMEEM WITH THREE DOTS ABOVE
  8A8 aARABIC LETTER YEH WITH TWO DOTS BELOW AND HAMZA ABOVEiDOT ABOVEcREH WITH LOOP
  8AB aARABIC LETTER WAW WITH DOT WITHINcROHINGYA YEHcLOW ALEFcDAL WITH THREE DOTS BELOW
  8AF aARABIC LETTER SAD WITH THREE DOTS BELOWcGAF WITH INVERTED STROKEcSTRAIGHT WAW
  8B2 aARABIC LETTER ZAIN WITH INVERTED V ABOVEcAIN WITH THREE DOTS BELOWcKAF WITH DOT BELOW
  8B5 aARABIC LETTER QAF WITH DOT BELOW AND NO DOTS ABOVEcBEH WITH SMALL MEEM ABOVE
  8B7 aARABIC LETTER PEH WITH SMALL MEEM ABOVEcTEH WITH SMALL TEH ABOVEcREH WITH SMALL NOON ABOVE
  8BA aARABIC LETTER YEH WITH TWO DOTS BELOW AND SMALL NOON ABOVEcAFRICAN FEHdQAFdNOON
  8BE aARABIC LETTER PEH WITH SMALL VcTEH WITH SMALL VcTTEH WITH SMALL VcTCHEH WITH SMALL V
  8C2 aARABIC LETTER KEHEH WITH SMALL VcGHAIN WITH THREE DOTS ABOVE
  8C4 aARABIC LETTER AFRICAN QAF WITH THREE DOTS ABOVEcJEEM WITH THREE DOTS ABOVEgBELOW
  8C7 aARABIC LETTER LAM WITH SMALL ARABIC LETTER TAH ABOVEcGRAFbSMALL FARSI YEHcHIGH FARSI YEH
  8CB aARABIC SMALL HIGH YEH BARREE WITH TWO DOTS BELOWdWORD SAHdZAHbLARGE ROUND DOT ABOVEeBELOW
  8D0 aARABIC SUKUN BELOWbLARGE CIRCLE BELOWcROUND DOT INSIDE CIRCLE BELOWbSMALL LOW WAW
  8D4 aARABIC SMALL HIGH WORD AR-RUBdSADdAINdQAFdNOON WITH KASRAcLOW NOON WITH KASRA
  8DA aARABIC SMALL HIGH WORD ATH-THALATHAeAS-SAJDAeAN-NISFeSAKTAeQIFeWAQFAdFOOTNOTE MARKER
  8E1 aARABIC SMALL HIGH SIGN SAFHAbDISPUTED END OF AYAHbTURNED DAMMA BELOWbCURLY FATHAcDAMMA
  8E6 aARABIC CURLY KASRAcFATHATANcDAMMATANcKASRATANbTONE ONE DOT ABOVEcTWO DOTS ABOVEcLOOP ABOVE
  8ED aARABIC TONE ONE DOT BELOWcTWO DOTS BELOWcLOOP BELOWbOPEN FATHATANcDAMMATANcKASRATAN
  8F3 aARABIC SMALL HIGH WAWbFATHA WITH RINGdDOT ABOVEbKASRA WITH DOT BELOWbLEFT ARROWHEAD ABOVE
  8F8 aARABIC RIGHT ARROWHEAD ABOVEbLEFT ARROWHEAD BELOWbRIGHT ARROWHEAD BELOW
  8FB aARABIC DOUBLE RIGHT ARROWHEAD ABOVEfWITH DOTbRIGHT ARROWHEAD ABOVE WITH DOTbDAMMA WITH DOT
  8FF aARABIC MARK SIDEWAYS NOON GHUNNAaDEVANAGARI SIGN INVERTED CANDRABINDUcCANDRABINDUcANUSVARA
  903 aDEVANAGARI SIGN VISARGAbLETTER SHORT AcAcAAcIcIIcUcUUcVOCALIC RdLcCANDRA EcSHORT EcEcAI
  911 aDEVANAGARI LETTER CANDRA OcSHORT OcOcAUcKAcKHAcGAcGHAcNGAcCAcCHAcJAcJHAcNYAcTTAcTTHAcDDA
  922 aDEVANAGARI LETTER DDHAcNNAcTAcTHAcDAcDHAcNAcNNNAcPAcPHAcBAcBHAcMAcYAcRAcRRAcLAcLLAcLLLAcVA
  936 aDEVANAGARI LETTER SHAcSSAcSAcHAbVOWEL SIGN OEdOOEbSIGN NUKTAcAVAGRAHAbVOWEL SIGN AAdIdIIdU
  942 aDEVANAGARI VOWEL SIGN UUdVOCALIC ReRRdCANDRA EdSHORT EdEdAIdCANDRA OdSHORT OdOdAU
  94D aDEVANAGARI SIGN VIRAMAbVOWEL SIGN PRISHTHAMATRA EdAWbOMbSTRESS SIGN UDATTAdANUDATTA
  953 aDEVANAGARI GRAVE ACCENTbACUTE ACCENTbVOWEL SIGN CANDRA LONG EdUEdUUEbLETTER QAcKHHAcGHHAcZA
  95C aDEVANAGARI LETTER DDDHAcRHAcFAcYYAcVOCALIC RRdLLbVOWEL SIGN VOCALIC LeLLbDANDAbDOUBLE DANDA
  966 aDEVANAGARI DIGIT ZEROcONEcTWOcTHREEcFOURcFIVEcSIXcSEVENcEIGHTcNINEbABBREVIATION SIGN
  971 aDEVANAGARI SIGN HIGH SPACING DOTbLETTER CANDRA AcOEcOOEcAWcUEcUUEcMARWARI DDAcZHAcHEAVY YA
  97B aDEVANAGARI LETTER GGAcJJAcGLOTTAL STOPcDDDAcBBAaBENGALI ANJIbSIGN CANDRABINDUcANUSVARA
  983 aBENGALI SIGN VISARGA
  985 aBENGALI LETTER AcAAcIcIIcUcUUcVOCALIC RdL
  98F aBENGALI LETTER EcAI
  993 aBENGALI LETTER OcAUcKAcKHAcGAcGHAcNGAcCAcCHAcJAcJHAcNYAcTTAcTTHAcDDAcDDHAcNNAcTAcTHAcDAcDHA
  9A8 aBENGALI LETTER NA
  9AA aBENGALI LETTER PAcPHAcBAcBHAcMAcYAcRA
  9B2 aBENGALI LETTER LA
  9B6 aBENGALI LETTER SHAcSSAcSAcHA
  9BC aBENGALI SIGN NUKTAcAVAGRAHAbVOWEL SIGN AAdIdIIdUdUUdVOCALIC ReRR
  9C7 aBENGALI VOWEL SIGN EdAI
  9CB aBENGALI VOWEL SIGN OdAUbSIGN VIRAMAbLETTER KHANDA TA
  9D7 aBENGALI AU LENGTH MARK
  9DC aBENGALI LETTER RRAcRHA
  9DF aBENGALI LETTER YYAcVOCALIC RRdLLbVOWEL SIGN VOCALIC LeLL
  9E6 aBENGALI DIGIT ZEROcONEcTWOcTHREEcFOURcFIVEcSIXcSEVENcEIGHTcNINE
  9F0 aBENGALI LETTER RA WITH MIDDLE DIAGONALeLOWER DIAGONALbRUPEE MARKcSIGN
  9F4 aBENGALI CURRENCY NUMERATOR ONEdTWOdTHREEdFOURdONE LESS THAN THE DENOMINATOR
  9F9 aBENGALI CURRENCY DENOMINATOR SIXTEENbISSHARbGANDA MARKbLETTER VEDIC ANUSVARA
  9FD aBENGALI ABBREVIATION SIGNbSANDHI MARK
  A01 aGURMUKHI SIGN ADAK BINDIcBINDIcVISARGA
  A05 aGURMUKHI LETTER AcAAcIcIIcUcUU
  A0F aGURMUKHI LETTER EEcAI
  A13 aGURMUKHI LETTER OOcAUcKAcKHAcGAcGHAcNGAcCAcCHAcJAcJHAcNYAcTTAcTTHAcDDAcDDHAcNNAcTAcTHAcDA
  A27 aGURMUKHI LETTER DHAcNA
  A2A aGURMUKHI LETTER PAcPHAcBAcBHAcMAcYAcRA
  A32 aGURMUKHI LETTER LAcLLA
  A35 aGURMUKHI LETTER VAcSHA
  A38 aGURMUKHI LETTER SAcHA
  A3C aGURMUKHI SIGN NUKTA
  A3E aGURMUKHI VOWEL SIGN AAdIdIIdUdUU
  A47 aGURMUKHI VOWEL SIGN EEdAI
  A4B aGURMUKHI VOWEL SIGN OOdAUbSIGN VIRAMA
  A51 aGURMUKHI SIGN UDAAT
  A59 aGURMUKHI LETTER KHHAcGHHAcZAcRRA
  A5E aGURMUKHI LETTER FA
  A66 aGURMUKHI DIGIT ZEROcONEcTWOcTHREEcFOURcFIVEcSIXcSEVENcEIGHTcNINEbTIPPIbADDAKbIRIbURA
  A74 aGURMUKHI EK ONKARbSIGN YAKASHbABBREVIATION SIGN
  A81 aGUJARATI SIGN CANDRABINDUcANUSVARAcVISARGA
  A85 aGUJARATI LETTER AcAAcIcIIcUcUUcVOCALIC RdLbVOWEL CANDRA E
  A8F aGUJARATI LETTER EcAIbVOWEL CANDRA O
  A93 aGUJARATI LETTER OcAUcKAcKHAcGAcGHAcNGAcCAcCHAcJAcJHAcNYAcTTAcTTHAcDDAcDDHAcNNAcTAcTHAcDA
  AA7 aGUJARATI LETTER DHAcNA
  AAA aGUJARATI LETTER PAcPHAcBAcBHAcMAcYAcRA
  AB2 aGUJARATI LETTER LAcLLA
  AB5 aGUJARATI LETTER VAcSHAcSSAcSAcHA
  ABC aGUJARATI SIGN NUKTAcAVAGRAHAbVOWEL SIGN AAdIdIIdUdUUdVOCALIC ReRRdCANDRA E
  AC7 aGUJARATI VOWEL SIGN EdAIdCANDRA O
  ACB aGUJARATI VOWEL SIGN OdAUbSIGN VIRAMA
  AD0 aGUJARATI OM
  AE0 aGUJARATI LETTER VOCALIC RRdLLbVOWEL SIGN VOCALIC LeLL
  AE6 aGUJARATI DIGIT ZEROcONEcTWOcTHREEcFOURcFIVEcSIXcSEVENcEIGHTcNINEbABBREVIATION SIGN
  AF1 aGUJARATI RUPEE SIGN
  AF9 aGUJARATI LETTER ZHAbSIGN SUKUNcSHADDAcMADDAHcTHREE-DOT NUKTA ABOVEcCIRCLE NUKTA ABOVE
  AFF aGUJARATI SIGN TWO-CIRCLE NUKTA ABOVE
  B01 aORIYA SIGN CANDRABINDUcANUSVARAcVISARGA
  B05 aORIYA LETTER AcAAcIcIIcUcUUcVOCALIC RdL
  B0F aORIYA LETTER EcAI
  B13 aORIYA LETTER OcAUcKAcKHAcGAcGHAcNGAcCAcCHAcJAcJHAcNYAcTTAcTTHAcDDAcDDHAcNNAcTAcTHAcDAcDHA
  B28 aORIYA LETTER NA
  B2A aORIYA LETTER PAcPHAcBAcBHAcMAcYAcRA
  B32 aORIYA LETTER LAcLLA
  B35 aORIYA LETTER VAcSHAcSSAcSAcHA
  B3C aORIYA SIGN NUKTAcAVAGRAHAbVOWEL SIGN AAdIdIIdUdUUdVOCALIC ReRR
  B47 aORIYA VOWEL SIGN EdAI
  B4B aORIYA VOWEL SIGN OdAUbSIGN VIRAMA
  B55 aORIYA SIGN OVERLINEbAI LENGTH MARKbAU LENGTH MARK
  B5C aORIYA LETTER RRAcRHA
  B5F aORIYA LETTER YYAcVOCALIC RRdLLbVOWEL SIGN VOCALIC LeLL
  B66 aORIYA DIGIT ZEROcONEcTWOcTHREEcFOURcFIVEcSIXcSEVENcEIGHTcNINEbISSHARbLETTER WA
  B72 aORIYA FRACTION ONE QUARTERdHALFcTHREE QUARTERScONE SIXTEENTHdEIGHTHcTHREE SIXTEENTHS
  B82 aTAMIL SIGN ANUSVARAcVISARGA
  B85 aTAMIL LETTER AcAAcIcIIcUcUU
  B8E aTAMIL LETTER EcEEcAI
  B92 aTAMIL LETTER OcOOcAUcKA
  B99 aTAMIL LETTER NGAcCA
  B9C aTAMIL LETTER JA
  B9E aTAMIL LETTER NYAcTTA
  BA3 aTAMIL LETTER NNAcTA
  BA8 aTAMIL LETTER NAcNNNAcPA
  BAE aTAMIL LETTER MAcYAcRAcRRAcLAcLLAcLLLAcVAcSHAcSSAcSAcHA
  BBE aTAMIL VOWEL SIGN AAdIdIIdUdUU
  BC6 aTAMIL VOWEL SIGN EdEEdAI
  BCA aTAMIL VOWEL SIGN OdOOdAUbSIGN VIRAMA
  BD0 aTAMIL OM
  BD7 aTAMIL AU LENGTH MARK
  BE6 aTAMIL DIGIT ZEROcONEcTWOcTHREEcFOURcFIVEcSIXcSEVENcEIGHTcNINEbNUMBER TENcONE HUNDRED
  BF2 aTAMIL NUMBER ONE THOUSANDbDAY SIGNbMONTH SIGNbYEAR SIGNbDEBIT SIGNbCREDIT SIGN
  BF8 aTAMIL AS ABOVE SIGNbRUPEE SIGNbNUMBER SIGN
  C00 aTELUGU SIGN COMBINING CANDRABINDU ABOVEcCANDRABINDUcANUSVARAcVISARGA
  C04 aTELUGU SIGN COMBINING ANUSVARA ABOVEbLETTER AcAAcIcIIcUcUUcVOCALIC RdL
  C0E aTELUGU LETTER EcEEcAI
  C12 aTELUGU LETTER OcOOcAUcKAcKHAcGAcGHAcNGAcCAcCHAcJAcJHAcNYAcTTAcTTHAcDDAcDDHAcNNAcTAcTHAcDA
  C27 aTELUGU LETTER DHAcNA
  C2A aTELUGU LETTER PAcPHAcBAcBHAcMAcYAcRAcRRAcLAcLLAcLLLAcVAcSHAcSSAcSAcHA
  C3C aTELUGU SIGN NUKTAcAVAGRAHAbVOWEL SIGN AAdIdIIdUdUUdVOCALIC ReRR
  C46 aTELUGU VOWEL SIGN EdEEdAI
  C4A aTELUGU VOWEL SIGN OdOOdAUbSIGN VIRAMA
  C55 aTELUGU LENGTH MARKbAI LENGTH MARK
  C58 aTELUGU LETTER TSAcDZAcRRRA
  C5D aTELUGU LETTER NAKAARA POLLU
  C60 aTELUGU LETTER VOCALIC RRdLLbVOWEL SIGN VOCALIC LeLL
  C66 aTELUGU DIGIT ZEROcONEcTWOcTHREEcFOURcFIVEcSIXcSEVENcEIGHTcNINE
  C77 aTELUGU SIGN SIDDHAMbFRACTION DIGIT ZERO FOR ODD POWERS OF FOURdONE FOR ODD POWERS OF FOUR
  C7A aTELUGU FRACTION DIGIT TWO FOR ODD POWERS OF FOURdTHREE FOR ODD POWERS OF FOUR
  C7C aTELUGU FRACTION DIGIT ONE FOR EVEN POWERS OF FOURdTWO FOR EVEN POWERS OF FOUR
  C7E aTELUGU FRACTION DIGIT THREE FOR EVEN POWERS OF FOURbSIGN TUUMU
  C80 aKANNADA SIGN SPACING CANDRABINDUcCANDRABINDUcANUSVARAcVISARGAcSIDDHAMbLETTER AcAAcIcIIcUcUU
  C8B aKANNADA LETTER VOCALIC RdL
  C8E aKANNADA LETTER EcEEcAI
  C92 aKANNADA LETTER OcOOcAUcKAcKHAcGAcGHAcNGAcCAcCHAcJAcJHAcNYAcTTAcTTHAcDDAcDDHAcNNAcTAcTHAcDA
  CA7 aKANNADA LETTER DHAcNA
  CAA aKANNADA LETTER PAcPHAcBAcBHAcMAcYAcRAcRRAcLAcLLA
  CB5 aKANNADA LETTER VAcSHAcSSAcSAcHA
  CBC aKANNADA SIGN NUKTAcAVAGRAHAbVOWEL SIGN AAdIdIIdUdUUdVOCALIC ReRR
  CC6 aKANNADA VOWEL SIGN EdEEdAI
  CCA aKANNADA VOWEL SIGN OdOOdAUbSIGN VIRAMA
  CD5 aKANNADA LENGTH MARKbAI LENGTH MARK
  CDD aKANNADA LETTER NAKAARA POLLUcFA
  CE0 aKANNADA LETTER VOCALIC RRdLLbVOWEL SIGN VOCALIC LeLL
  CE6 aKANNADA DIGIT ZEROcONEcTWOcTHREEcFOURcFIVEcSIXcSEVENcEIGHTcNINE
  CF1 aKANNADA SIGN JIHVAMULIYAcUPADHMANIYA
  D00 aMALAYALAM SIGN COMBINING ANUSVARA ABOVEcCANDRABINDUcANUSVARAcVISARGAbLETTER VEDIC ANUSVARA
  D05 aMALAYALAM LETTER AcAAcIcIIcUcUUcVOCALIC RdL
  D0E aMALAYALAM LETTER EcEEcAI
  D12 aMALAYALAM LETTER OcOOcAUcKAcKHAcGAcGHAcNGAcCAcCHAcJAcJHAcNYAcTTAcTTHAcDDAcDDHAcNNAcTAcTHA
  D26 aMALAYALAM LETTER DAcDHAcNAcNNNAcPAcPHAcBAcBHAcMAcYAcRAcRRAcLAcLLAcLLLAcVAcSHAcSSAcSAcHA
  D3A aMALAYALAM LETTER TTTAbSIGN VERTICAL BAR VIRAMAcCIRCULAR VIRAMAcAVAGRAHAbVOWEL SIGN AAdIdII
  D41 aMALAYALAM VOWEL SIGN UdUUdVOCALIC ReRR
  D46 aMALAYALAM VOWEL SIGN EdEEdAI
  D4A aMALAYALAM VOWEL SIGN OdOOdAUbSIGN VIRAMAbLETTER DOT REPHbSIGN PARA
  D54 aMALAYALAM LETTER CHILLU MdYdLLLbAU LENGTH MARKbFRACTION ONE ONE-HUNDRED-AND-SIXTIETH
  D59 aMALAYALAM FRACTION ONE FORTIETHcTHREE EIGHTIETHScONE TWENTIETHdTENTHcTHREE TWENTIETHS
  D5E aMALAYALAM FRACTION ONE FIFTHbLETTER ARCHAIC IIcVOCALIC RRdLLbVOWEL SIGN VOCALIC LeLL
  D66 aMALAYALAM DIGIT ZEROcONEcTWOcTHREEcFOURcFIVEcSIXcSEVENcEIGHTcNINEbNUMBER TENcONE HUNDRED
  D72 aMALAYALAM NUMBER ONE THOUSANDbFRACTION ONE QUARTERdHALFcTHREE QUARTERScONE SIXTEENTHdEIGHTH
  D78 aMALAYALAM FRACTION THREE SIXTEENTHSbDATE MARKbLETTER CHILLU NNdNdRRdLdLLdK
  D81 aSINHALA SIGN CANDRABINDUcANUSVARAYAcVISARGAYA
  D85 aSINHALA LETTER AYANNAcAAYANNAcAEYANNAcAEEYANNAcIYANNAcIIYANNAcUYANNAcUUYANNAcIRUYANNA
  D8E aSINHALA LETTER IRUUYANNAcILUYANNAcILUUYANNAcEYANNAcEEYANNAcAIYANNAcOYANNAcOOYANNAcAUYANNA
  D9A aSINHALA LETTER ALPAPRAANA KAYANNAcMAHAAPRAANA KAYANNAcALPAPRAANA GAYANNA
  D9D aSINHALA LETTER MAHAAPRAANA GAYANNAcKANTAJA NAASIKYAYAcSANYAKA GAYANNAcALPAPRAANA CAYANNA
  DA1 aSINHALA LETTER MAHAAPRAANA CAYANNAcALPAPRAANA JAYANNAcMAHAAPRAANA JAYANNA
  DA4 aSINHALA LETTER TAALUJA NAASIKYAYAdSANYOOGA NAAKSIKYAYAcSANYAKA JAYANNAcALPAPRAANA TTAYANNA
  DA8 aSINHALA LETTER MAHAAPRAANA TTAYANNAcALPAPRAANA DDAYANNAcMAHAAPRAANA DDAYANNA
  DAB aSINHALA LETTER MUURDHAJA NAYANNAcSANYAKA DDAYANNAcALPAPRAANA TAYANNAcMAHAAPRAANA TAYANNA
  DAF aSINHALA LETTER ALPAPRAANA DAYANNAcMAHAAPRAANA DAYANNAcDANTAJA NAYANNA
  DB3 aSINHALA LETTER SANYAKA DAYANNAcALPAPRAANA PAYANNAcMAHAAPRAANA PAYANNAcALPAPRAANA BAYANNA
  DB7 aSINHALA LETTER MAHAAPRAANA BAYANNAcMAYANNAcAMBA BAYANNAcYAYANNAcRAYANNA
  DBD aSINHALA LETTER DANTAJA LAYANNA
  DC0 aSINHALA LETTER VAYANNAcTAALUJA SAYANNAcMUURDHAJA SAYANNAcDANTAJA SAYANNAcHAYANNA
  DC5 aSINHALA LETTER MUURDHAJA LAYANNAcFAYANNA
  DCA aSINHALA SIGN AL-LAKUNA
  DCF aSINHALA VOWEL SIGN AELA-PILLAdKETTI AEDA-PILLAdDIGA AEDA-PILLAdKETTI IS-PILLAdDIGA IS-PILLA
  DD4 aSINHALA VOWEL SIGN KETTI PAA-PILLA
  DD6 aSINHALA VOWEL SIGN DIGA PAA-PILLA
  DD8 aSINHALA VOWEL SIGN GAETTA-PILLAdKOMBUVAdDIGA KOMBUVAdKOMBU DEKAdKOMBUVA HAA AELA-PILLA
  DDD aSINHALA VOWEL SIGN KOMBUVA HAA DIGA AELA-PILLAfGAYANUKITTAdGAYANUKITTA
  DE6 aSINHALA LITH DIGIT ZEROdONEdTWOdTHREEdFOURdFIVEdSIXdSEVENdEIGHTdNINE
  DF2 aSINHALA VOWEL SIGN DIGA GAETTA-PILLAeGAYANUKITTAbPUNCTUATION KUNDDALIYA
  E01 aTHAI CHARACTER KO KAIcKHO KHAIdKHUATdKHWAIdKHONdRAKHANGcNGO NGUcCHO CHANdCHINGdCHANGcSO SO
  E0C aTHAI CHARACTER CHO CHOEcYO YINGcDO CHADAcTO PATAKcTHO THANdNANGMONTHOdPHUTHAOcNO NENcDO DEK
  E15 aTHAI CHARACTER TO TAOcTHO THUNGdTHAHANdTHONGcNO NUcBO BAIMAIcPO PLAcPHO PHUNGcFO FA
  E1E aTHAI CHARACTER PHO PHANcFO FANcPHO SAMPHAOcMO MAcYO YAKcRO RUAcRUcLO LINGcLUcWO WAEN
  E28 aTHAI CHARACTER SO SALAdRUSIdSUAcHO HIPcLO CHULAcO ANGcHO NOKHUKcPAIYANNOIcSARA A
  E31 aTHAI CHARACTER MAI HAN-AKATcSARA AAdAMdIdIIdUEdUEEdUdUUcPHINTHU
  E3F aTHAI CURRENCY SYMBOL BAHTbCHARACTER SARA EdAEdOdAI MAIMUANeMAIMALAIcLAKKHANGYAOcMAIYAMOK
  E47 aTHAI CHARACTER MAITAIKHUcMAI EKdTHOdTRIdCHATTAWAcTHANTHAKHATcNIKHAHITcYAMAKKANcFONGMAN
  E50 aTHAI DIGIT ZEROcONEcTWOcTHREEcFOURcFIVEcSIXcSEVENcEIGHTcNINEbCHARACTER ANGKHANKHUcKHOMUT
  E81 aLAO LETTER KOcKHO SUNG
  E84 aLAO LETTER KHO TAM
  E86 aLAO LETTER PALI GHAcNGOcCOcPALI CHAcSO TAM
  E8C aLAO LETTER PALI JHAcNYOcPALI NYAdTTAdTTHAdDDAdDDHAdNNAcDOcTOcTHO SUNGdTAMcPALI DHAcNOcBOcPO
  E9C aLAO LETTER PHO SUNGcFO TAMcPHO TAMcFO SUNGcPALI BHAcMOcYOcLO LING
  EA5 aLAO LETTER LO LOOT
  EA7 aLAO LETTER WOcSANSKRIT SHAdSSAcSO SUNGcHO SUNGcPALI LLAcOcHO TAMbELLIPSISbVOWEL SIGN A
  EB1 aLAO VOWEL SIGN MAI KANdAAdAMdIdIIdYdYYdUdUUbSIGN PALI VIRAMAbVOWEL SIGN MAI KON
  EBC aLAO SEMIVOWEL SIGN LOdNYO
  EC0 aLAO VOWEL SIGN EdEIdOdAYdAI
  EC6 aLAO KO LA
  EC8 aLAO TONE MAI EKdTHOdTIdCATAWAbCANCELLATION MARKbNIGGAHITA
  ED0 aLAO DIGIT ZEROcONEcTWOcTHREEcFOURcFIVEcSIXcSEVENcEIGHTcNINE
  EDC aLAO HO NOcMObLETTER KHMU GOdNYO
  F00 aTIBETAN SYLLABLE OMbMARK GTER YIG MGO TRUNCATED Af-UM RNAM BCAD MAgGTER TSHEG MA
  F04 aTIBETAN MARK INITIAL YIG MGO MDUN MAcCLOSING YIG MGO SGAB MAcCARET YIG MGO PHUR SHAD MA
  F07 aTIBETAN MARK YIG MGO TSHEG SHAD MAcSBRUL SHADcBSKUR YIG MGOcBKA- SHOG YIG MGO
  F0B aTIBETAN MARK INTERSYLLABIC TSHEGcDELIMITER TSHEG BSTARcSHADcNYIS SHADcTSHEG SHAD
  F10 aTIBETAN MARK NYIS TSHEG SHADcRIN CHEN SPUNGS SHADcRGYA GRAM SHAD
  F13 aTIBETAN MARK CARET -DZUD RTAGS ME LONG CANcGTER TSHEGbLOGOTYPE SIGN CHAD RTAGSdLHAG RTAGS
  F17 aTIBETAN ASTROLOGICAL SIGN SGRA GCAN -CHAR RTAGSd-KHYUD PAdSDONG TSHUGSbSIGN RDEL DKAR GCIG
  F1B aTIBETAN SIGN RDEL DKAR GNYISeGSUMdNAG GCIGeGNYISdDKAR RDEL NAGbDIGIT ZEROcONEcTWOcTHREE
  F24 aTIBETAN DIGIT FOURcFIVEcSIXcSEVENcEIGHTcNINEcHALF ONEdTWOdTHREEdFOURdFIVEdSIXdSEVENdEIGHT
  F32 aTIBETAN DIGIT HALF NINEdZERObMARK BSDUS RTAGScNGAS BZUNG NYI ZLA
  F36 aTIBETAN MARK CARET -DZUD RTAGS BZHI MIG CANcNGAS BZUNG SGOR RTAGScCHE MGOcTSA -PHRU
  F3A aTIBETAN MARK GUG RTAGS GYONeGYAScANG KHANG GYONeGYASbSIGN YAR TSHEScMAR TSHESbLETTER KAcKHA
  F42 aTIBETAN LETTER GAcGHAcNGAcCAcCHAcJA
  F49 aTIBETAN LETTER NYAcTTAcTTHAcDDAcDDHAcNNAcTAcTHAcDAcDHAcNAcPAcPHAcBAcBHAcMAcTSAcTSHAcDZA
  F5C aTIBETAN LETTER DZHAcWAcZHAcZAc-AcYAcRAcLAcSHAcSSAcSAcHAcAcKSSAcFIXED-FORM RAcKKAcRRA
  F71 aTIBETAN VOWEL SIGN AAdIdIIdUdUUdVOCALIC ReRReLeLLdEdEEdOdOObSIGN RJES SU NGA ROcRNAM BCAD
  F80 aTIBETAN VOWEL SIGN REVERSED IeIIbSIGN NYI ZLA NAA DAcSNA LDANbMARK HALANTAcPALUTA
  F86 aTIBETAN SIGN LCI RTAGScYANG RTAGScLCE TSA CANcMCHU CANcGRU CAN RGYINGSdMED RGYINGS
  F8C aTIBETAN SIGN INVERTED MCHU CANbSUBJOINED SIGN LCE TSA CANdMCHU CANdINVERTED MCHU CAN
  F90 aTIBETAN SUBJOINED LETTER KAdKHAdGAdGHAdNGAdCAdCHAdJA
  F99 aTIBETAN SUBJOINED LETTER NYAdTTAdTTHAdDDAdDDHAdNNAdTAdTHAdDAdDHAdNAdPAdPHAdBAdBHAdMAdTSA
  FAA aTIBETAN SUBJOINED LETTER TSHAdDZAdDZHAdWAdZHAdZAd-AdYAdRAdLAdSHAdSSAdSAdHAdAdKSSA
  FBA aTIBETAN SUBJOINED LETTER FIXED-FORM WAeYAeRA
  FBE aTIBETAN KU RU KHAeBZHI MIG CANbCANTILLATION SIGN HEAVY BEATdLIGHT BEATdCANG TE-UdSBUB -CHAL
  FC4 aTIBETAN SYMBOL DRIL BUcRDO RJEcPADMA GDANcRDO RJE RGYA GRAMcPHUR PAcNOR BUeNYIS -KHYIL
  FCB aTIBETAN SYMBOL NOR BU GSUM -KHYILeBZHI -KHYIL
  FCE aTIBETAN SIGN RDEL NAG RDEL DKAReGSUMbMARK BSKA- SHOG GI MGO RGYANcMNYAM YIG GI MGO RGYAN
  FD2 aTIBETAN MARK NYIS TSHEGcINITIAL BRDA RNYING YIG MGO MDUN MA
  FD4 aTIBETAN MARK CLOSING BRDA RNYING YIG MGO SGAB MAaRIGHT-FACING SVASTI SIGN
  FD6 aLEFT-FACING SVASTI SIGNaRIGHT-FACING SVASTI SIGN WITH DOTS
  FD8 aLEFT-FACING SVASTI SIGN WITH DOTSaTIBETAN MARK LEADING MCHAN RTAGScTRAILING MCHAN RTAGS
  1000 aMYANMAR LETTER KAcKHAcGAcGHAcNGAcCAcCHAcJAcJHAcNYAcNNYAcTTAcTTHAcDDAcDDHAcNNAcTAcTHAcDA
  1013 aMYANMAR LETTER DHAcNAcPAcPHAcBAcBHAcMAcYAcRAcLAcWAcSAcHAcLLAcAcSHAN AcIcIIcUcUUcEcMON EcO
  102A aMYANMAR LETTER AUbVOWEL SIGN TALL AAdAAdIdIIdUdUUdEdAIdMON IIeOdE ABOVEbSIGN ANUSVARA
  1037 aMYANMAR SIGN DOT BELOWcVISARGAcVIRAMAcASATbCONSONANT SIGN MEDIAL YAeRAeWAeHA
  103F aMYANMAR LETTER GREAT SAbDIGIT ZEROcONEcTWOcTHREEcFOURcFIVEcSIXcSEVENcEIGHTcNINE
  104A aMYANMAR SIGN LITTLE SECTIONcSECTIONbSYMBOL LOCATIVEcCOMPLETEDcAFOREMENTIONEDcGENITIVE
  1050 aMYANMAR LETTER SHAcSSAcVOCALIC RdRRdLdLLbVOWEL SIGN VOCALIC ReRReLeLLbLETTER MON NGAdJHA
  105C aMYANMAR LETTER MON BBAdBBEbCONSONANT SIGN MON MEDIAL NAfMAfLAbLETTER SGAW KAREN SHA
  1062 aMYANMAR VOWEL SIGN SGAW KAREN EUbTONE MARK SGAW KAREN HATHIfKE PHO
  1065 aMYANMAR LETTER WESTERN PWO KAREN THAfPWAbVOWEL SIGN WESTERN PWO KAREN EUgUE
  1069 aMYANMAR SIGN WESTERN PWO KAREN TONE-1fTONE-2fTONE-3fTONE-4fTONE-5
  106E aMYANMAR LETTER EASTERN PWO KAREN NNAfYWAfGHWAbVOWEL SIGN GEBA KAREN IdKAYAH OEeUeEE
  1075 aMYANMAR LETTER SHAN KAdKHAdGAdCAdZAdNYAdDAdNAdPHAdFAdBAdTHAdHA
  1082 aMYANMAR CONSONANT SIGN SHAN MEDIAL WAbVOWEL SIGN SHAN AAeEfABOVEeFINAL YbSIGN SHAN TONE-2
  1088 aMYANMAR SIGN SHAN TONE-3dTONE-5dTONE-6dCOUNCIL TONE-2eTONE-3eEMPHATIC TONE
  108E aMYANMAR LETTER RUMAI PALAUNG FAbSIGN RUMAI PALAUNG TONE-5bSHAN DIGIT ZEROdONEdTWOdTHREE
  1094 aMYANMAR SHAN DIGIT FOURdFIVEdSIXdSEVENdEIGHTdNINEbSIGN KHAMTI TONE-1dTONE-3
  109C aMYANMAR VOWEL SIGN AITON AeAIbSYMBOL SHAN ONEdEXCLAMATIONaGEORGIAN CAPITAL LETTER ANdBAN
  10A2 aGEORGIAN CAPITAL LETTER GANdDONdENdVINdZENdTANdINdKANdLASdMANdNARdONdPARdZHARdRAEdSANdTAR
  10B3 aGEORGIAN CAPITAL LETTER UNdPHARdKHARdGHANdQARdSHINdCHINdCANdJILdCILdCHARdXANdJHANdHAEdHE
  10C2 aGEORGIAN CAPITAL LETTER HIEdWEdHARdHOE
  10C7 aGEORGIAN CAPITAL LETTER YN
  10CD aGEORGIAN CAPITAL LETTER AEN
  10D0 aGEORGIAN LETTER ANcBANcGANcDONcENcVINcZENcTANcINcKANcLAScMANcNARcONcPARcZHARcRAEcSANcTAR
  10E3 aGEORGIAN LETTER UNcPHARcKHARcGHANcQARcSHINcCHINcCANcJILcCILcCHARcXANcJHANcHAEcHEcHIEcWE
  10F4 aGEORGIAN LETTER HARcHOEcFIcYNcELIFIcTURNED GANcAINbPARAGRAPH SEPARATOR
  10FC aMODIFIER LETTER GEORGIAN NARaGEORGIAN LETTER AENcHARD SIGNcLABIAL SIGN
  1100 aHANGUL CHOSEONG KIYEOKcSSANGKIYEOKcNIEUNcTIKEUTcSSANGTIKEUTcRIEULcMIEUMcPIEUPcSSANGPIEUP
  1109 aHANGUL CHOSEONG SIOScSSANGSIOScIEUNGcCIEUCcSSANGCIEUCcCHIEUCHcKHIEUKHcTHIEUTHcPHIEUPH
  1112 aHANGUL CHOSEONG HIEUHcNIEUN-KIYEOKcSSANGNIEUNcNIEUN-TIKEUTcNIEUN-PIEUPcTIKEUT-KIYEOK
  1118 aHANGUL CHOSEONG RIEUL-NIEUNcSSANGRIEULcRIEUL-HIEUHcKAPYEOUNRIEULcMIEUM-PIEUPcKAPYEOUNMIEUM
  111E aHANGUL CHOSEONG PIEUP-KIYEOKcPIEUP-NIEUNcPIEUP-TIKEUTcPIEUP-SIOScPIEUP-SIOS-KIYEOK
  1123 aHANGUL CHOSEONG PIEUP-SIOS-TIKEUTcPIEUP-SIOS-PIEUPcPIEUP-SSANGSIOScPIEUP-SIOS-CIEUC
  1127 aHANGUL CHOSEONG PIEUP-CIEUCcPIEUP-CHIEUCHcPIEUP-THIEUTHcPIEUP-PHIEUPHcKAPYEOUNPIEUP
  112C aHANGUL CHOSEONG KAPYEOUNSSANGPIEUPcSIOS-KIYEOKcSIOS-NIEUNcSIOS-TIKEUTcSIOS-RIEUL
  1131 aHANGUL CHOSEONG SIOS-MIEUMcSIOS-PIEUPcSIOS-PIEUP-KIYEOKcSIOS-SSANGSIOScSIOS-IEUNG
  1136 aHANGUL CHOSEONG SIOS-CIEUCcSIOS-CHIEUCHcSIOS-KHIEUKHcSIOS-THIEUTHcSIOS-PHIEUPHcSIOS-HIEUH
  113C aHANGUL CHOSEONG CHITUEUMSIOScCHITUEUMSSANGSIOScCEONGCHIEUMSIOScCEONGCHIEUMSSANGSIOS
  1140 aHANGUL CHOSEONG PANSIOScIEUNG-KIYEOKcIEUNG-TIKEUTcIEUNG-MIEUMcIEUNG-PIEUPcIEUNG-SIOS
  1146 aHANGUL CHOSEONG IEUNG-PANSIOScSSANGIEUNGcIEUNG-CIEUCcIEUNG-CHIEUCHcIEUNG-THIEUTH
  114B aHANGUL CHOSEONG IEUNG-PHIEUPHcYESIEUNGcCIEUC-IEUNGcCHITUEUMCIEUCcCHITUEUMSSANGCIEUC
  1150 aHANGUL CHOSEONG CEONGCHIEUMCIEUCcCEONGCHIEUMSSANGCIEUCcCHIEUCH-KHIEUKHcCHIEUCH-HIEUH
  1154 aHANGUL CHOSEONG CHITUEUMCHIEUCHcCEONGCHIEUMCHIEUCHcPHIEUPH-PIEUPcKAPYEOUNPHIEUPH
  1158 aHANGUL CHOSEONG SSANGHIEUHcYEORINHIEUHcKIYEOK-TIKEUTcNIEUN-SIOScNIEUN-CIEUCcNIEUN-HIEUH
  115E aHANGUL CHOSEONG TIKEUT-RIEULcFILLERbJUNGSEONG FILLERcAcAEcYAcYAEcEOcEcYEOcYEcOcWAcWAEcOE
  116D aHANGUL JUNGSEONG YOcUcWEOcWEcWIcYUcEUcYIcIcA-OcA-UcYA-OcYA-YOcEO-OcEO-UcEO-EUcYEO-OcYEO-U
  117F aHANGUL JUNGSEONG O-EOcO-EcO-YEcO-OcO-UcYO-YAcYO-YAEcYO-YEOcYO-OcYO-IcU-AcU-AEcU-EO-EUcU-YE
  118D aHANGUL JUNGSEONG U-UcYU-AcYU-EOcYU-EcYU-YEOcYU-YEcYU-UcYU-IcEU-UcEU-EUcYI-UcI-AcI-YAcI-O
  119B aHANGUL JUNGSEONG I-UcI-EUcI-ARAEAcARAEAcARAEA-EOcARAEA-UcARAEA-IcSSANGARAEAcA-EUcYA-U
  11A5 aHANGUL JUNGSEONG YEO-YAcO-YAcO-YAEbJONGSEONG KIYEOKcSSANGKIYEOKcKIYEOK-SIOScNIEUN
  11AC aHANGUL JONGSEONG NIEUN-CIEUCcNIEUN-HIEUHcTIKEUTcRIEULcRIEUL-KIYEOKcRIEUL-MIEUMcRIEUL-PIEUP
  11B3 aHANGUL JONGSEONG RIEUL-SIOScRIEUL-THIEUTHcRIEUL-PHIEUPHcRIEUL-HIEUHcMIEUMcPIEUPcPIEUP-SIOS
  11BA aHANGUL JONGSEONG SIOScSSANGSIOScIEUNGcCIEUCcCHIEUCHcKHIEUKHcTHIEUTHcPHIEUPHcHIEUH
  11C3 aHANGUL JONGSEONG KIYEOK-RIEULcKIYEOK-SIOS-KIYEOKcNIEUN-KIYEOKcNIEUN-TIKEUTcNIEUN-SIOS
  11C8 aHANGUL JONGSEONG NIEUN-PANSIOScNIEUN-THIEUTHcTIKEUT-KIYEOKcTIKEUT-RIEULcRIEUL-KIYEOK-SIOS
  11CD aHANGUL JONGSEONG RIEUL-NIEUNcRIEUL-TIKEUTcRIEUL-TIKEUT-HIEUHcSSANGRIEULcRIEUL-MIEUM-KIYEOK
  11D2 aHANGUL JONGSEONG RIEUL-MIEUM-SIOScRIEUL-PIEUP-SIOScRIEUL-PIEUP-HIEUHcRIEUL-KAPYEOUNPIEUP
  11D6 aHANGUL JONGSEONG RIEUL-SSANGSIOScRIEUL-PANSIOScRIEUL-KHIEUKHcRIEUL-YEORINHIEUH
  11DA aHANGUL JONGSEONG MIEUM-KIYEOKcMIEUM-RIEULcMIEUM-PIEUPcMIEUM-SIOScMIEUM-SSANGSIOS
  11DF aHANGUL JONGSEONG MIEUM-PANSIOScMIEUM-CHIEUCHcMIEUM-HIEUHcKAPYEOUNMIEUMcPIEUP-RIEUL
  11E4 aHANGUL JONGSEONG PIEUP-PHIEUPHcPIEUP-HIEUHcKAPYEOUNPIEUPcSIOS-KIYEOKcSIOS-TIKEUT
  11E9 aHANGUL JONGSEONG SIOS-RIEULcSIOS-PIEUPcPANSIOScIEUNG-KIYEOKcIEUNG-SSANGKIYEOKcSSANGIEUNG
  11EF aHANGUL JONGSEONG IEUNG-KHIEUKHcYESIEUNGcYESIEUNG-SIOScYESIEUNG-PANSIOScPHIEUPH-PIEUP
  11F4 aHANGUL JONGSEONG KAPYEOUNPHIEUPHcHIEUH-NIEUNcHIEUH-RIEULcHIEUH-MIEUMcHIEUH-PIEUP
  11F9 aHANGUL JONGSEONG YEORINHIEUHcKIYEOK-NIEUNcKIYEOK-PIEUPcKIYEOK-CHIEUCHcKIYEOK-KHIEUKH
  11FE aHANGUL JONGSEONG KIYEOK-HIEUHcSSANGNIEUNaETHIOPIC SYLLABLE HAcHUcHIcHAAcHEEcHEcHOcHOAcLA
  1209 aETHIOPIC SYLLABLE LUcLIcLAAcLEEcLEcLOcLWAcHHAcHHUcHHIcHHAAcHHEEcHHEcHHOcHHWAcMAcMUcMIcMAA
  121C aETHIOPIC SYLLABLE MEEcMEcMOcMWAcSZAcSZUcSZIcSZAAcSZEEcSZEcSZOcSZWAcRAcRUcRIcRAAcREEcREcRO
  122F aETHIOPIC SYLLABLE RWAcSAcSUcSIcSAAcSEEcSEcSOcSWAcSHAcSHUcSHIcSHAAcSHEEcSHEcSHOcSHWAcQAcQU
  1242 aETHIOPIC SYLLABLE QIcQAAcQEEcQEcQOcQOAcQWA
  124A aETHIOPIC SYLLABLE QWIcQWAAcQWEEcQWE
  1250 aETHIOPIC SYLLABLE QHAcQHUcQHIcQHAAcQHEEcQHEcQHO
  1258 aETHIOPIC SYLLABLE QHWA
  125A aETHIOPIC SYLLABLE QHWIcQHWAAcQHWEEcQHWE
  1260 aETHIOPIC SYLLABLE BAcBUcBIcBAAcBEEcBEcBOcBWAcVAcVUcVIcVAAcVEEcVEcVOcVWAcTAcTUcTIcTAAcTEE
  1275 aETHIOPIC SYLLABLE TEcTOcTWAcCAcCUcCIcCAAcCEEcCEcCOcCWAcXAcXUcXIcXAAcXEEcXEcXOcXOAcXWA
  128A aETHIOPIC SYLLABLE XWIcXWAAcXWEEcXWE
  1290 aETHIOPIC SYLLABLE NAcNUcNIcNAAcNEEcNEcNOcNWAcNYAcNYUcNYIcNYAAcNYEEcNYEcNYOcNYWAcGLOTTAL A
  12A1 aETHIOPIC SYLLABLE GLOTTAL UdIdAAdEEdEdOdWAcKAcKUcKIcKAAcKEEcKEcKOcKOAcKWA
  12B2 aETHIOPIC SYLLABLE KWIcKWAAcKWEEcKWE
  12B8 aETHIOPIC SYLLABLE KXAcKXUcKXIcKXAAcKXEEcKXEcKXO
  12C0 aETHIOPIC SYLLABLE KXWA
  12C2 aETHIOPIC SYLLABLE KXWIcKXWAAcKXWEEcKXWE
  12C8 aETHIOPIC SYLLABLE WAcWUcWIcWAAcWEEcWEcWOcWOAcPHARYNGEAL AdUdIdAAdEEdEdO
  12D8 aETHIOPIC SYLLABLE ZAcZUcZIcZAAcZEEcZEcZOcZWAcZHAcZHUcZHIcZHAAcZHEEcZHEcZHOcZHWAcYAcYUcYI
  12EB aETHIOPIC SYLLABLE YAAcYEEcYEcYOcYOAcDAcDUcDIcDAAcDEEcDEcDOcDWAcDDAcDDUcDDIcDDAAcDDEEcDDE
  12FE aETHIOPIC SYLLABLE DDOcDDWAcJAcJUcJIcJAAcJEEcJEcJOcJWAcGAcGUcGIcGAAcGEEcGEcGOcGOAcGWA
  1312 aETHIOPIC SYLLABLE GWIcGWAAcGWEEcGWE
  1318 aETHIOPIC SYLLABLE GGAcGGUcGGIcGGAAcGGEEcGGEcGGOcGGWAAcTHAcTHUcTHIcTHAAcTHEEcTHEcTHOcTHWA
  1328 aETHIOPIC SYLLABLE CHAcCHUcCHIcCHAAcCHEEcCHEcCHOcCHWAcPHAcPHUcPHIcPHAAcPHEEcPHEcPHOcPHWA
  1338 aETHIOPIC SYLLABLE TSAcTSUcTSIcTSAAcTSEEcTSEcTSOcTSWAcTZAcTZUcTZIcTZAAcTZEEcTZEcTZOcTZOAcFA
  1349 aETHIOPIC SYLLABLE FUcFIcFAAcFEEcFEcFOcFWAcPAcPUcPIcPAAcPEEcPEcPOcPWAcRYAcMYAcFYA
  135D aETHIOPIC COMBINING GEMINATION AND VOWEL LENGTH MARKcVOWEL LENGTH MARKcGEMINATION MARK
  1360 aETHIOPIC SECTION MARKbWORDSPACEbFULL STOPbCOMMAbSEMICOLONbCOLONbPREFACE COLON
  1367 aETHIOPIC QUESTION MARKbPARAGRAPH SEPARATORbDIGIT ONEcTWOcTHREEcFOURcFIVEcSIXcSEVENcEIGHT
  1371 aETHIOPIC DIGIT NINEbNUMBER TENcTWENTYcTHIRTYcFORTYcFIFTYcSIXTYcSEVENTYcEIGHTYcNINETY
  137B aETHIOPIC NUMBER HUNDREDcTEN THOUSAND
  1380 aETHIOPIC SYLLABLE SEBATBEIT MWAcMWIcMWEEcMWEcSEBATBEIT BWAcBWIcBWEEcBWEcSEBATBEIT FWAcFWI
  138A aETHIOPIC SYLLABLE FWEEcFWEcSEBATBEIT PWAcPWIcPWEEcPWEbTONAL MARK YIZETdDERETdRIKRIK
  1393 aETHIOPIC TONAL MARK SHORT RIKRIKdDIFATdKENATdCHIRETdHIDETdDERET-HIDETdKURT
  13A0 aCHEROKEE LETTER AcEcIcOcUcVcGAcKAcGEcGIcGOcGUcGVcHAcHEcHIcHOcHUcHVcLAcLEcLIcLOcLUcLVcMAcME
  13BB aCHEROKEE LETTER MIcMOcMUcNAcHNAcNAHcNEcNIcNOcNUcNVcQUAcQUEcQUIcQUOcQUUcQUVcSAcScSEcSIcSO
  13D1 aCHEROKEE LETTER SUcSVcDAcTAcDEcTEcDIcTIcDOcDUcDVcDLAcTLAcTLEcTLIcTLOcTLUcTLVcTSAcTSEcTSI
  13E6 aCHEROKEE LETTER TSOcTSUcTSVcWAcWEcWIcWOcWUcWVcYAcYEcYIcYOcYUcYVcMV
  13F8 aCHEROKEE SMALL LETTER YEdYIdYOdYUdYVdMV
  1400 aCANADIAN SYLLABICS HYPHENcEcAAIcIcIIcOcOOcY-CREE OOcCARRIER EEdIcAcAAcWEcWEST-CREE WEcWI
  140F aCANADIAN SYLLABICS WEST-CREE WIcWIIcWEST-CREE WIIcWOcWEST-CREE WOcWOOcWEST-CREE WOO
  1416 aCANADIAN SYLLABICS NASKAPI WOOcWAcWEST-CREE WAcWAAcWEST-CREE WAAcNASKAPI WAAcAIcY-CREE W
  141E aCANADIAN SYLLABICS GLOTTAL STOPcFINAL ACUTEdGRAVEdBOTTOM HALF RINGdTOP HALF RING
  1423 aCANADIAN SYLLABICS FINAL RIGHT HALF RINGdRINGdDOUBLE ACUTEeSHORT VERTICAL STROKES
  1427 aCANADIAN SYLLABICS FINAL MIDDLE DOTdSHORT HORIZONTAL STROKEdPLUSdDOWN TACKcENcINcONcANcPE
  1430 aCANADIAN SYLLABICS PAAIcPIcPIIcPOcPOOcY-CREE POOcCARRIER HEEdHIcPAcPAAcPWEcWEST-CREE PWE
  143C aCANADIAN SYLLABICS PWIcWEST-CREE PWIcPWIIcWEST-CREE PWIIcPWOcWEST-CREE PWOcPWOO
  1443 aCANADIAN SYLLABICS WEST-CREE PWOOcPWAcWEST-CREE PWAcPWAAcWEST-CREE PWAAcY-CREE PWAAcP
  144A aCANADIAN SYLLABICS WEST-CREE PcCARRIER HcTEcTAAIcTIcTIIcTOcTOOcY-CREE TOOcCARRIER DEEdDI
  1455 aCANADIAN SYLLABICS TAcTAAcTWEcWEST-CREE TWEcTWIcWEST-CREE TWIcTWIIcWEST-CREE TWIIcTWO
  145E aCANADIAN SYLLABICS WEST-CREE TWOcTWOOcWEST-CREE TWOOcTWAcWEST-CREE TWAcTWAAcWEST-CREE TWAA
  1465 aCANADIAN SYLLABICS NASKAPI TWAAcTcTTEcTTIcTTOcTTAcKEcKAAIcKIcKIIcKOcKOOcY-CREE KOOcKAcKAA
  1474 aCANADIAN SYLLABICS KWEcWEST-CREE KWEcKWIcWEST-CREE KWIcKWIIcWEST-CREE KWIIcKWO
  147B aCANADIAN SYLLABICS WEST-CREE KWOcKWOOcWEST-CREE KWOOcKWAcWEST-CREE KWAcKWAAcWEST-CREE KWAA
  1482 aCANADIAN SYLLABICS NASKAPI KWAAcKcKWcSOUTH-SLAVEY KEHdKIHdKOHdKAHcCEcCAAIcCIcCIIcCOcCOO
  148F aCANADIAN SYLLABICS Y-CREE COOcCAcCAAcCWEcWEST-CREE CWEcCWIcWEST-CREE CWIcCWII
  1497 aCANADIAN SYLLABICS WEST-CREE CWIIcCWOcWEST-CREE CWOcCWOOcWEST-CREE CWOOcCWAcWEST-CREE CWA
  149E aCANADIAN SYLLABICS CWAAcWEST-CREE CWAAcNASKAPI CWAAcCcSAYISI THcMEcMAAIcMIcMIIcMOcMOO
  14A9 aCANADIAN SYLLABICS Y-CREE MOOcMAcMAAcMWEcWEST-CREE MWEcMWIcWEST-CREE MWIcMWII
  14B1 aCANADIAN SYLLABICS WEST-CREE MWIIcMWOcWEST-CREE MWOcMWOOcWEST-CREE MWOOcMWAcWEST-CREE MWA
  14B8 aCANADIAN SYLLABICS MWAAcWEST-CREE MWAAcNASKAPI MWAAcMcWEST-CREE McMHcATHAPASCAN McSAYISI M
  14C0 aCANADIAN SYLLABICS NEcNAAIcNIcNIIcNOcNOOcY-CREE NOOcNAcNAAcNWEcWEST-CREE NWEcNWA
  14CC aCANADIAN SYLLABICS WEST-CREE NWAcNWAAcWEST-CREE NWAAcNASKAPI NWAAcNcCARRIER NGcNHcLEcLAAI
  14D5 aCANADIAN SYLLABICS LIcLIIcLOcLOOcY-CREE LOOcLAcLAAcLWEcWEST-CREE LWEcLWIcWEST-CREE LWI
  14E0 aCANADIAN SYLLABICS LWIIcWEST-CREE LWIIcLWOcWEST-CREE LWOcLWOOcWEST-CREE LWOOcLWA
  14E7 aCANADIAN SYLLABICS WEST-CREE LWAcLWAAcWEST-CREE LWAAcLcWEST-CREE LcMEDIAL LcSEcSAAIcSIcSII
  14F1 aCANADIAN SYLLABICS SOcSOOcY-CREE SOOcSAcSAAcSWEcWEST-CREE SWEcSWIcWEST-CREE SWIcSWII
  14FB aCANADIAN SYLLABICS WEST-CREE SWIIcSWOcWEST-CREE SWOcSWOOcWEST-CREE SWOOcSWAcWEST-CREE SWA
  1502 aCANADIAN SYLLABICS SWAAcWEST-CREE SWAAcNASKAPI SWAAcScATHAPASCAN ScSWcBLACKFOOT S
  1509 aCANADIAN SYLLABICS MOOSE-CREE SKcNASKAPI SKWdS-WdSPWAdSTWAdSKWAdSCWAcSHEcSHIcSHIIcSHOcSHOO
  1515 aCANADIAN SYLLABICS SHAcSHAAcSHWEcWEST-CREE SHWEcSHWIcWEST-CREE SHWIcSHWIIcWEST-CREE SHWII
  151D aCANADIAN SYLLABICS SHWOcWEST-CREE SHWOcSHWOOcWEST-CREE SHWOOcSHWAcWEST-CREE SHWAcSHWAA
  1524 aCANADIAN SYLLABICS WEST-CREE SHWAAcSHcYEcYAAIcYIcYIIcYOcYOOcY-CREE YOOcYAcYAAcYWE
  1530 aCANADIAN SYLLABICS WEST-CREE YWEcYWIcWEST-CREE YWIcYWIIcWEST-CREE YWIIcYWOcWEST-CREE YWO
  1537 aCANADIAN SYLLABICS YWOOcWEST-CREE YWOOcYWAcWEST-CREE YWAcYWAAcWEST-CREE YWAAcNASKAPI YWAA
  153E aCANADIAN SYLLABICS YcBIBLE-CREE YcWEST-CREE YcSAYISI YIcREcR-CREE REcWEST-CREE LEcRAAIcRI
  1547 aCANADIAN SYLLABICS RIIcROcROOcWEST-CREE LOcRAcRAAcWEST-CREE LAcRWAAcWEST-CREE RWAAcR
  1551 aCANADIAN SYLLABICS WEST-CREE RcMEDIAL RcFEcFAAIcFIcFIIcFOcFOOcFAcFAAcFWAAcWEST-CREE FWAAcF
  155E aCANADIAN SYLLABICS THEcN-CREE THEcTHIcN-CREE THIcTHIIcN-CREE THIIcTHOcTHOOcTHAcTHAAcTHWAA
  1569 aCANADIAN SYLLABICS WEST-CREE THWAAcTHcTTHEcTTHIcTTHOcTTHAcTTHcTYEcTYIcTYOcTYAcNUNAVIK HE
  1575 aCANADIAN SYLLABICS NUNAVIK HIdHIIdHOdHOOdHAdHAAdHcNUNAVUT HcHKcQAAIcQIcQIIcQOcQOOcQAcQAAcQ
  1586 aCANADIAN SYLLABICS TLHEcTLHIcTLHOcTLHAcWEST-CREE REdRIdROdRAcNGAAIcNGIcNGIIcNGOcNGOOcNGA
  1594 aCANADIAN SYLLABICS NGAAcNGcNNGcSAYISI SHEdSHIdSHOdSHAcWOODS-CREE THEdTHIdTHOdTHAdTHcLHI
  15A1 aCANADIAN SYLLABICS LHIIcLHOcLHOOcLHAcLHAAcLHcTH-CREE THEdTHIdTHIIdTHOdTHOOdTHAdTHAAdTH
  15AF aCANADIAN SYLLABICS AIVILIK BcBLACKFOOT EdIdOdAdWEdWIdWOdWAdNEdNIdNOdNAdKEdKIdKOdKA
  15C0 aCANADIAN SYLLABICS SAYISI HEdHIdHOdHAcCARRIER GHUdGHOdGHEdGHEEdGHIdGHAdRUdROdREdREEdRIdRA
  15D0 aCANADIAN SYLLABICS CARRIER WUdWOdWEdWEEdWIdWAdHWUdHWOdHWEdHWEEdHWIdHWAdTHUdTHOdTHEdTHEE
  15E0 aCANADIAN SYLLABICS CARRIER THIdTHAdTTUdTTOdTTEdTTEEdTTIdTTAdPUdPOdPEdPEEdPIdPAdPdGUdGOdGE
  15F2 aCANADIAN SYLLABICS CARRIER GEEdGIdGAdKHUdKHOdKHEdKHEEdKHIdKHAdKKUdKKOdKKEdKKEEdKKIdKKAdKK
  1602 aCANADIAN SYLLABICS CARRIER NUdNOdNEdNEEdNIdNAdMUdMOdMEdMEEdMIdMAdYUdYOdYEdYEEdYIdYAdJU
  1615 aCANADIAN SYLLABICS SAYISI JUcCARRIER JOdJEdJEEdJIcSAYISI JIcCARRIER JAdJJUdJJOdJJEdJJEE
  1620 aCANADIAN SYLLABICS CARRIER JJIdJJAdLUdLOdLEdLEEdLIdLAdDLUdDLOdDLEdDLEEdDLIdDLAdLHUdLHOdLHE
  1631 aCANADIAN SYLLABICS CARRIER LHEEdLHIdLHAdTLHUdTLHOdTLHEdTLHEEdTLHIdTLHAdTLUdTLOdTLEdTLEE
  163E aCANADIAN SYLLABICS CARRIER TLIdTLAdZUdZOdZEdZEEdZIdZAdZdINITIAL ZdDZUdDZOdDZEdDZEEdDZIdDZA
  164E aCANADIAN SYLLABICS CARRIER SUdSOdSEdSEEdSIdSAdSHUdSHOdSHEdSHEEdSHIdSHAdSHdTSUdTSOdTSEdTSEE
  165F aCANADIAN SYLLABICS CARRIER TSIdTSAdCHUdCHOdCHEdCHEEdCHIdCHAdTTSUdTTSOdTTSEdTTSEEdTTSIdTTSA
  166D aCANADIAN SYLLABICS CHI SIGNcFULL STOPcQAIcNGAIcNNGIcNNGIIcNNGOcNNGOOcNNGAcNNGAA
  1677 aCANADIAN SYLLABICS WOODS-CREE THWEEdTHWIdTHWIIdTHWOdTHWOOdTHWAdTHWAAdFINAL THcBLACKFOOT W
  1680 aOGHAM SPACE MARKbLETTER BEITHcLUIScFEARNcSAILcNIONcUATHcDAIRcTINNEcCOLLcCEIRTcMUINcGORT
  168D aOGHAM LETTER NGEADALcSTRAIFcRUIScAILMcONNcURcEADHADHcIODHADHcEABHADHcORcUILLEANNcIFIN
  1699 aOGHAM LETTER EAMHANCHOLLcPEITHbFEATHER MARKbREVERSED FEATHER MARK
  16A0 aRUNIC LETTER FEHU FEOH FE FcVcURUZ UR UcYRcYcWcTHURISAZ THURS THORNcETHcANSUZ AcOS OcAC A
  16AB aRUNIC LETTER AESCcLONG-BRANCH-OSS OcSHORT-TWIG-OSS OcOcOEcONcRAIDO RAD REID RcKAUNAcCEN
  16B4 aRUNIC LETTER KAUN KcGcENGcGEBO GYFU GcGARcWUNJO WYNN WcHAGLAZ HcHAEGL H
  16BC aRUNIC LETTER LONG-BRANCH-HAGALL HcSHORT-TWIG-HAGALL HcNAUDIZ NYD NAUD NcSHORT-TWIG-NAUD N
  16C0 aRUNIC LETTER DOTTED-NcISAZ IS ISS IcEcJERAN JcGERcLONG-BRANCH-AR AEcSHORT-TWIG-AR A
  16C7 aRUNIC LETTER IWAZ EOHcPERTHO PEORTH PcALGIZ EOLHXcSOWILO ScSIGEL LONG-BRANCH-SOL S
  16CC aRUNIC LETTER SHORT-TWIG-SOL ScCcZcTIWAZ TIR TYR TcSHORT-TWIG-TYR TcD
  16D2 aRUNIC LETTER BERKANAN BEORC BJARKAN BcSHORT-TWIG-BJARKAN BcDOTTED-PcOPEN-PcEHWAZ EH E
  16D7 aRUNIC LETTER MANNAZ MAN McLONG-BRANCH-MADR McSHORT-TWIG-MADR McLAUKAZ LAGU LOGR LcDOTTED-L
  16DC aRUNIC LETTER INGWAZcINGcDAGAZ DAEG DcOTHALAN ETHEL OcEARcIORcCWEORTHcCALCcCEALCcSTAN
  16E6 aRUNIC LETTER LONG-BRANCH-YRcSHORT-TWIG-YRcICELANDIC-YRcQcXbSINGLE PUNCTUATION
  16EC aRUNIC MULTIPLE PUNCTUATIONbCROSS PUNCTUATIONbARLAUG SYMBOLbTVIMADUR SYMBOLbBELGTHOR SYMBOL
  16F1 aRUNIC LETTER KcSHcOOcFRANKS CASKET OSeISeEHeACeAESC
  1700 aTAGALOG LETTER AcIcUcKAcGAcNGAcTAcDAcNAcPAcBAcMAcYAcRAcLAcWAcSAcHAbVOWEL SIGN IdU
  1714 aTAGALOG SIGN VIRAMAcPAMUDPOD
  171F aTAGALOG LETTER ARCHAIC RAaHANUNOO LETTER AcIcUcKAcGAcNGAcTAcDAcNAcPAcBAcMAcYAcRAcLAcWAcSA
  1731 aHANUNOO LETTER HAbVOWEL SIGN IdUbSIGN PAMUDPODaPHILIPPINE SINGLE PUNCTUATION
  1736 aPHILIPPINE DOUBLE PUNCTUATION
  1740 aBUHID LETTER AcIcUcKAcGAcNGAcTAcDAcNAcPAcBAcMAcYAcRAcLAcWAcSAcHAbVOWEL SIGN IdU
  1760 aTAGBANWA LETTER AcIcUcKAcGAcNGAcTAcDAcNAcPAcBAcMAcYA
  176E aTAGBANWA LETTER LAcWAcSA
  1772 aTAGBANWA VOWEL SIGN IdU
  1780 aKHMER LETTER KAcKHAcKOcKHOcNGOcCAcCHAcCOcCHOcNYOcDAcTTHAcDOcTTHOcNNOcTAcTHAcTOcTHOcNOcBA
  1795 aKHMER LETTER PHAcPOcPHOcMOcYOcROcLOcVOcSHAcSSOcSAcHAcLAcQAbINDEPENDENT VOWEL QAQdQAAdQI
  17A6 aKHMER INDEPENDENT VOWEL QIIdQUdQUKdQUUdQUUVdRYdRYYdLYdLYYdQEdQAIdQOO TYPE ONEfTWOdQAU
  17B4 aKHMER VOWEL INHERENT AQdAAcSIGN AAdIdIIdYdYYdUdUUdUAdOEdYAdIEdEdAEdAIdOOdAUbSIGN NIKAHIT
  17C7 aKHMER SIGN REAHMUKcYUUKALEAPINTUcMUUSIKATOANcTRIISAPcBANTOCcROBATcTOANDAKHIATcKAKABAT
  17CF aKHMER SIGN AHSDAcSAMYOK SANNYAcVIRIAMcCOENGcBATHAMASATcKHANcBARIYOOSANcCAMNUC PII KUUH
  17D7 aKHMER SIGN LEK TOOcBEYYALcPHNAEK MUANcKOOMUUTbCURRENCY SYMBOL RIELbSIGN AVAKRAHASANYA
  17DD aKHMER SIGN ATTHACAN
  17E0 aKHMER DIGIT ZEROcONEcTWOcTHREEcFOURcFIVEcSIXcSEVENcEIGHTcNINE
  17F0 aKHMER SYMBOL LEK ATTAK SONeMUOYePIIeBEIeBUONePRAMePRAM-MUOYePRAM-PIIePRAM-BEIePRAM-BUON
  1800 aMONGOLIAN BIRGAbELLIPSISbCOMMAbFULL STOPbCOLONbFOUR DOTSbTODO SOFT HYPHEN
  1807 aMONGOLIAN SIBE SYLLABLE BOUNDARY MARKERbMANCHU COMMAcFULL STOPbNIRUGU
  180B aMONGOLIAN FREE VARIATION SELECTOR ONEeTWOeTHREEbVOWEL SEPARATOR
  180F aMONGOLIAN FREE VARIATION SELECTOR FOURbDIGIT ZEROcONEcTWOcTHREEcFOURcFIVEcSIXcSEVENcEIGHT
  1819 aMONGOLIAN DIGIT NINE
  1820 aMONGOLIAN LETTER AcEcIcOcUcOEcUEcEEcNAcANGcBAcPAcQAcGAcMAcLAcSAcSHAcTAcDAcCHAcJAcYAcRAcWA
  1839 aMONGOLIAN LETTER FAcKAcKHAcTSAcZAcHAAcZRAcLHAcZHIcCHIcTODO LONG VOWEL SIGNdEdIdOdUdOEdUE
  184A aMONGOLIAN LETTER TODO ANGdBAdPAdQAdGAdMAdTAdDAdCHAdJAdTSAdYAdWAdKAdGAAdHAAdJIAdNIAdDZA
  185D aMONGOLIAN LETTER SIBE EdIdIYdUEdUdANGdKAdGAdHAdPAdSHAdTAdDAdJAdFAdGAAdHAAdTSAdZAdRAAdCHA
  1872 aMONGOLIAN LETTER SIBE ZHAcMANCHU IdKAdRAdFAdZHAcCHA WITH TWO DOTS
  1880 aMONGOLIAN LETTER ALI GALI ANUSVARA ONEeVISARGA ONEeDAMARUeUBADAMAeINVERTED UBADAMAeBALUDA
  1886 aMONGOLIAN LETTER ALI GALI THREE BALUDAeAeIeKAeNGAeCAeTTAeTTHAeDDAeNNAeTAeDAePAePHAeSSAeZHA
  1896 aMONGOLIAN LETTER ALI GALI ZAeAHcTODO ALI GALI TAfZHAcMANCHU ALI GALI GHAfNGAfCAfJHAfTTA
  189F aMONGOLIAN LETTER MANCHU ALI GALI DDHAfTAfDHAfSSAfCYAfZHAfZAcALI GALI HALF UfYA
  18A8 aMONGOLIAN LETTER MANCHU ALI GALI BHAcALI GALI DAGALGAcMANCHU ALI GALI LHA
  18B0 aCANADIAN SYLLABICS OYcAYcAAYcWAYcPOYcPAYcPWOYcTAYcKAYcKWAYcMAYcNOYcNAYcLAYcSOYcSAYcSHOY
  18C1 aCANADIAN SYLLABICS SHAYcSHWOYcYOYcYAYcRAYcNWIcOJIBWAY NWIcNWIIcOJIBWAY NWIIcNWO
  18CB aCANADIAN SYLLABICS OJIBWAY NWOcNWOOcOJIBWAY NWOOcRWEEcRWIcRWIIcRWOcRWOOcRWAcOJIBWAY PdTdK
  18D7 aCANADIAN SYLLABICS OJIBWAY CdMdNdSdSHcEASTERN WcWESTERN WcFINAL SMALL RINGdRAISED DOT
  18E0 aCANADIAN SYLLABICS R-CREE RWEcWEST-CREE LOOdLAAcTHWEcTHWAcTTHWEcTTHOOcTTHAAcTLHWEcTLHOO
  18EA aCANADIAN SYLLABICS SAYISI SHWEdSHOOdHOOcCARRIER GWUdDENE GEEdGAAdGWAcSAYISI JUU
  18F2 aCANADIAN SYLLABICS CARRIER JWAcBEAVER DENE LeRcCARRIER DENTAL S
  1900 aLIMBU VOWEL-CARRIER LETTERbLETTER KAcKHAcGAcGHAcNGAcCAcCHAcJAcJHAcYANcTAcTHAcDAcDHAcNAcPA
  1911 aLIMBU LETTER PHAcBAcBHAcMAcYAcRAcLAcWAcSHAcSSAcSAcHAcGYANcTRA
  1920 aLIMBU VOWEL SIGN AdIdUdEEdAIdOOdAUdEdObSUBJOINED LETTER YAdRAdWA
  1930 aLIMBU SMALL LETTER KAdNGAdANUSVARAdTAdNAdPAdMAdRAdLAbSIGN MUKPHRENGcKEMPHRENGcSA-I
  1940 aLIMBU SIGN LOO
  1944 aLIMBU EXCLAMATION MARKbQUESTION MARKbDIGIT ZEROcONEcTWOcTHREEcFOURcFIVEcSIXcSEVENcEIGHT
  194F aLIMBU DIGIT NINEaTAI LE LETTER KAdXAdNGAdTSAdSAdYAdTAdTHAdLAdPAdPHAdMAdFAdVAdHAdQAdKHA
  1961 aTAI LE LETTER TSHAdNAdAdIdEEdEHdUdOOdOdUEdEdAUEdAI
  1970 aTAI LE LETTER TONE-2dTONE-3dTONE-4dTONE-5dTONE-6
  1980 aNEW TAI LUE LETTER HIGH QAeLOW QAeHIGH KAfXAfNGAeLOW KAfXAfNGAeHIGH TSAfSAfYAeLOW TSAfSA
  198D aNEW TAI LUE LETTER LOW YAeHIGH TAfTHAfNAeLOW TAfTHAfNAeHIGH PAfPHAfMAeLOW PAfPHAfMA
  199A aNEW TAI LUE LETTER HIGH FAfVAfLAeLOW FAfVAfLAeHIGH HAfDAfBAeLOW HAfDAfBAeHIGH KVAfXVA
  19A8 aNEW TAI LUE LETTER LOW KVAfXVAeHIGH SUAeLOW SUA
  19B0 aNEW TAI LUE VOWEL SIGN VOWEL SHORTENERfAAfIIfUfUUfEfAEfOfOAfUEfAYfAAYfUYfOYfOAYfUEYfIY
  19C1 aNEW TAI LUE LETTER FINAL VfNGfNfMfKfDfBdTONE MARK-1eMARK-2
  19D0 aNEW TAI LUE DIGIT ZEROeONEeTWOeTHREEeFOUReFIVEeSIXeSEVENeEIGHTeNINEdTHAM DIGIT ONE
  19DE aNEW TAI LUE SIGN LAEeLAEVaKHMER SYMBOL PATHAMASATcMUOY KOETcPII KOETcBEI KOETcBUON KOET
  19E5 aKHMER SYMBOL PRAM KOETcPRAM-MUOY KOETcPRAM-PII KOETcPRAM-BEI KOETcPRAM-BUON KOETcDAP KOET
  19EB aKHMER SYMBOL DAP-MUOY KOETcDAP-PII KOETcDAP-BEI KOETcDAP-BUON KOETcDAP-PRAM KOETcTUTEYASAT
  19F1 aKHMER SYMBOL MUOY ROCcPII ROCcBEI ROCcBUON ROCcPRAM ROCcPRAM-MUOY ROCcPRAM-PII ROC
  19F8 aKHMER SYMBOL PRAM-BEI ROCcPRAM-BUON ROCcDAP ROCcDAP-MUOY ROCcDAP-PII ROCcDAP-BEI ROC
  19FE aKHMER SYMBOL DAP-BUON ROCcDAP-PRAM ROCaBUGINESE LETTER KAcGAcNGAcNGKAcPAcBAcMAcMPAcTAcDA
  1A0A aBUGINESE LETTER NAcNRAcCAcJAcNYAcNYCAcYAcRAcLAcVAcSAcAcHAbVOWEL SIGN IdUdEdOdAE
  1A1E aBUGINESE PALLAWAbEND OF SECTIONaTAI THAM LETTER HIGH KAeKHAeKXAdLOW KAeKXAeKHAdNGAdHIGH CA
  1A28 aTAI THAM LETTER HIGH CHAdLOW CAeSAeCHAdNYAdRATAdHIGH RATHAdDAdLOW RATHAdRANAdHIGH TAeTHA
  1A34 aTAI THAM LETTER LOW TAeTHAdNAdBAdHIGH PAePHAeFAdLOW PAeFAePHAdMAdLOW YAdHIGH YAdRAdRUEdLA
  1A44 aTAI THAM LETTER LUEdWAdHIGH SHAeSSAeSAeHAdLLAdAdLOW HAdIdIIdUdUUdEEdOOdLAEdGREAT SA
  1A55 aTAI THAM CONSONANT SIGN MEDIAL RAfLAeLA TANG LAIcSIGN MAI KANG LAI
  1A59 aTAI THAM CONSONANT SIGN FINAL NGAeLOW PAeHIGH RATHA OR LOW PAeMAeBAeSA
  1A60 aTAI THAM SIGN SAKOTcVOWEL SIGN AeMAI SATeAAeTALL AAeIeIIeUEeUUEeUeUUeOeOA BELOWeOYeEeAEeOO
  1A71 aTAI THAM VOWEL SIGN AIeTHAM AIeOA ABOVEcSIGN MAI KANGdTONE-1dTONE-2dKHUEN TONE-3eTONE-4
  1A79 aTAI THAM SIGN KHUEN TONE-5dRA HAAMdMAI SAMdKHUEN-LUE KARAN
  1A7F aTAI THAM COMBINING CRYPTOGRAMMIC DOTcHORA DIGIT ZEROeONEeTWOeTHREEeFOUReFIVEeSIXeSEVEN
  1A88 aTAI THAM HORA DIGIT EIGHTeNINE
  1A90 aTAI THAM THAM DIGIT ZEROeONEeTWOeTHREEeFOUReFIVEeSIXeSEVENeEIGHTeNINE
  1AA0 aTAI THAM SIGN WIANGdWIANGWAAKdSAWANdKEOWdHOYdDOKMAIdREVERSED ROTATED RANAdMAI YAMOKdKAAN
  1AA9 aTAI THAM SIGN KAANKUUdSATKAANdSATKAANKUUdHANGdCAANG
  1AB0 aCOMBINING DOUBLED CIRCUMFLEX ACCENTbDIAERESIS-RINGbINFINITYbDOWNWARDS ARROWbTRIPLE DOT
  1AB5 aCOMBINING X-X BELOWbWIGGLY LINE BELOWbOPEN MARK BELOWbDOUBLE OPEN MARK BELOW
  1AB9 aCOMBINING LIGHT CENTRALIZATION STROKE BELOWbSTRONG CENTRALIZATION STROKE BELOW
  1ABB aCOMBINING PARENTHESES ABOVEbDOUBLE PARENTHESES ABOVEbPARENTHESES BELOWcOVERLAY
  1ABF aCOMBINING LATIN SMALL LETTER W BELOWeTURNED W BELOWbLEFT PARENTHESIS ABOVE LEFT
  1AC2 aCOMBINING RIGHT PARENTHESIS ABOVE RIGHTbLEFT PARENTHESIS BELOW LEFT
  1AC4 aCOMBINING RIGHT PARENTHESIS BELOW RIGHTbSQUARE BRACKETS ABOVEbNUMBER SIGN ABOVE
  1AC7 aCOMBINING INVERTED DOUBLE ARCH ABOVEbPLUS SIGN ABOVEbDOUBLE PLUS SIGN ABOVEeBELOW
  1ACB aCOMBINING TRIPLE ACUTE ACCENTbLATIN SMALL LETTER INSULAR GfRfT
  1B00 aBALINESE SIGN ULU RICEMdCANDRAcCECEKcSURANGcBISAHbLETTER AKARAdTEDUNGcIKARAdTEDUNGcUKARA
  1B0A aBALINESE LETTER UKARA TEDUNGcRA REPAeTEDUNGcLA LENGAeTEDUNGcEKARAcAIKARAcOKARAdTEDUNGcKA
  1B14 aBALINESE LETTER KA MAHAPRANAcGAdGORAcNGAcCAdLACAcJAdJERAcNYAcTA LATIKdMURDA MAHAPRANA
  1B1F aBALINESE LETTER DA MURDA ALPAPRANAeMAHAPRANAcNA RAMBATcTAdTAWAcDAdMADUcNAcPAdKAPALcBA
  1B2A aBALINESE LETTER BA KEMBANGcMAcYAcRAcLAcWAcSA SAGAdSAPAcSAcHAbSIGN REREKAN
  1B35 aBALINESE VOWEL SIGN TEDUNGdULUeSARIdSUKUeILUTdRA REPAfTEDUNGdLA LENGAfTEDUNGdTALINGeREPA
  1B40 aBALINESE VOWEL SIGN TALING TEDUNGeREPA TEDUNGdPEPETeTEDUNGbADEG ADEGbLETTER KAF SASAK
  1B46 aBALINESE LETTER KHOT SASAKcTZIR SASAKcEF SASAKcVE SASAKcZAL SASAKcASYURA SASAK
  1B4C aBALINESE LETTER ARCHAIC JNYA
  1B50 aBALINESE DIGIT ZEROcONEcTWOcTHREEcFOURcFIVEcSIXcSEVENcEIGHTcNINEbPANTIbPAMADAbWINDU
  1B5D aBALINESE CARIK PAMUNGKAHcSIKIcPARERENbPAMENENGbMUSICAL SYMBOL DONGdDENGdDUNGdDANGeSURANG
  1B66 aBALINESE MUSICAL SYMBOL DINGdDAENGdDEUNGdDAINGdDANG GEDEdCOMBINING TEGEHeENDEPeKEMPUL
  1B6E aBALINESE MUSICAL SYMBOL COMBINING KEMPLIeJEGOGANeKEMPUL WITH JEGOGANeKEMPLI WITH JEGOGAN
  1B72 aBALINESE MUSICAL SYMBOL COMBINING BENDEeGONGdRIGHT-HAND OPEN DUGfDAGeCLOSED TUKfTAK
  1B78 aBALINESE MUSICAL SYMBOL LEFT-HAND OPEN PANGfPUNGeCLOSED PLAKfPLUKeOPEN PINGbPANTI LANTANG
  1B7E aBALINESE PAMADA LANTANG
  1B80 aSUNDANESE SIGN PANYECEKcPANGLAYARcPANGWISADbLETTER AcIcUcAEcOcEcEUcKAcQAcGAcNGAcCAcJAcZA
  1B91 aSUNDANESE LETTER NYAcTAcDAcNAcPAcFAcVAcBAcMAcYAcRAcLAcWAcSAcXAcHAbCONSONANT SIGN PAMINGKAL
  1BA2 aSUNDANESE CONSONANT SIGN PANYAKRAdPANYIKUbVOWEL SIGN PANGHULUdPANYUKUdPANAELAENGdPANOLONG
  1BA8 aSUNDANESE VOWEL SIGN PAMEPETdPANEULEUNGbSIGN PAMAAEHcVIRAMAbCONSONANT SIGN PASANGAN MAeWA
  1BAE aSUNDANESE LETTER KHAcSYAbDIGIT ZEROcONEcTWOcTHREEcFOURcFIVEcSIXcSEVENcEIGHTcNINEbAVAGRAHA
  1BBB aSUNDANESE LETTER REUcLEUcBHAcFINAL KdMaBATAK LETTER AcSIMALUNGUN AcHAcSIMALUNGUN HA
  1BC4 aBATAK LETTER MANDAILING HAcBAcKARO BAcPAcSIMALUNGUN PAcNAcMANDAILING NAcWAcSIMALUNGUN WA
  1BCD aBATAK LETTER PAKPAK WAcGAcSIMALUNGUN GAcJAcDAcRAcSIMALUNGUN RAcMAcSIMALUNGUN MA
  1BD6 aBATAK LETTER SOUTHERN TAcNORTHERN TAcSAcSIMALUNGUN SAcMANDAILING SAcYAcSIMALUNGUN YAcNGA
  1BDE aBATAK LETTER LAcSIMALUNGUN LAcNYAcCAcNDAcMBAcIcUbSIGN TOMPIbVOWEL SIGN EdPAKPAK EdEEdI
  1BEB aBATAK VOWEL SIGN KARO IdOdKARO OdUeFOR SIMALUNGUN SAbCONSONANT SIGN NGdHbPANGOLAT
  1BF3 aBATAK PANONGONAN
  1BFC aBATAK SYMBOL BINDU NA METEKdPINARBORASdJUDULdPANGOLATaLEPCHA LETTER KAcKLAcKHAcGAcGLAcNGA
  1C06 aLEPCHA LETTER CAcCHAcJAcNYAcTAcTHAcDAcNAcPAcPLAcPHAcFAcFLAcBAcBLAcMAcMLAcTSAcTSHAcDZAcYA
  1C1B aLEPCHA LETTER RAcLAcHAcHLAcVAcSAcSHAcWAcAbSUBJOINED LETTER YAdRAbVOWEL SIGN AAdIdOdOOdUdUU
  1C2C aLEPCHA VOWEL SIGN EbCONSONANT SIGN KdMdLdNdPdRdTdNYIN-DOdKANGbSIGN RANcNUKTA
  1C3B aLEPCHA PUNCTUATION TA-ROLcNYET THYOOM TA-ROLcCER-WAcTSHOOK CER-WAcTSHOOKbDIGIT ZEROcONE
  1C42 aLEPCHA DIGIT TWOcTHREEcFOURcFIVEcSIXcSEVENcEIGHTcNINE
  1C4D aLEPCHA LETTER TTAcTTHAcDDAaOL CHIKI DIGIT ZEROdONEdTWOdTHREEdFOURdFIVEdSIXdSEVENdEIGHT
  1C59 aOL CHIKI DIGIT NINEcLETTER LAdATdAGdANGdALdLAAdAAKdAAJdAAMdAAWdLIdISdIHdINYdIRdLUdUCdUD
  1C6C aOL CHIKI LETTER UNNdUYdLEdEPdEDDdENdERRdLOdOTTdOBdOVdOHcMU TTUDDAGcGAAHLAA TTUDDAAG
  1C7A aOL CHIKI MU-GAAHLAA TTUDDAAGcRELAAcPHAARKAAcAHADcPUNCTUATION MUCAADdDOUBLE MUCAAD
  1C80 aCYRILLIC SMALL LETTER ROUNDED VEdLONG-LEGGED DEdNARROW OdWIDE ESdTALL TEdTHREE-LEGGED TE
  1C86 aCYRILLIC SMALL LETTER TALL HARD SIGNeYATdUNBLENDED UK
  1C90 aGEORGIAN MTAVRULI CAPITAL LETTER ANeBANeGANeDONeENeVINeZENeTANeINeKANeLASeMANeNAReONePAR
  1C9F aGEORGIAN MTAVRULI CAPITAL LETTER ZHAReRAEeSANeTAReUNePHAReKHAReGHANeQAReSHINeCHINeCANeJIL
  1CAC aGEORGIAN MTAVRULI CAPITAL LETTER CILeCHAReXANeJHANeHAEeHEeHIEeWEeHAReHOEeFIeYNeELIFI
  1CB9 aGEORGIAN MTAVRULI CAPITAL LETTER TURNED GANeAIN
  1CBD aGEORGIAN MTAVRULI CAPITAL LETTER AENeHARD SIGNeLABIAL SIGN
  1CC0 aSUNDANESE PUNCTUATION BINDU SURYAdPANGLONGdPURNAMAdCAKRAdLEU SATANGAdKA SATANGAdDA SATANGA
  1CC7 aSUNDANESE PUNCTUATION BINDU BA SATANGA
  1CD0 aVEDIC TONE KARSHANAcSHARAcPRENKHAbSIGN NIHSHVASAcYAJURVEDIC MIDLINE SVARITA
  1CD5 aVEDIC TONE YAJURVEDIC AGGRAVATED INDEPENDENT SVARITAdINDEPENDENT SVARITA
  1CD7 aVEDIC TONE YAJURVEDIC KATHAKA INDEPENDENT SVARITAcCANDRA BELOW
  1CD9 aVEDIC TONE YAJURVEDIC KATHAKA INDEPENDENT SVARITA SCHROEDERcDOUBLE SVARITAcTRIPLE SVARITA
  1CDC aVEDIC TONE KATHAKA ANUDATTAcDOT BELOWcTWO DOTS BELOWcTHREE DOTS BELOW
  1CE0 aVEDIC TONE RIGVEDIC KASHMIRI INDEPENDENT SVARITAcATHARVAVEDIC INDEPENDENT SVARITA
  1CE2 aVEDIC SIGN VISARGA SVARITAdUDATTAcREVERSED VISARGA UDATTAcVISARGA ANUDATTA
  1CE6 aVEDIC SIGN REVERSED VISARGA ANUDATTAcVISARGA UDATTA WITH TAILdANUDATTA WITH TAIL
  1CE9 aVEDIC SIGN ANUSVARA ANTARGOMUKHAdBAHIRGOMUKHAdVAMAGOMUKHAeWITH TAILcTIRYAK
  1CEE aVEDIC SIGN HEXIFORM LONG ANUSVARAcLONG ANUSVARAcRTHANG LONG ANUSVARA
  1CF1 aVEDIC SIGN ANUSVARA UBHAYATO MUKHAcARDHAVISARGAcROTATED ARDHAVISARGAbTONE CANDRA ABOVE
  1CF5 aVEDIC SIGN JIHVAMULIYAcUPADHMANIYAcATIKRAMAbTONE RING ABOVEcDOUBLE RING ABOVE
  1CFA aVEDIC SIGN DOUBLE ANUSVARA ANTARGOMUKHA
  1D00 aLATIN LETTER SMALL CAPITAL AeAEbSMALL LETTER TURNED AEbLETTER SMALL CAPITAL BARRED BeCeD
  1D06 aLATIN LETTER SMALL CAPITAL ETHeEbSMALL LETTER TURNED OPEN EeIbLETTER SMALL CAPITAL JeK
  1D0C aLATIN LETTER SMALL CAPITAL L WITH STROKEeMeREVERSED NeOeOPEN ObSMALL LETTER SIDEWAYS O
  1D12 aLATIN SMALL LETTER SIDEWAYS OPEN OeO WITH STROKEdTURNED OEbLETTER SMALL CAPITAL OU
  1D16 aLATIN SMALL LETTER TOP HALF OdBOTTOM HALF ObLETTER SMALL CAPITAL PeREVERSED ReTURNED ReTeU
  1D1D aLATIN SMALL LETTER SIDEWAYS UeDIAERESIZED UeTURNED MbLETTER SMALL CAPITAL VeWeZeEZH
  1D24 aLATIN LETTER VOICED LARYNGEAL SPIRANTcAINaGREEK LETTER SMALL CAPITAL GAMMAeLAMDAePIeRHO
  1D2A aGREEK LETTER SMALL CAPITAL PSIaCYRILLIC LETTER SMALL CAPITAL ELaMODIFIER LETTER CAPITAL A
  1D2D aMODIFIER LETTER CAPITAL AEdBdBARRED BdDdEdREVERSED EdGdHdIdJdKdLdMdNdREVERSED NdOdOUdPdRdT
  1D41 aMODIFIER LETTER CAPITAL UdWcSMALL AdTURNED AdALPHAdTURNED AEdBdDdEdSCHWAdOPEN E
  1D4C aMODIFIER LETTER SMALL TURNED OPEN EdGdTURNED IdKdMdENGdOdOPEN OdTOP HALF OdBOTTOM HALF OdP
  1D57 aMODIFIER LETTER SMALL TdUdSIDEWAYS UdTURNED MdVdAINdBETAdGREEK GAMMAdDELTAdGREEK PHIdCHI
  1D62 aLATIN SUBSCRIPT SMALL LETTER IeReUeVaGREEK SUBSCRIPT SMALL LETTER BETAeGAMMAeRHOePHIeCHI
  1D6B aLATIN SMALL LETTER UEdB WITH MIDDLE TILDEdD WITH MIDDLE TILDEdF WITH MIDDLE TILDE
  1D6F aLATIN SMALL LETTER M WITH MIDDLE TILDEdN WITH MIDDLE TILDEdP WITH MIDDLE TILDE
  1D72 aLATIN SMALL LETTER R WITH MIDDLE TILDEfFISHHOOK AND MIDDLE TILDEdS WITH MIDDLE TILDE
  1D75 aLATIN SMALL LETTER T WITH MIDDLE TILDEdZ WITH MIDDLE TILDEdTURNED G
  1D78 aMODIFIER LETTER CYRILLIC ENaLATIN SMALL LETTER INSULAR GdTH WITH STRIKETHROUGH
  1D7B aLATIN SMALL CAPITAL LETTER I WITH STROKEcLETTER IOTA WITH STROKEdP WITH STROKE
  1D7E aLATIN SMALL CAPITAL LETTER U WITH STROKEcLETTER UPSILON WITH STROKEdB WITH PALATAL HOOK
  1D81 aLATIN SMALL LETTER D WITH PALATAL HOOKdF WITH PALATAL HOOKdG WITH PALATAL HOOK
  1D84 aLATIN SMALL LETTER K WITH PALATAL HOOKdL WITH PALATAL HOOKdM WITH PALATAL HOOK
  1D87 aLATIN SMALL LETTER N WITH PALATAL HOOKdP WITH PALATAL HOOKdR WITH PALATAL HOOK
  1D8A aLATIN SMALL LETTER S WITH PALATAL HOOKdESH WITH PALATAL HOOKdV WITH PALATAL HOOK
  1D8D aLATIN SMALL LETTER X WITH PALATAL HOOKdZ WITH PALATAL HOOKdA WITH RETROFLEX HOOK
  1D90 aLATIN SMALL LETTER ALPHA WITH RETROFLEX HOOKdD WITH HOOK AND TAILdE WITH RETROFLEX HOOK
  1D93 aLATIN SMALL LETTER OPEN E WITH RETROFLEX HOOKdREVERSED OPEN E WITH RETROFLEX HOOK
  1D95 aLATIN SMALL LETTER SCHWA WITH RETROFLEX HOOKdI WITH RETROFLEX HOOK
  1D97 aLATIN SMALL LETTER OPEN O WITH RETROFLEX HOOKdESH WITH RETROFLEX HOOK
  1D99 aLATIN SMALL LETTER U WITH RETROFLEX HOOKdEZH WITH RETROFLEX HOOK
  1D9B aMODIFIER LETTER SMALL TURNED ALPHAdCeWITH CURLdETHdREVERSED OPEN EdFdDOTLESS J WITH STROKE
  1DA2 aMODIFIER LETTER SMALL SCRIPT GdTURNED HdI WITH STROKEdIOTAdCAPITAL IfWITH STROKE
  1DA8 aMODIFIER LETTER SMALL J WITH CROSSED-TAILdL WITH RETROFLEX HOOKfPALATAL HOOKdCAPITAL L
  1DAC aMODIFIER LETTER SMALL M WITH HOOKdTURNED M WITH LONG LEGdN WITH LEFT HOOKfRETROFLEX HOOK
  1DB0 aMODIFIER LETTER SMALL CAPITAL NdBARRED OdPHIdS WITH HOOKdESHdT WITH PALATAL HOOKdU BAR
  1DB7 aMODIFIER LETTER SMALL UPSILONdCAPITAL UdV WITH HOOKdTURNED VdZeWITH RETROFLEX HOOKfCURL
  1DBE aMODIFIER LETTER SMALL EZHdTHETAaCOMBINING DOTTED GRAVE ACCENTcACUTE ACCENTbSNAKE BELOW
  1DC3 aCOMBINING SUSPENSION MARKbMACRON-ACUTEbGRAVE-MACRONbMACRON-GRAVEbACUTE-MACRON
  1DC8 aCOMBINING GRAVE-ACUTE-GRAVEbACUTE-GRAVE-ACUTEbLATIN SMALL LETTER R BELOWbBREVE-MACRON
  1DCC aCOMBINING MACRON-BREVEbDOUBLE CIRCUMFLEX ABOVEbOGONEK ABOVEbZIGZAG BELOWbIS BELOWbUR ABOVE
  1DD2 aCOMBINING US ABOVEbLATIN SMALL LETTER FLATTENED OPEN A ABOVEeAEeAOeAVeC CEDILLAeINSULAR D
  1DD9 aCOMBINING LATIN SMALL LETTER ETHeGcLETTER SMALL CAPITAL GcSMALL LETTER KeL
  1DDE aCOMBINING LATIN LETTER SMALL CAPITAL LfMcSMALL LETTER NcLETTER SMALL CAPITAL NfR
  1DE3 aCOMBINING LATIN SMALL LETTER R ROTUNDAeSeLONG SeZeALPHAeBeBETAeSCHWAeF
  1DEC aCOMBINING LATIN SMALL LETTER L WITH DOUBLE MIDDLE TILDEeO WITH LIGHT CENTRALIZATION STROKE
  1DEE aCOMBINING LATIN SMALL LETTER PeESHeU WITH LIGHT CENTRALIZATION STROKEeWeA WITH DIAERESIS
  1DF3 aCOMBINING LATIN SMALL LETTER O WITH DIAERESISeU WITH DIAERESISbUP TACK ABOVE
  1DF6 aCOMBINING KAVYKA ABOVE RIGHTdLEFTbDOT ABOVE LEFTbWIDE INVERTED BRIDGE BELOWbDOT BELOW LEFT
  1DFB aCOMBINING DELETION MARKbDOUBLE INVERTED BREVE BELOWbALMOST EQUAL TO BELOW
  1DFE aCOMBINING LEFT ARROWHEAD ABOVEbRIGHT ARROWHEAD AND DOWN ARROWHEAD BELOW
  1E00 aLATIN CAPITAL LETTER A WITH RING BELOWbSMALL LETTER A WITH RING BELOW
  1E02 aLATIN CAPITAL LETTER B WITH DOT ABOVEbSMALL LETTER B WITH DOT ABOVE
  1E04 aLATIN CAPITAL LETTER B WITH DOT BELOWbSMALL LETTER B WITH DOT BELOW
  1E06 aLATIN CAPITAL LETTER B WITH LINE BELOWbSMALL LETTER B WITH LINE BELOW
  1E08 aLATIN CAPITAL LETTER C WITH CEDILLA AND ACUTEbSMALL LETTER C WITH CEDILLA AND ACUTE
  1E0A aLATIN CAPITAL LETTER D WITH DOT ABOVEbSMALL LETTER D WITH DOT ABOVE
  1E0C aLATIN CAPITAL LETTER D WITH DOT BELOWbSMALL LETTER D WITH DOT BELOW
  1E0E aLATIN CAPITAL LETTER D WITH LINE BELOWbSMALL LETTER D WITH LINE BELOW
  1E10 aLATIN CAPITAL LETTER D WITH CEDILLAbSMALL LETTER D WITH CEDILLA
  1E12 aLATIN CAPITAL LETTER D WITH CIRCUMFLEX BELOWbSMALL LETTER D WITH CIRCUMFLEX BELOW
  1E14 aLATIN CAPITAL LETTER E WITH MACRON AND GRAVEbSMALL LETTER E WITH MACRON AND GRAVE
  1E16 aLATIN CAPITAL LETTER E WITH MACRON AND ACUTEbSMALL LETTER E WITH MACRON AND ACUTE
  1E18 aLATIN CAPITAL LETTER E WITH CIRCUMFLEX BELOWbSMALL LETTER E WITH CIRCUMFLEX BELOW
  1E1A aLATIN CAPITAL LETTER E WITH TILDE BELOWbSMALL LETTER E WITH TILDE BELOW
  1E1C aLATIN CAPITAL LETTER E WITH CEDILLA AND BREVEbSMALL LETTER E WITH CEDILLA AND BREVE
  1E1E aLATIN CAPITAL LETTER F WITH DOT ABOVEbSMALL LETTER F WITH DOT ABOVE
  1E20 aLATIN CAPITAL LETTER G WITH MACRONbSMALL LETTER G WITH MACRON
  1E22 aLATIN CAPITAL LETTER H WITH DOT ABOVEbSMALL LETTER H WITH DOT ABOVE
  1E24 aLATIN CAPITAL LETTER H WITH DOT BELOWbSMALL LETTER H WITH DOT BELOW
  1E26 aLATIN CAPITAL LETTER H WITH DIAERESISbSMALL LETTER H WITH DIAERESIS
  1E28 aLATIN CAPITAL LETTER H WITH CEDILLAbSMALL LETTER H WITH CEDILLA
  1E2A aLATIN CAPITAL LETTER H WITH BREVE BELOWbSMALL LETTER H WITH BREVE BELOW
  1E2C aLATIN CAPITAL LETTER I WITH TILDE BELOWbSMALL LETTER I WITH TILDE BELOW
  1E2E aLATIN CAPITAL LETTER I WITH DIAERESIS AND ACUTEbSMALL LETTER I WITH DIAERESIS AND ACUTE
  1E30 aLATIN CAPITAL LETTER K WITH ACUTEbSMALL LETTER K WITH ACUTE
  1E32 aLATIN CAPITAL LETTER K WITH DOT BELOWbSMALL LETTER K WITH DOT BELOW
  1E34 aLATIN CAPITAL LETTER K WITH LINE BELOWbSMALL LETTER K WITH LINE BELOW
  1E36 aLATIN CAPITAL LETTER L WITH DOT BELOWbSMALL LETTER L WITH DOT BELOW
  1E38 aLATIN CAPITAL LETTER L WITH DOT BELOW AND MACRONbSMALL LETTER L WITH DOT BELOW AND MACRON
  1E3A aLATIN CAPITAL LETTER L WITH LINE BELOWbSMALL LETTER L WITH LINE BELOW
  1E3C aLATIN CAPITAL LETTER L WITH CIRCUMFLEX BELOWbSMALL LETTER L WITH CIRCUMFLEX BELOW
  1E3E aLATIN CAPITAL LETTER M WITH ACUTEbSMALL LETTER M WITH ACUTE
  1E40 aLATIN CAPITAL LETTER M WITH DOT ABOVEbSMALL LETTER M WITH DOT ABOVE
  1E42 aLATIN CAPITAL LETTER M WITH DOT BELOWbSMALL LETTER M WITH DOT BELOW
  1E44 aLATIN CAPITAL LETTER N WITH DOT ABOVEbSMALL LETTER N WITH DOT ABOVE
  1E46 aLATIN CAPITAL LETTER N WITH DOT BELOWbSMALL LETTER N WITH DOT BELOW
  1E48 aLATIN CAPITAL LETTER N WITH LINE BELOWbSMALL LETTER N WITH LINE BELOW
  1E4A aLATIN CAPITAL LETTER N WITH CIRCUMFLEX BELOWbSMALL LETTER N WITH CIRCUMFLEX BELOW
  1E4C aLATIN CAPITAL LETTER O WITH TILDE AND ACUTEbSMALL LETTER O WITH TILDE AND ACUTE
  1E4E aLATIN CAPITAL LETTER O WITH TILDE AND DIAERESISbSMALL LETTER O WITH TILDE AND DIAERESIS
  1E50 aLATIN CAPITAL LETTER O WITH MACRON AND GRAVEbSMALL LETTER O WITH MACRON AND GRAVE
  1E52 aLATIN CAPITAL LETTER O WITH MACRON AND ACUTEbSMALL LETTER O WITH MACRON AND ACUTE
  1E54 aLATIN CAPITAL LETTER P WITH ACUTEbSMALL LETTER P WITH ACUTE
  1E56 aLATIN CAPITAL LETTER P WITH DOT ABOVEbSMALL LETTER P WITH DOT ABOVE
  1E58 aLATIN CAPITAL LETTER R WITH DOT ABOVEbSMALL LETTER R WITH DOT ABOVE
  1E5A aLATIN CAPITAL LETTER R WITH DOT BELOWbSMALL LETTER R WITH DOT BELOW
  1E5C aLATIN CAPITAL LETTER R WITH DOT BELOW AND MACRONbSMALL LETTER R WITH DOT BELOW AND MACRON
  1E5E aLATIN CAPITAL LETTER R WITH LINE BELOWbSMALL LETTER R WITH LINE BELOW
  1E60 aLATIN CAPITAL LETTER S WITH DOT ABOVEbSMALL LETTER S WITH DOT ABOVE
  1E62 aLATIN CAPITAL LETTER S WITH DOT BELOWbSMALL LETTER S WITH DOT BELOW
  1E64 aLATIN CAPITAL LETTER S WITH ACUTE AND DOT ABOVEbSMALL LETTER S WITH ACUTE AND DOT ABOVE
  1E66 aLATIN CAPITAL LETTER S WITH CARON AND DOT ABOVEbSMALL LETTER S WITH CARON AND DOT ABOVE
  1E68 aLATIN CAPITAL LETTER S WITH DOT BELOW AND DOT ABOVE
  1E69 aLATIN SMALL LETTER S WITH DOT BELOW AND DOT ABOVEbCAPITAL LETTER T WITH DOT ABOVE
  1E6B aLATIN SMALL LETTER T WITH DOT ABOVEbCAPITAL LETTER T WITH DOT BELOW
  1E6D aLATIN SMALL LETTER T WITH DOT BELOWbCAPITAL LETTER T WITH LINE BELOW
  1E6F aLATIN SMALL LETTER T WITH LINE BELOWbCAPITAL LETTER T WITH CIRCUMFLEX BELOW
  1E71 aLATIN SMALL LETTER T WITH CIRCUMFLEX BELOWbCAPITAL LETTER U WITH DIAERESIS BELOW
  1E73 aLATIN SMALL LETTER U WITH DIAERESIS BELOWbCAPITAL LETTER U WITH TILDE BELOW
  1E75 aLATIN SMALL LETTER U WITH TILDE BELOWbCAPITAL LETTER U WITH CIRCUMFLEX BELOW
  1E77 aLATIN SMALL LETTER U WITH CIRCUMFLEX BELOWbCAPITAL LETTER U WITH TILDE AND ACUTE
  1E79 aLATIN SMALL LETTER U WITH TILDE AND ACUTEbCAPITAL LETTER U WITH MACRON AND DIAERESIS
  1E7B aLATIN SMALL LETTER U WITH MACRON AND DIAERESISbCAPITAL LETTER V WITH TILDE
  1E7D aLATIN SMALL LETTER V WITH TILDEbCAPITAL LETTER V WITH DOT BELOW
  1E7F aLATIN SMALL LETTER V WITH DOT BELOWbCAPITAL LETTER W WITH GRAVEbSMALL LETTER W WITH GRAVE
  1E82 aLATIN CAPITAL LETTER W WITH ACUTEbSMALL LETTER W WITH ACUTE
  1E84 aLATIN CAPITAL LETTER W WITH DIAERESISbSMALL LETTER W WITH DIAERESIS
  1E86 aLATIN CAPITAL LETTER W WITH DOT ABOVEbSMALL LETTER W WITH DOT ABOVE
  1E88 aLATIN CAPITAL LETTER W WITH DOT BELOWbSMALL LETTER W WITH DOT BELOW
  1E8A aLATIN CAPITAL LETTER X WITH DOT ABOVEbSMALL LETTER X WITH DOT ABOVE
  1E8C aLATIN CAPITAL LETTER X WITH DIAERESISbSMALL LETTER X WITH DIAERESIS
  1E8E aLATIN CAPITAL LETTER Y WITH DOT ABOVEbSMALL LETTER Y WITH DOT ABOVE
  1E90 aLATIN CAPITAL LETTER Z WITH CIRCUMFLEXbSMALL LETTER Z WITH CIRCUMFLEX
  1E92 aLATIN CAPITAL LETTER Z WITH DOT BELOWbSMALL LETTER Z WITH DOT BELOW
  1E94 aLATIN CAPITAL LETTER Z WITH LINE BELOWbSMALL LETTER Z WITH LINE BELOWdH WITH LINE BELOW
  1E97 aLATIN SMALL LETTER T WITH DIAERESISdW WITH RING ABOVEdY WITH RING ABOVE
  1E9A aLATIN SMALL LETTER A WITH RIGHT HALF RINGdLONG S WITH DOT ABOVEgDIAGONAL STROKE
  1E9D aLATIN SMALL LETTER LONG S WITH HIGH STROKEbCAPITAL LETTER SHARP SbSMALL LETTER DELTA
  1EA0 aLATIN CAPITAL LETTER A WITH DOT BELOWbSMALL LETTER A WITH DOT BELOW
  1EA2 aLATIN CAPITAL LETTER A WITH HOOK ABOVEbSMALL LETTER A WITH HOOK ABOVE
  1EA4 aLATIN CAPITAL LETTER A WITH CIRCUMFLEX AND ACUTEbSMALL LETTER A WITH CIRCUMFLEX AND ACUTE
  1EA6 aLATIN CAPITAL LETTER A WITH CIRCUMFLEX AND GRAVEbSMALL LETTER A WITH CIRCUMFLEX AND GRAVE
  1EA8 aLATIN CAPITAL LETTER A WITH CIRCUMFLEX AND HOOK ABOVE
  1EA9 aLATIN SMALL LETTER A WITH CIRCUMFLEX AND HOOK ABOVE
  1EAA aLATIN CAPITAL LETTER A WITH CIRCUMFLEX AND TILDEbSMALL LETTER A WITH CIRCUMFLEX AND TILDE
  1EAC aLATIN CAPITAL LETTER A WITH CIRCUMFLEX AND DOT BELOW
  1EAD aLATIN SMALL LETTER A WITH CIRCUMFLEX AND DOT BELOWbCAPITAL LETTER A WITH BREVE AND ACUTE
  1EAF aLATIN SMALL LETTER A WITH BREVE AND ACUTEbCAPITAL LETTER A WITH BREVE AND GRAVE
  1EB1 aLATIN SMALL LETTER A WITH BREVE AND GRAVEbCAPITAL LETTER A WITH BREVE AND HOOK ABOVE
  1EB3 aLATIN SMALL LETTER A WITH BREVE AND HOOK ABOVEbCAPITAL LETTER A WITH BREVE AND TILDE
  1EB5 aLATIN SMALL LETTER A WITH BREVE AND TILDEbCAPITAL LETTER A WITH BREVE AND DOT BELOW
  1EB7 aLATIN SMALL LETTER A WITH BREVE AND DOT BELOWbCAPITAL LETTER E WITH DOT BELOW
  1EB9 aLATIN SMALL LETTER E WITH DOT BELOWbCAPITAL LETTER E WITH HOOK ABOVE
  1EBB aLATIN SMALL LETTER E WITH HOOK ABOVEbCAPITAL LETTER E WITH TILDEbSMALL LETTER E WITH TILDE
  1EBE aLATIN CAPITAL LETTER E WITH CIRCUMFLEX AND ACUTEbSMALL LETTER E WITH CIRCUMFLEX AND ACUTE
  1EC0 aLATIN CAPITAL LETTER E WITH CIRCUMFLEX AND GRAVEbSMALL LETTER E WITH CIRCUMFLEX AND GRAVE
  1EC2 aLATIN CAPITAL LETTER E WITH CIRCUMFLEX AND HOOK ABOVE
  1EC3 aLATIN SMALL LETTER E WITH CIRCUMFLEX AND HOOK ABOVE
  1EC4 aLATIN CAPITAL LETTER E WITH CIRCUMFLEX AND TILDEbSMALL LETTER E WITH CIRCUMFLEX AND TILDE
  1EC6 aLATIN CAPITAL LETTER E WITH CIRCUMFLEX AND DOT BELOW
  1EC7 aLATIN SMALL LETTER E WITH CIRCUMFLEX AND DOT BELOWbCAPITAL LETTER I WITH HOOK ABOVE
  1EC9 aLATIN SMALL LETTER I WITH HOOK ABOVEbCAPITAL LETTER I WITH DOT BELOW
  1ECB aLATIN SMALL LETTER I WITH DOT BELOWbCAPITAL LETTER O WITH DOT BELOW
  1ECD aLATIN SMALL LETTER O WITH DOT BELOWbCAPITAL LETTER O WITH HOOK ABOVE
  1ECF aLATIN SMALL LETTER O WITH HOOK ABOVEbCAPITAL LETTER O WITH CIRCUMFLEX AND ACUTE
  1ED1 aLATIN SMALL LETTER O WITH CIRCUMFLEX AND ACUTEbCAPITAL LETTER O WITH CIRCUMFLEX AND GRAVE
  1ED3 aLATIN SMALL LETTER O WITH CIRCUMFLEX AND GRAVE
  1ED4 aLATIN CAPITAL LETTER O WITH CIRCUMFLEX AND HOOK ABOVE
  1ED5 aLATIN SMALL LETTER O WITH CIRCUMFLEX AND HOOK ABOVE
  1ED6 aLATIN CAPITAL LETTER O WITH CIRCUMFLEX AND TILDEbSMALL LETTER O WITH CIRCUMFLEX AND TILDE
  1ED8 aLATIN CAPITAL LETTER O WITH CIRCUMFLEX AND DOT BELOW
  1ED9 aLATIN SMALL LETTER O WITH CIRCUMFLEX AND DOT BELOWbCAPITAL LETTER O WITH HORN AND ACUTE
  1EDB aLATIN SMALL LETTER O WITH HORN AND ACUTEbCAPITAL LETTER O WITH HORN AND GRAVE
  1EDD aLATIN SMALL LETTER O WITH HORN AND GRAVEbCAPITAL LETTER O WITH HORN AND HOOK ABOVE
  1EDF aLATIN SMALL LETTER O WITH HORN AND HOOK ABOVEbCAPITAL LETTER O WITH HORN AND TILDE
  1EE1 aLATIN SMALL LETTER O WITH HORN AND TILDEbCAPITAL LETTER O WITH HORN AND DOT BELOW
  1EE3 aLATIN SMALL LETTER O WITH HORN AND DOT BELOWbCAPITAL LETTER U WITH DOT BELOW
  1EE5 aLATIN SMALL LETTER U WITH DOT BELOWbCAPITAL LETTER U WITH HOOK ABOVE
  1EE7 aLATIN SMALL LETTER U WITH HOOK ABOVEbCAPITAL LETTER U WITH HORN AND ACUTE
  1EE9 aLATIN SMALL LETTER U WITH HORN AND ACUTEbCAPITAL LETTER U WITH HORN AND GRAVE
  1EEB aLATIN SMALL LETTER U WITH HORN AND GRAVEbCAPITAL LETTER U WITH HORN AND HOOK ABOVE
  1EED aLATIN SMALL LETTER U WITH HORN AND HOOK ABOVEbCAPITAL LETTER U WITH HORN AND TILDE
  1EEF aLATIN SMALL LETTER U WITH HORN AND TILDEbCAPITAL LETTER U WITH HORN AND DOT BELOW
  1EF1 aLATIN SMALL LETTER U WITH HORN AND DOT BELOWbCAPITAL LETTER Y WITH GRAVE
  1EF3 aLATIN SMALL LETTER Y WITH GRAVEbCAPITAL LETTER Y WITH DOT BELOW
  1EF5 aLATIN SMALL LETTER Y WITH DOT BELOWbCAPITAL LETTER Y WITH HOOK ABOVE
  1EF7 aLATIN SMALL LETTER Y WITH HOOK ABOVEbCAPITAL LETTER Y WITH TILDEbSMALL LETTER Y WITH TILDE
  1EFA aLATIN CAPITAL LETTER MIDDLE-WELSH LLbSMALL LETTER MIDDLE-WELSH LL
  1EFC aLATIN CAPITAL LETTER MIDDLE-WELSH VbSMALL LETTER MIDDLE-WELSH VbCAPITAL LETTER Y WITH LOOP
  1EFF aLATIN SMALL LETTER Y WITH LOOPaGREEK SMALL LETTER ALPHA WITH PSILIfDASIAfPSILI AND VARIA
  1F03 aGREEK SMALL LETTER ALPHA WITH DASIA AND VARIAfPSILI AND OXIAfDASIA AND OXIA
  1F06 aGREEK SMALL LETTER ALPHA WITH PSILI AND PERISPOMENIfDASIA AND PERISPOMENI
  1F08 aGREEK CAPITAL LETTER ALPHA WITH PSILIfDASIAfPSILI AND VARIAfDASIA AND VARIAfPSILI AND OXIA
  1F0D aGREEK CAPITAL LETTER ALPHA WITH DASIA AND OXIAfPSILI AND PERISPOMENIfDASIA AND PERISPOMENI
  1F10 aGREEK SMALL LETTER EPSILON WITH PSILIfDASIAfPSILI AND VARIAfDASIA AND VARIAfPSILI AND OXIA
  1F15 aGREEK SMALL LETTER EPSILON WITH DASIA AND OXIA
  1F18 aGREEK CAPITAL LETTER EPSILON WITH PSILIfDASIAfPSILI AND VARIAfDASIA AND VARIA
  1F1C aGREEK CAPITAL LETTER EPSILON WITH PSILI AND OXIAfDASIA AND OXIA
  1F20 aGREEK SMALL LETTER ETA WITH PSILIfDASIAfPSILI AND VARIAfDASIA AND VARIAfPSILI AND OXIA
  1F25 aGREEK SMALL LETTER ETA WITH DASIA AND OXIAfPSILI AND PERISPOMENIfDASIA AND PERISPOMENI
  1F28 aGREEK CAPITAL LETTER ETA WITH PSILIfDASIAfPSILI AND VARIAfDASIA AND VARIAfPSILI AND OXIA
  1F2D aGREEK CAPITAL LETTER ETA WITH DASIA AND OXIAfPSILI AND PERISPOMENIfDASIA AND PERISPOMENI
  1F30 aGREEK SMALL LETTER IOTA WITH PSILIfDASIAfPSILI AND VARIAfDASIA AND VARIAfPSILI AND OXIA
  1F35 aGREEK SMALL LETTER IOTA WITH DASIA AND OXIAfPSILI AND PERISPOMENIfDASIA AND PERISPOMENI
  1F38 aGREEK CAPITAL LETTER IOTA WITH PSILIfDASIAfPSILI AND VARIAfDASIA AND VARIAfPSILI AND OXIA
  1F3D aGREEK CAPITAL LETTER IOTA WITH DASIA AND OXIAfPSILI AND PERISPOMENIfDASIA AND PERISPOMENI
  1F40 aGREEK SMALL LETTER OMICRON WITH PSILIfDASIAfPSILI AND VARIAfDASIA AND VARIAfPSILI AND OXIA
  1F45 aGREEK SMALL LETTER OMICRON WITH DASIA AND OXIA
  1F48 aGREEK CAPITAL LETTER OMICRON WITH PSILIfDASIAfPSILI AND VARIAfDASIA AND VARIA
  1F4C aGREEK CAPITAL LETTER OMICRON WITH PSILI AND OXIAfDASIA AND OXIA
  1F50 aGREEK SMALL LETTER UPSILON WITH PSILIfDASIAfPSILI AND VARIAfDASIA AND VARIAfPSILI AND OXIA
  1F55 aGREEK SMALL LETTER UPSILON WITH DASIA AND OXIAfPSILI AND PERISPOMENIfDASIA AND PERISPOMENI
  1F59 aGREEK CAPITAL LETTER UPSILON WITH DASIA
  1F5B aGREEK CAPITAL LETTER UPSILON WITH DASIA AND VARIA
  1F5D aGREEK CAPITAL LETTER UPSILON WITH DASIA AND OXIA
  1F5F aGREEK CAPITAL LETTER UPSILON WITH DASIA AND PERISPOMENIbSMALL LETTER OMEGA WITH PSILI
  1F61 aGREEK SMALL LETTER OMEGA WITH DASIAfPSILI AND VARIAfDASIA AND VARIAfPSILI AND OXIA
  1F65 aGREEK SMALL LETTER OMEGA WITH DASIA AND OXIAfPSILI AND PERISPOMENIfDASIA AND PERISPOMENI
  1F68 aGREEK CAPITAL LETTER OMEGA WITH PSILIfDASIAfPSILI AND VARIAfDASIA AND VARIAfPSILI AND OXIA
  1F6D aGREEK CAPITAL LETTER OMEGA WITH DASIA AND OXIAfPSILI AND PERISPOMENIfDASIA AND PERISPOMENI
  1F70 aGREEK SMALL LETTER ALPHA WITH VARIAfOXIAdEPSILON WITH VARIAfOXIAdETA WITH VARIAfOXIA
  1F76 aGREEK SMALL LETTER IOTA WITH VARIAfOXIAdOMICRON WITH VARIAfOXIAdUPSILON WITH VARIAfOXIA
  1F7C aGREEK SMALL LETTER OMEGA WITH VARIAfOXIA
  1F80 aGREEK SMALL LETTER ALPHA WITH PSILI AND YPOGEGRAMMENIfDASIA AND YPOGEGRAMMENI
  1F82 aGREEK SMALL LETTER ALPHA WITH PSILI AND VARIA AND YPOGEGRAMMENI
  1F83 aGREEK SMALL LETTER ALPHA WITH DASIA AND VARIA AND YPOGEGRAMMENI
  1F84 aGREEK SMALL LETTER ALPHA WITH PSILI AND OXIA AND YPOGEGRAMMENI
  1F85 aGREEK SMALL LETTER ALPHA WITH DASIA AND OXIA AND YPOGEGRAMMENI
  1F86 aGREEK SMALL LETTER ALPHA WITH PSILI AND PERISPOMENI AND YPOGEGRAMMENI
  1F87 aGREEK SMALL LETTER ALPHA WITH DASIA AND PERISPOMENI AND YPOGEGRAMMENI
  1F88 aGREEK CAPITAL LETTER ALPHA WITH PSILI AND PROSGEGRAMMENIfDASIA AND PROSGEGRAMMENI
  1F8A aGREEK CAPITAL LETTER ALPHA WITH PSILI AND VARIA AND PROSGEGRAMMENI
  1F8B aGREEK CAPITAL LETTER ALPHA WITH DASIA AND VARIA AND PROSGEGRAMMENI
  1F8C aGREEK CAPITAL LETTER ALPHA WITH PSILI AND OXIA AND PROSGEGRAMMENI
  1F8D aGREEK CAPITAL LETTER ALPHA WITH DASIA AND OXIA AND PROSGEGRAMMENI
  1F8E aGREEK CAPITAL LETTER ALPHA WITH PSILI AND PERISPOMENI AND PROSGEGRAMMENI
  1F8F aGREEK CAPITAL LETTER ALPHA WITH DASIA AND PERISPOMENI AND PROSGEGRAMMENI
  1F90 aGREEK SMALL LETTER ETA WITH PSILI AND YPOGEGRAMMENIfDASIA AND YPOGEGRAMMENI
  1F92 aGREEK SMALL LETTER ETA WITH PSILI AND VARIA AND YPOGEGRAMMENI
  1F93 aGREEK SMALL LETTER ETA WITH DASIA AND VARIA AND YPOGEGRAMMENI
  1F94 aGREEK SMALL LETTER ETA WITH PSILI AND OXIA AND YPOGEGRAMMENI
  1F95 aGREEK SMALL LETTER ETA WITH DASIA AND OXIA AND YPOGEGRAMMENI
  1F96 aGREEK SMALL LETTER ETA WITH PSILI AND PERISPOMENI AND YPOGEGRAMMENI
  1F97 aGREEK SMALL LETTER ETA WITH DASIA AND PERISPOMENI AND YPOGEGRAMMENI
  1F98 aGREEK CAPITAL LETTER ETA WITH PSILI AND PROSGEGRAMMENIfDASIA AND PROSGEGRAMMENI
  1F9A aGREEK CAPITAL LETTER ETA WITH PSILI AND VARIA AND PROSGEGRAMMENI
  1F9B aGREEK CAPITAL LETTER ETA WITH DASIA AND VARIA AND PROSGEGRAMMENI
  1F9C aGREEK CAPITAL LETTER ETA WITH PSILI AND OXIA AND PROSGEGRAMMENI
  1F9D aGREEK CAPITAL LETTER ETA WITH DASIA AND OXIA AND PROSGEGRAMMENI
  1F9E aGREEK CAPITAL LETTER ETA WITH PSILI AND PERISPOMENI AND PROSGEGRAMMENI
  1F9F aGREEK CAPITAL LETTER ETA WITH DASIA AND PERISPOMENI AND PROSGEGRAMMENI
  1FA0 aGREEK SMALL LETTER OMEGA WITH PSILI AND YPOGEGRAMMENIfDASIA AND YPOGEGRAMMENI
  1FA2 aGREEK SMALL LETTER OMEGA WITH PSILI AND VARIA AND YPOGEGRAMMENI
  1FA3 aGREEK SMALL LETTER OMEGA WITH DASIA AND VARIA AND YPOGEGRAMMENI
  1FA4 aGREEK SMALL LETTER OMEGA WITH PSILI AND OXIA AND YPOGEGRAMMENI
  1FA5 aGREEK SMALL LETTER OMEGA WITH DASIA AND OXIA AND YPOGEGRAMMENI
  1FA6 aGREEK SMALL LETTER OMEGA WITH PSILI AND PERISPOMENI AND YPOGEGRAMMENI
  1FA7 aGREEK SMALL LETTER OMEGA WITH DASIA AND PERISPOMENI AND YPOGEGRAMMENI
  1FA8 aGREEK CAPITAL LETTER OMEGA WITH PSILI AND PROSGEGRAMMENIfDASIA AND PROSGEGRAMMENI
  1FAA aGREEK CAPITAL LETTER OMEGA WITH PSILI AND VARIA AND PROSGEGRAMMENI
  1FAB aGREEK CAPITAL LETTER OMEGA WITH DASIA AND VARIA AND PROSGEGRAMMENI
  1FAC aGREEK CAPITAL LETTER OMEGA WITH PSILI AND OXIA AND PROSGEGRAMMENI
  1FAD aGREEK CAPITAL LETTER OMEGA WITH DASIA AND OXIA AND PROSGEGRAMMENI
  1FAE aGREEK CAPITAL LETTER OMEGA WITH PSILI AND PERISPOMENI AND PROSGEGRAMMENI
  1FAF aGREEK CAPITAL LETTER OMEGA WITH DASIA AND PERISPOMENI AND PROSGEGRAMMENI
  1FB0 aGREEK SMALL LETTER ALPHA WITH VRACHYfMACRONfVARIA AND YPOGEGRAMMENIfYPOGEGRAMMENI
  1FB4 aGREEK SMALL LETTER ALPHA WITH OXIA AND YPOGEGRAMMENI
  1FB6 aGREEK SMALL LETTER ALPHA WITH PERISPOMENIgAND YPOGEGRAMMENI
  1FB8 aGREEK CAPITAL LETTER ALPHA WITH VRACHYfMACRONfVARIAfOXIAfPROSGEGRAMMENIbKORONIS
  1FBE aGREEK PROSGEGRAMMENIbPSILIbPERISPOMENIbDIALYTIKA AND PERISPOMENI
  1FC2 aGREEK SMALL LETTER ETA WITH VARIA AND YPOGEGRAMMENIfYPOGEGRAMMENIfOXIA AND YPOGEGRAMMENI
  1FC6 aGREEK SMALL LETTER ETA WITH PERISPOMENIgAND YPOGEGRAMMENI
  1FC8 aGREEK CAPITAL LETTER EPSILON WITH VARIAfOXIAdETA WITH VARIAfOXIAfPROSGEGRAMMENI
  1FCD aGREEK PSILI AND VARIAdOXIAdPERISPOMENIbSMALL LETTER IOTA WITH VRACHYfMACRON
  1FD2 aGREEK SMALL LETTER IOTA WITH DIALYTIKA AND VARIAhOXIA
  1FD6 aGREEK SMALL LETTER IOTA WITH PERISPOMENIfDIALYTIKA AND PERISPOMENI
  1FD8 aGREEK CAPITAL LETTER IOTA WITH VRACHYfMACRONfVARIAfOXIA
  1FDD aGREEK DASIA AND VARIAdOXIAdPERISPOMENIbSMALL LETTER UPSILON WITH VRACHYfMACRON
  1FE2 aGREEK SMALL LETTER UPSILON WITH DIALYTIKA AND VARIAhOXIAdRHO WITH PSILIfDASIA
  1FE6 aGREEK SMALL LETTER UPSILON WITH PERISPOMENIfDIALYTIKA AND PERISPOMENI
  1FE8 aGREEK CAPITAL LETTER UPSILON WITH VRACHYfMACRONfVARIAfOXIAdRHO WITH DASIA
  1FED aGREEK DIALYTIKA AND VARIAdOXIAbVARIA
  1FF2 aGREEK SMALL LETTER OMEGA WITH VARIA AND YPOGEGRAMMENIfYPOGEGRAMMENIfOXIA AND YPOGEGRAMMENI
  1FF6 aGREEK SMALL LETTER OMEGA WITH PERISPOMENIgAND YPOGEGRAMMENI
  1FF8 aGREEK CAPITAL LETTER OMICRON WITH VARIAfOXIAdOMEGA WITH VARIAfOXIAfPROSGEGRAMMENIbOXIA
  1FFE aGREEK DASIA
  2000 aEN QUADaEM QUADaEN SPACEaEM SPACEaTHREE-PER-EM SPACEaFOUR-PER-EM SPACEaSIX-PER-EM SPACE
  2007 aFIGURE SPACEaPUNCTUATION SPACEaTHIN SPACEaHAIR SPACEaZERO WIDTH SPACEcNON-JOINERcJOINER
  200E aLEFT-TO-RIGHT MARKaRIGHT-TO-LEFT MARKaHYPHENaNON-BREAKING HYPHENaFIGURE DASHaEN DASH
  2014 aEM DASHaHORIZONTAL BARaDOUBLE VERTICAL LINEbLOW LINEaLEFT SINGLE QUOTATION MARK
  2019 aRIGHT SINGLE QUOTATION MARKaSINGLE LOW-9 QUOTATION MARKbHIGH-REVERSED-9 QUOTATION MARK
  201C aLEFT DOUBLE QUOTATION MARKaRIGHT DOUBLE QUOTATION MARKaDOUBLE LOW-9 QUOTATION MARK
  201F aDOUBLE HIGH-REVERSED-9 QUOTATION MARKaDAGGERaDOUBLE DAGGERaBULLETaTRIANGULAR BULLET
  2024 aONE DOT LEADERaTWO DOT LEADERaHORIZONTAL ELLIPSISaHYPHENATION POINTaLINE SEPARATOR
  2029 aPARAGRAPH SEPARATORaLEFT-TO-RIGHT EMBEDDINGaRIGHT-TO-LEFT EMBEDDING
  202C aPOP DIRECTIONAL FORMATTINGaLEFT-TO-RIGHT OVERRIDEaRIGHT-TO-LEFT OVERRIDE
  202F aNARROW NO-BREAK SPACEaPER MILLE SIGNbTEN THOUSAND SIGNaPRIMEaDOUBLE PRIMEaTRIPLE PRIME
  2035 aREVERSED PRIMEbDOUBLE PRIMEbTRIPLE PRIMEaCARETaSINGLE LEFT-POINTING ANGLE QUOTATION MARK
  203A aSINGLE RIGHT-POINTING ANGLE QUOTATION MARKaREFERENCE MARKaDOUBLE EXCLAMATION MARK
  203D aINTERROBANGaOVERLINEaUNDERTIEaCHARACTER TIEaCARET INSERTION POINTaASTERISMaHYPHEN BULLET
  2044 aFRACTION SLASHaLEFT SQUARE BRACKET WITH QUILLaRIGHT SQUARE BRACKET WITH QUILL
  2047 aDOUBLE QUESTION MARKaQUESTION EXCLAMATION MARKaEXCLAMATION QUESTION MARKaTIRONIAN SIGN ET
  204B aREVERSED PILCROW SIGNaBLACK LEFTWARDS BULLETbRIGHTWARDS BULLETaLOW ASTERISK
  204F aREVERSED SEMICOLONaCLOSE UPaTWO ASTERISKS ALIGNED VERTICALLYaCOMMERCIAL MINUS SIGN
  2053 aSWUNG DASHaINVERTED UNDERTIEaFLOWER PUNCTUATION MARKaTHREE DOT PUNCTUATIONaQUADRUPLE PRIME
  2058 aFOUR DOT PUNCTUATIONaFIVE DOT PUNCTUATIONaTWO DOT PUNCTUATIONaFOUR DOT MARKaDOTTED CROSS
  205D aTRICOLONaVERTICAL FOUR DOTSaMEDIUM MATHEMATICAL SPACEaWORD JOINERaFUNCTION APPLICATION
  2062 aINVISIBLE TIMESbSEPARATORbPLUS
  2066 aLEFT-TO-RIGHT ISOLATEaRIGHT-TO-LEFT ISOLATEaFIRST STRONG ISOLATEaPOP DIRECTIONAL ISOLATE
  206A aINHIBIT SYMMETRIC SWAPPINGaACTIVATE SYMMETRIC SWAPPINGaINHIBIT ARABIC FORM SHAPING
  206D aACTIVATE ARABIC FORM SHAPINGaNATIONAL DIGIT SHAPESaNOMINAL DIGIT SHAPESaSUPERSCRIPT ZERO
  2071 aSUPERSCRIPT LATIN SMALL LETTER I
  2074 aSUPERSCRIPT FOURbFIVEbSIXbSEVENbEIGHTbNINEbPLUS SIGNbMINUSbEQUALS SIGNbLEFT PARENTHESIS
  207E aSUPERSCRIPT RIGHT PARENTHESISbLATIN SMALL LETTER NaSUBSCRIPT ZERObONEbTWObTHREEbFOURbFIVE
  2086 aSUBSCRIPT SIXbSEVENbEIGHTbNINEbPLUS SIGNbMINUSbEQUALS SIGNbLEFT PARENTHESIS
  208E aSUBSCRIPT RIGHT PARENTHESIS
  2090 aLATIN SUBSCRIPT SMALL LETTER AeEeOeXeSCHWAeHeKeLeMeNePeSeT
  20A0 aEURO-CURRENCY SIGNaCOLON SIGNaCRUZEIRO SIGNaFRENCH FRANC SIGNaLIRA SIGNaMILL SIGN
  20A6 aNAIRA SIGNaPESETA SIGNaRUPEE SIGNaWON SIGNaNEW SHEQEL SIGNaDONG SIGNaEURO SIGNaKIP SIGN
  20AE aTUGRIK SIGNaDRACHMA SIGNaGERMAN PENNY SIGNaPESO SIGNaGUARANI SIGNaAUSTRAL SIGN
  20B4 aHRYVNIA SIGNaCEDI SIGNaLIVRE TOURNOIS SIGNaSPESMILO SIGNaTENGE SIGNaINDIAN RUPEE SIGN
  20BA aTURKISH LIRA SIGNaNORDIC MARK SIGNaMANAT SIGNaRUBLE SIGNaLARI SIGNaBITCOIN SIGNaSOM SIGN
  20D0 aCOMBINING LEFT HARPOON ABOVEbRIGHT HARPOON ABOVEbLONG VERTICAL LINE OVERLAY
  20D3 aCOMBINING SHORT VERTICAL LINE OVERLAYbANTICLOCKWISE ARROW ABOVEbCLOCKWISE ARROW ABOVE
  20D6 aCOMBINING LEFT ARROW ABOVEbRIGHT ARROW ABOVEbRING OVERLAYbCLOCKWISE RING OVERLAY
  20DA aCOMBINING ANTICLOCKWISE RING OVERLAYbTHREE DOTS ABOVEbFOUR DOTS ABOVEbENCLOSING CIRCLE
  20DE aCOMBINING ENCLOSING SQUAREcDIAMONDcCIRCLE BACKSLASHbLEFT RIGHT ARROW ABOVE
  20E2 aCOMBINING ENCLOSING SCREENcKEYCAPcUPWARD POINTING TRIANGLEbREVERSE SOLIDUS OVERLAY
  20E6 aCOMBINING DOUBLE VERTICAL STROKE OVERLAYbANNUITY SYMBOLbTRIPLE UNDERDOTbWIDE BRIDGE ABOVE
  20EA aCOMBINING LEFTWARDS ARROW OVERLAYbLONG DOUBLE SOLIDUS OVERLAY
  20EC aCOMBINING RIGHTWARDS HARPOON WITH BARB DOWNWARDSbLEFTWARDS HARPOON WITH BARB DOWNWARDS
  20EE aCOMBINING LEFT ARROW BELOWbRIGHT ARROW BELOWbASTERISK ABOVE
  2100 aACCOUNT OFaADDRESSED TO THE SUBJECTaDOUBLE-STRUCK CAPITAL CaDEGREE CELSIUS
  2104 aCENTRE LINE SYMBOLaCARE OFaCADA UNAaEULER CONSTANTaSCRUPLEaDEGREE FAHRENHEIT
  210A aSCRIPT SMALL GbCAPITAL HaBLACK-LETTER CAPITAL HaDOUBLE-STRUCK CAPITAL HaPLANCK CONSTANT
  210F aPLANCK CONSTANT OVER TWO PIaSCRIPT CAPITAL IaBLACK-LETTER CAPITAL IaSCRIPT CAPITAL L
  2113 aSCRIPT SMALL LaL B BAR SYMBOLaDOUBLE-STRUCK CAPITAL NaNUMERO SIGN
  2117 aSOUND RECORDING COPYRIGHTaSCRIPT CAPITAL PaDOUBLE-STRUCK CAPITAL PcQaSCRIPT CAPITAL R
  211C aBLACK-LETTER CAPITAL RaDOUBLE-STRUCK CAPITAL RaPRESCRIPTION TAKEaRESPONSEaSERVICE MARK
  2121 aTELEPHONE SIGNaTRADE MARK SIGNaVERSICLEaDOUBLE-STRUCK CAPITAL ZaOUNCE SIGNaOHM SIGN
  2127 aINVERTED OHM SIGNaBLACK-LETTER CAPITAL ZaTURNED GREEK SMALL LETTER IOTAaKELVIN SIGN
  212B aANGSTROM SIGNaSCRIPT CAPITAL BaBLACK-LETTER CAPITAL CaESTIMATED SYMBOLaSCRIPT SMALL E
  2130 aSCRIPT CAPITAL EcFaTURNED CAPITAL FaSCRIPT CAPITAL MbSMALL OaALEF SYMBOLaBET SYMBOL
  2137 aGIMEL SYMBOLaDALET SYMBOLaINFORMATION SOURCEaROTATED CAPITAL QaFACSIMILE SIGN
  213C aDOUBLE-STRUCK SMALL PIcGAMMAbCAPITAL GAMMAcPIbN-ARY SUMMATIONaTURNED SANS-SERIF CAPITAL G
  2142 aTURNED SANS-SERIF CAPITAL LaREVERSED SANS-SERIF CAPITAL LaTURNED SANS-SERIF CAPITAL Y
  2145 aDOUBLE-STRUCK ITALIC CAPITAL DcSMALL DdEdIdJaPROPERTY LINEaTURNED AMPERSANDaPER SIGN
  214D aAKTIESELSKABaTURNED SMALL FaSYMBOL FOR SAMARITAN SOURCEaVULGAR FRACTION ONE SEVENTHdNINTH
  2152 aVULGAR FRACTION ONE TENTHdTHIRDcTWO THIRDScONE FIFTHcTWO FIFTHScTHREE FIFTHScFOUR FIFTHS
  2159 aVULGAR FRACTION ONE SIXTHcFIVE SIXTHScONE EIGHTHcTHREE EIGHTHScFIVE EIGHTHScSEVEN EIGHTHS
  215F aFRACTION NUMERATOR ONEaROMAN NUMERAL ONEcTWOcTHREEcFOURcFIVEcSIXcSEVENcEIGHTcNINEcTEN
  216A aROMAN NUMERAL ELEVENcTWELVEcFIFTYcONE HUNDREDcFIVE HUNDREDcONE THOUSAND
  2170 aSMALL ROMAN NUMERAL ONEdTWOdTHREEdFOURdFIVEdSIXdSEVENdEIGHTdNINEdTENdELEVENdTWELVEdFIFTY
  217D aSMALL ROMAN NUMERAL ONE HUNDREDdFIVE HUNDREDdONE THOUSANDaROMAN NUMERAL ONE THOUSAND C D
  2181 aROMAN NUMERAL FIVE THOUSANDcTEN THOUSANDcREVERSED ONE HUNDRED
  2184 aLATIN SMALL LETTER REVERSED CaROMAN NUMERAL SIX LATE FORMcFIFTY EARLY FORMdTHOUSAND
  2188 aROMAN NUMERAL ONE HUNDRED THOUSANDaVULGAR FRACTION ZERO THIRDSaTURNED DIGIT TWOcTHREE
  2190 aLEFTWARDS ARROWaUPWARDS ARROWaRIGHTWARDS ARROWaDOWNWARDS ARROWaLEFT RIGHT ARROW
  2195 aUP DOWN ARROWaNORTH WEST ARROWbEAST ARROWaSOUTH EAST ARROWbWEST ARROW
  219A aLEFTWARDS ARROW WITH STROKEaRIGHTWARDS ARROW WITH STROKEaLEFTWARDS WAVE ARROW
  219D aRIGHTWARDS WAVE ARROWaLEFTWARDS TWO HEADED ARROWaUPWARDS TWO HEADED ARROW
  21A0 aRIGHTWARDS TWO HEADED ARROWaDOWNWARDS TWO HEADED ARROWaLEFTWARDS ARROW WITH TAIL
  21A3 aRIGHTWARDS ARROW WITH TAILaLEFTWARDS ARROW FROM BARaUPWARDS ARROW FROM BAR
  21A6 aRIGHTWARDS ARROW FROM BARaDOWNWARDS ARROW FROM BARaUP DOWN ARROW WITH BASE
  21A9 aLEFTWARDS ARROW WITH HOOKaRIGHTWARDS ARROW WITH HOOKaLEFTWARDS ARROW WITH LOOP
  21AC aRIGHTWARDS ARROW WITH LOOPaLEFT RIGHT WAVE ARROWcARROW WITH STROKEaDOWNWARDS ZIGZAG ARROW
  21B0 aUPWARDS ARROW WITH TIP LEFTWARDSeRIGHTWARDSaDOWNWARDS ARROW WITH TIP LEFTWARDSeRIGHTWARDS
  21B4 aRIGHTWARDS ARROW WITH CORNER DOWNWARDSaDOWNWARDS ARROW WITH CORNER LEFTWARDS
  21B6 aANTICLOCKWISE TOP SEMICIRCLE ARROWaCLOCKWISE TOP SEMICIRCLE ARROW
  21B8 aNORTH WEST ARROW TO LONG BARaLEFTWARDS ARROW TO BAR OVER RIGHTWARDS ARROW TO BAR
  21BA aANTICLOCKWISE OPEN CIRCLE ARROWaCLOCKWISE OPEN CIRCLE ARROW
  21BC aLEFTWARDS HARPOON WITH BARB UPWARDSeDOWNWARDSaUPWARDS HARPOON WITH BARB RIGHTWARDS
  21BF aUPWARDS HARPOON WITH BARB LEFTWARDSaRIGHTWARDS HARPOON WITH BARB UPWARDSeDOWNWARDS
  21C2 aDOWNWARDS HARPOON WITH BARB RIGHTWARDSeLEFTWARDSaRIGHTWARDS ARROW OVER LEFTWARDS ARROW
  21C5 aUPWARDS ARROW LEFTWARDS OF DOWNWARDS ARROWaLEFTWARDS ARROW OVER RIGHTWARDS ARROW
  21C7 aLEFTWARDS PAIRED ARROWSaUPWARDS PAIRED ARROWSaRIGHTWARDS PAIRED ARROWS
  21CA aDOWNWARDS PAIRED ARROWSaLEFTWARDS HARPOON OVER RIGHTWARDS HARPOON
  21CC aRIGHTWARDS HARPOON OVER LEFTWARDS HARPOONaLEFTWARDS DOUBLE ARROW WITH STROKE
  21CE aLEFT RIGHT DOUBLE ARROW WITH STROKEaRIGHTWARDS DOUBLE ARROW WITH STROKE
  21D0 aLEFTWARDS DOUBLE ARROWaUPWARDS DOUBLE ARROWaRIGHTWARDS DOUBLE ARROWaDOWNWARDS DOUBLE ARROW
  21D4 aLEFT RIGHT DOUBLE ARROWaUP DOWN DOUBLE ARROWaNORTH WEST DOUBLE ARROWbEAST DOUBLE ARROW
  21D8 aSOUTH EAST DOUBLE ARROWbWEST DOUBLE ARROWaLEFTWARDS TRIPLE ARROWaRIGHTWARDS TRIPLE ARROW
  21DC aLEFTWARDS SQUIGGLE ARROWaRIGHTWARDS SQUIGGLE ARROWaUPWARDS ARROW WITH DOUBLE STROKE
  21DF aDOWNWARDS ARROW WITH DOUBLE STROKEaLEFTWARDS DASHED ARROWaUPWARDS DASHED ARROW
  21E2 aRIGHTWARDS DASHED ARROWaDOWNWARDS DASHED ARROWaLEFTWARDS ARROW TO BAR
  21E5 aRIGHTWARDS ARROW TO BARaLEFTWARDS WHITE ARROWaUPWARDS WHITE ARROWaRIGHTWARDS WHITE ARROW
  21E9 aDOWNWARDS WHITE ARROWaUPWARDS WHITE ARROW FROM BARdON PEDESTALfWITH HORIZONTAL BAR
  21ED aUPWARDS WHITE ARROW ON PEDESTAL WITH VERTICAL BARcDOUBLE ARROWeON PEDESTAL
  21F0 aRIGHTWARDS WHITE ARROW FROM WALLaNORTH WEST ARROW TO CORNERaSOUTH EAST ARROW TO CORNER
  21F3 aUP DOWN WHITE ARROWaRIGHT ARROW WITH SMALL CIRCLE
  21F5 aDOWNWARDS ARROW LEFTWARDS OF UPWARDS ARROWaTHREE RIGHTWARDS ARROWS
  21F7 aLEFTWARDS ARROW WITH VERTICAL STROKEaRIGHTWARDS ARROW WITH VERTICAL STROKE
  21F9 aLEFT RIGHT ARROW WITH VERTICAL STROKEaLEFTWARDS ARROW WITH DOUBLE VERTICAL STROKE
  21FB aRIGHTWARDS ARROW WITH DOUBLE VERTICAL STROKEaLEFT RIGHT ARROW WITH DOUBLE VERTICAL STROKE
  21FD aLEFTWARDS OPEN-HEADED ARROWaRIGHTWARDS OPEN-HEADED ARROWaLEFT RIGHT OPEN-HEADED ARROW
  2200 aFOR ALLaCOMPLEMENTaPARTIAL DIFFERENTIALaTHERE EXISTSbDOES NOT EXISTaEMPTY SETaINCREMENT
  2207 aNABLAaELEMENT OFaNOT AN ELEMENT OFaSMALL ELEMENT OFaCONTAINS AS MEMBER
  220C aDOES NOT CONTAIN AS MEMBERaSMALL CONTAINS AS MEMBERaEND OF PROOFaN-ARY PRODUCTbCOPRODUCT
  2211 aN-ARY SUMMATIONaMINUS SIGNaMINUS-OR-PLUS SIGNaDOT PLUSaDIVISION SLASHaSET MINUS
  2217 aASTERISK OPERATORaRING OPERATORaBULLET OPERATORaSQUARE ROOTaCUBE ROOTaFOURTH ROOT
  221D aPROPORTIONAL TOaINFINITYaRIGHT ANGLEaANGLEaMEASURED ANGLEaSPHERICAL ANGLEaDIVIDES
  2224 aDOES NOT DIVIDEaPARALLEL TOaNOT PARALLEL TOaLOGICAL ANDbORaINTERSECTIONaUNIONaINTEGRAL
  222C aDOUBLE INTEGRALaTRIPLE INTEGRALaCONTOUR INTEGRALaSURFACE INTEGRALaVOLUME INTEGRAL
  2231 aCLOCKWISE INTEGRALbCONTOUR INTEGRALaANTICLOCKWISE CONTOUR INTEGRALaTHEREFOREaBECAUSEaRATIO
  2237 aPROPORTIONaDOT MINUSaEXCESSaGEOMETRIC PROPORTIONaHOMOTHETICaTILDE OPERATORaREVERSED TILDE
  223E aINVERTED LAZY SaSINE WAVEaWREATH PRODUCTaNOT TILDEaMINUS TILDEaASYMPTOTICALLY EQUAL TO
  2244 aNOT ASYMPTOTICALLY EQUAL TOaAPPROXIMATELY EQUAL TObBUT NOT ACTUALLY EQUAL TO
  2247 aNEITHER APPROXIMATELY NOR ACTUALLY EQUAL TOaALMOST EQUAL TOaNOT ALMOST EQUAL TO
  224A aALMOST EQUAL OR EQUAL TOaTRIPLE TILDEaALL EQUAL TOaEQUIVALENT TO
  224E aGEOMETRICALLY EQUIVALENT TOaDIFFERENCE BETWEENaAPPROACHES THE LIMITaGEOMETRICALLY EQUAL TO
  2252 aAPPROXIMATELY EQUAL TO OR THE IMAGE OFaIMAGE OF OR APPROXIMATELY EQUAL TOaCOLON EQUALS
  2255 aEQUALS COLONaRING IN EQUAL TObEQUAL TOaCORRESPONDS TOaESTIMATESaEQUIANGULAR TOaSTAR EQUALS
  225C aDELTA EQUAL TOaEQUAL TO BY DEFINITIONaMEASURED BYaQUESTIONED EQUAL TOaNOT EQUAL TO
  2261 aIDENTICAL TOaNOT IDENTICAL TOaSTRICTLY EQUIVALENT TOaLESS-THAN OR EQUAL TO
  2265 aGREATER-THAN OR EQUAL TOaLESS-THAN OVER EQUAL TOaGREATER-THAN OVER EQUAL TO
  2268 aLESS-THAN BUT NOT EQUAL TOaGREATER-THAN BUT NOT EQUAL TOaMUCH LESS-THANbGREATER-THAN
  226C aBETWEENaNOT EQUIVALENT TObLESS-THANbGREATER-THANaNEITHER LESS-THAN NOR EQUAL TO
  2271 aNEITHER GREATER-THAN NOR EQUAL TOaLESS-THAN OR EQUIVALENT TOaGREATER-THAN OR EQUIVALENT TO
  2274 aNEITHER LESS-THAN NOR EQUIVALENT TObGREATER-THAN NOR EQUIVALENT TO
  2276 aLESS-THAN OR GREATER-THANaGREATER-THAN OR LESS-THANaNEITHER LESS-THAN NOR GREATER-THAN
  2279 aNEITHER GREATER-THAN NOR LESS-THANaPRECEDESaSUCCEEDSaPRECEDES OR EQUAL TO
  227D aSUCCEEDS OR EQUAL TOaPRECEDES OR EQUIVALENT TOaSUCCEEDS OR EQUIVALENT TOaDOES NOT PRECEDE
  2281 aDOES NOT SUCCEEDaSUBSET OFaSUPERSET OFaNOT A SUBSET OFcSUPERSET OFaSUBSET OF OR EQUAL TO
  2287 aSUPERSET OF OR EQUAL TOaNEITHER A SUBSET OF NOR EQUAL TOcSUPERSET OF NOR EQUAL TO
  228A aSUBSET OF WITH NOT EQUAL TOaSUPERSET OF WITH NOT EQUAL TOaMULTISETbMULTIPLICATIONbUNION
  228F aSQUARE IMAGE OFbORIGINAL OFbIMAGE OF OR EQUAL TObORIGINAL OF OR EQUAL TObCAPbCUP
  2295 aCIRCLED PLUSbMINUSbTIMESbDIVISION SLASHbDOT OPERATORbRING OPERATORbASTERISK OPERATOR
  229C aCIRCLED EQUALSbDASHaSQUARED PLUSbMINUSbTIMESbDOT OPERATORaRIGHT TACKaLEFT TACKaDOWN TACK
  22A5 aUP TACKaASSERTIONaMODELSaTRUEaFORCESaTRIPLE VERTICAL BAR RIGHT TURNSTILE
  22AB aDOUBLE VERTICAL BAR DOUBLE RIGHT TURNSTILEaDOES NOT PROVEaNOT TRUEaDOES NOT FORCE
  22AF aNEGATED DOUBLE VERTICAL BAR DOUBLE RIGHT TURNSTILEaPRECEDES UNDER RELATION
  22B1 aSUCCEEDS UNDER RELATIONaNORMAL SUBGROUP OFaCONTAINS AS NORMAL SUBGROUP
  22B4 aNORMAL SUBGROUP OF OR EQUAL TOaCONTAINS AS NORMAL SUBGROUP OR EQUAL TOaORIGINAL OF
  22B7 aIMAGE OFaMULTIMAPaHERMITIAN CONJUGATE MATRIXaINTERCALATEaXORaNANDaNORaRIGHT ANGLE WITH ARC
  22BF aRIGHT TRIANGLEaN-ARY LOGICAL ANDcORbINTERSECTIONbUNIONaDIAMOND OPERATORaDOT OPERATOR
  22C6 aSTAR OPERATORaDIVISION TIMESaBOWTIEaLEFT NORMAL FACTOR SEMIDIRECT PRODUCT
  22CA aRIGHT NORMAL FACTOR SEMIDIRECT PRODUCTaLEFT SEMIDIRECT PRODUCTaRIGHT SEMIDIRECT PRODUCT
  22CD aREVERSED TILDE EQUALSaCURLY LOGICAL ORcANDaDOUBLE SUBSETbSUPERSETbINTERSECTIONbUNION
  22D4 aPITCHFORKaEQUAL AND PARALLEL TOaLESS-THAN WITH DOTaGREATER-THAN WITH DOT
  22D8 aVERY MUCH LESS-THANcGREATER-THANaLESS-THAN EQUAL TO OR GREATER-THAN
  22DB aGREATER-THAN EQUAL TO OR LESS-THANaEQUAL TO OR LESS-THANdGREATER-THANdPRECEDESdSUCCEEDS
  22E0 aDOES NOT PRECEDE OR EQUALcSUCCEED OR EQUALaNOT SQUARE IMAGE OF OR EQUAL TO
  22E3 aNOT SQUARE ORIGINAL OF OR EQUAL TOaSQUARE IMAGE OF OR NOT EQUAL TO
  22E5 aSQUARE ORIGINAL OF OR NOT EQUAL TOaLESS-THAN BUT NOT EQUIVALENT TO
  22E7 aGREATER-THAN BUT NOT EQUIVALENT TOaPRECEDES BUT NOT EQUIVALENT TO
  22E9 aSUCCEEDS BUT NOT EQUIVALENT TOaNOT NORMAL SUBGROUP OFaDOES NOT CONTAIN AS NORMAL SUBGROUP
  22EC aNOT NORMAL SUBGROUP OF OR EQUAL TOaDOES NOT CONTAIN AS NORMAL SUBGROUP OR EQUAL
  22EE aVERTICAL ELLIPSISaMIDLINE HORIZONTAL ELLIPSISaUP RIGHT DIAGONAL ELLIPSIS
  22F1 aDOWN RIGHT DIAGONAL ELLIPSISaELEMENT OF WITH LONG HORIZONTAL STROKE
  22F3 aELEMENT OF WITH VERTICAL BAR AT END OF HORIZONTAL STROKE
  22F4 aSMALL ELEMENT OF WITH VERTICAL BAR AT END OF HORIZONTAL STROKEaELEMENT OF WITH DOT ABOVE
  22F6 aELEMENT OF WITH OVERBARaSMALL ELEMENT OF WITH OVERBARaELEMENT OF WITH UNDERBAR
  22F9 aELEMENT OF WITH TWO HORIZONTAL STROKESaCONTAINS WITH LONG HORIZONTAL STROKE
  22FB aCONTAINS WITH VERTICAL BAR AT END OF HORIZONTAL STROKE
  22FC aSMALL CONTAINS WITH VERTICAL BAR AT END OF HORIZONTAL STROKEaCONTAINS WITH OVERBAR
  22FE aSMALL CONTAINS WITH OVERBARaZ NOTATION BAG MEMBERSHIPaDIAMETER SIGNaELECTRIC ARROWaHOUSE
  2303 aUP ARROWHEADaDOWN ARROWHEADaPROJECTIVEaPERSPECTIVEaWAVY LINEaLEFT CEILINGaRIGHT CEILING
  230A aLEFT FLOORaRIGHT FLOORaBOTTOM RIGHT CROPbLEFT CROPaTOP RIGHT CROPbLEFT CROP
  2310 aREVERSED NOT SIGNaSQUARE LOZENGEaARCaSEGMENTaSECTORaTELEPHONE RECORDERaPOSITION INDICATOR
  2317 aVIEWDATA SQUAREaPLACE OF INTEREST SIGNaTURNED NOT SIGNaWATCHaHOURGLASSaTOP LEFT CORNER
  231D aTOP RIGHT CORNERaBOTTOM LEFT CORNERbRIGHT CORNERaTOP HALF INTEGRALaBOTTOM HALF INTEGRAL
  2322 aFROWNaSMILEaUP ARROWHEAD BETWEEN TWO HORIZONTAL BARSaOPTION KEYaERASE TO THE RIGHT
  2327 aX IN A RECTANGLE BOXaKEYBOARDaLEFT-POINTING ANGLE BRACKETaRIGHT-POINTING ANGLE BRACKET
  232B aERASE TO THE LEFTaBENZENE RINGaCYLINDRICITYaALL AROUND-PROFILEaSYMMETRYaTOTAL RUNOUT
  2331 aDIMENSION ORIGINaCONICAL TAPERaSLOPEaCOUNTERBOREaCOUNTERSINKaAPL FUNCTIONAL SYMBOL I-BEAM
  2337 aAPL FUNCTIONAL SYMBOL SQUISH QUADdQUAD EQUALeDIVIDEeDIAMONDeJOTeCIRCLEdCIRCLE STILEeJOT
  233F aAPL FUNCTIONAL SYMBOL SLASH BARdBACKSLASH BARdQUAD SLASHeBACKSLASHeLESS-THANeGREATER-THAN
  2345 aAPL FUNCTIONAL SYMBOL LEFTWARDS VANEdRIGHTWARDS VANEdQUAD LEFTWARDS ARROWeRIGHTWARDS ARROW
  2349 aAPL FUNCTIONAL SYMBOL CIRCLE BACKSLASHdDOWN TACK UNDERBARdDELTA STILEdQUAD DOWN CARET
  234D aAPL FUNCTIONAL SYMBOL QUAD DELTAdDOWN TACK JOTdUPWARDS VANEdQUAD UPWARDS ARROW
  2351 aAPL FUNCTIONAL SYMBOL UP TACK OVERBARdDEL STILEdQUAD UP CARETeDELdUP TACK JOT
  2356 aAPL FUNCTIONAL SYMBOL DOWNWARDS VANEdQUAD DOWNWARDS ARROWdQUOTE UNDERBARdDELTA UNDERBAR
  235A aAPL FUNCTIONAL SYMBOL DIAMOND UNDERBARdJOT UNDERBARdCIRCLE UNDERBARdUP SHOE JOTdQUOTE QUAD
  235F aAPL FUNCTIONAL SYMBOL CIRCLE STARdQUAD COLONdUP TACK DIAERESISdDEL DIAERESIS
  2363 aAPL FUNCTIONAL SYMBOL STAR DIAERESISdJOT DIAERESISdCIRCLE DIAERESISdDOWN SHOE STILE
  2367 aAPL FUNCTIONAL SYMBOL LEFT SHOE STILEdTILDE DIAERESISdGREATER-THAN DIAERESISdCOMMA BAR
  236B aAPL FUNCTIONAL SYMBOL DEL TILDEdZILDEdSTILE TILDEdSEMICOLON UNDERBARdQUAD NOT EQUAL
  2370 aAPL FUNCTIONAL SYMBOL QUAD QUESTIONdDOWN CARET TILDEdUP CARET TILDEdIOTAdRHOdOMEGA
  2376 aAPL FUNCTIONAL SYMBOL ALPHA UNDERBARdEPSILON UNDERBARdIOTA UNDERBARdOMEGA UNDERBARdALPHA
  237B aNOT CHECK MARKaRIGHT ANGLE WITH DOWNWARDS ZIGZAG ARROWaSHOULDERED OPEN BOXaBELL SYMBOL
  237F aVERTICAL LINE WITH MIDDLE DOTaINSERTION SYMBOLaCONTINUOUS UNDERLINE SYMBOL
  2382 aDISCONTINUOUS UNDERLINE SYMBOLaEMPHASIS SYMBOLaCOMPOSITION SYMBOL
  2385 aWHITE SQUARE WITH CENTRE VERTICAL LINEaENTER SYMBOLaALTERNATIVE KEY SYMBOLaHELM SYMBOL
  2389 aCIRCLED HORIZONTAL BAR WITH NOTCHbTRIANGLE DOWNaBROKEN CIRCLE WITH NORTHWEST ARROW
  238C aUNDO SYMBOLaMONOSTABLE SYMBOLaHYSTERESIS SYMBOLaOPEN-CIRCUIT-OUTPUT H-TYPE SYMBOL
  2390 aOPEN-CIRCUIT-OUTPUT L-TYPE SYMBOLaPASSIVE-PULL-DOWN-OUTPUT SYMBOL
  2392 aPASSIVE-PULL-UP-OUTPUT SYMBOLaDIRECT CURRENT SYMBOL FORM TWOaSOFTWARE-FUNCTION SYMBOL
  2395 aAPL FUNCTIONAL SYMBOL QUADaDECIMAL SEPARATOR KEY SYMBOLaPREVIOUS PAGEaNEXT PAGE
  2399 aPRINT SCREEN SYMBOLaCLEAR SCREEN SYMBOLaLEFT PARENTHESIS UPPER HOOKcEXTENSIONcLOWER HOOK
  239E aRIGHT PARENTHESIS UPPER HOOKcEXTENSIONcLOWER HOOKaLEFT SQUARE BRACKET UPPER CORNER
  23A2 aLEFT SQUARE BRACKET EXTENSIONdLOWER CORNERaRIGHT SQUARE BRACKET UPPER CORNERdEXTENSION
  23A6 aRIGHT SQUARE BRACKET LOWER CORNERaLEFT CURLY BRACKET UPPER HOOKdMIDDLE PIECEdLOWER HOOK
  23AA aCURLY BRACKET EXTENSIONaRIGHT CURLY BRACKET UPPER HOOKdMIDDLE PIECEdLOWER HOOK
  23AE aINTEGRAL EXTENSIONaHORIZONTAL LINE EXTENSION
  23B0 aUPPER LEFT OR LOWER RIGHT CURLY BRACKET SECTIONbRIGHT OR LOWER LEFT CURLY BRACKET SECTION
  23B2 aSUMMATION TOPbBOTTOMaTOP SQUARE BRACKETaBOTTOM SQUARE BRACKETdOVER TOP SQUARE BRACKET
  23B7 aRADICAL SYMBOL BOTTOMaLEFT VERTICAL BOX LINEaRIGHT VERTICAL BOX LINE
  23BA aHORIZONTAL SCAN LINE-1cLINE-3cLINE-7cLINE-9aDENTISTRY SYMBOL LIGHT VERTICAL AND TOP RIGHT
  23BF aDENTISTRY SYMBOL LIGHT VERTICAL AND BOTTOM RIGHTeWITH CIRCLE
  23C1 aDENTISTRY SYMBOL LIGHT DOWN AND HORIZONTAL WITH CIRCLEdUP AND HORIZONTAL WITH CIRCLE
  23C3 aDENTISTRY SYMBOL LIGHT VERTICAL WITH TRIANGLEdDOWN AND HORIZONTAL WITH TRIANGLE
  23C5 aDENTISTRY SYMBOL LIGHT UP AND HORIZONTAL WITH TRIANGLEdVERTICAL AND WAVE
  23C7 aDENTISTRY SYMBOL LIGHT DOWN AND HORIZONTAL WITH WAVEdUP AND HORIZONTAL WITH WAVE
  23C9 aDENTISTRY SYMBOL LIGHT DOWN AND HORIZONTALdUP AND HORIZONTALdVERTICAL AND TOP LEFT
  23CC aDENTISTRY SYMBOL LIGHT VERTICAL AND BOTTOM LEFTaSQUARE FOOTaRETURN SYMBOLaEJECT SYMBOL
  23D0 aVERTICAL LINE EXTENSIONaMETRICAL BREVEbLONG OVER SHORTbSHORT OVER LONG
  23D4 aMETRICAL LONG OVER TWO SHORTSbTWO SHORTS OVER LONGdJOINEDbTRISEMEbTETRASEMEbPENTASEME
  23DA aEARTH GROUNDaFUSEaTOP PARENTHESISaBOTTOM PARENTHESISaTOP CURLY BRACKET
  23DF aBOTTOM CURLY BRACKETaTOP TORTOISE SHELL BRACKETaBOTTOM TORTOISE SHELL BRACKET
  23E2 aWHITE TRAPEZIUMaBENZENE RING WITH CIRCLEaSTRAIGHTNESSaFLATNESSaAC CURRENT
  23E7 aELECTRICAL INTERSECTIONaDECIMAL EXPONENT SYMBOLaBLACK RIGHT-POINTING DOUBLE TRIANGLE
  23EA aBLACK LEFT-POINTING DOUBLE TRIANGLEbUP-POINTING DOUBLE TRIANGLE
  23EC aBLACK DOWN-POINTING DOUBLE TRIANGLEbRIGHT-POINTING DOUBLE TRIANGLE WITH VERTICAL BAR
  23EE aBLACK LEFT-POINTING DOUBLE TRIANGLE WITH VERTICAL BAR
  23EF aBLACK RIGHT-POINTING TRIANGLE WITH DOUBLE VERTICAL BARaALARM CLOCKaSTOPWATCHaTIMER CLOCK
  23F3 aHOURGLASS WITH FLOWING SANDaBLACK MEDIUM LEFT-POINTING TRIANGLEcRIGHT-POINTING TRIANGLE
  23F6 aBLACK MEDIUM UP-POINTING TRIANGLEcDOWN-POINTING TRIANGLEaDOUBLE VERTICAL BAR
  23F9 aBLACK SQUARE FOR STOPbCIRCLE FOR RECORDaPOWER SYMBOLbON-OFF SYMBOLbON SYMBOLbSLEEP SYMBOL
  23FF aOBSERVER EYE SYMBOLaSYMBOL FOR NULLcSTART OF HEADINGeTEXTcEND OF TEXTeTRANSMISSIONcENQUIRY
  2406 aSYMBOL FOR ACKNOWLEDGEcBELLcBACKSPACEcHORIZONTAL TABULATIONcLINE FEEDcVERTICAL TABULATION
  240C aSYMBOL FOR FORM FEEDcCARRIAGE RETURNcSHIFT OUTdINcDATA LINK ESCAPEcDEVICE CONTROL ONEeTWO
  2413 aSYMBOL FOR DEVICE CONTROL THREEeFOURcNEGATIVE ACKNOWLEDGEcSYNCHRONOUS IDLE
  2417 aSYMBOL FOR END OF TRANSMISSION BLOCKcCANCELcEND OF MEDIUMcSUBSTITUTEcESCAPEcFILE SEPARATOR
  241D aSYMBOL FOR GROUP SEPARATORcRECORD SEPARATORcUNIT SEPARATORcSPACEcDELETEaBLANK SYMBOL
  2423 aOPEN BOXaSYMBOL FOR NEWLINEcDELETE FORM TWOcSUBSTITUTE FORM TWO
  2440 aOCR HOOKbCHAIRbFORKbINVERTED FORKbBELT BUCKLEbBOW TIEbBRANCH BANK IDENTIFICATION
  2447 aOCR AMOUNT OF CHECKbDASHbCUSTOMER ACCOUNT NUMBERbDOUBLE BACKSLASH
  2460 aCIRCLED DIGIT ONEcTWOcTHREEcFOURcFIVEcSIXcSEVENcEIGHTcNINEbNUMBER TENcELEVENcTWELVE
  246C aCIRCLED NUMBER THIRTEENcFOURTEENcFIFTEENcSIXTEENcSEVENTEENcEIGHTEENcNINETEENcTWENTY
  2474 aPARENTHESIZED DIGIT ONEcTWOcTHREEcFOURcFIVEcSIXcSEVENcEIGHTcNINEbNUMBER TENcELEVENcTWELVE
  2480 aPARENTHESIZED NUMBER THIRTEENcFOURTEENcFIFTEENcSIXTEENcSEVENTEENcEIGHTEENcNINETEENcTWENTY
  2488 aDIGIT ONE FULL STOPbTWO FULL STOPbTHREE FULL STOPbFOUR FULL STOPbFIVE FULL STOP
  248D aDIGIT SIX FULL STOPbSEVEN FULL STOPbEIGHT FULL STOPbNINE FULL STOPaNUMBER TEN FULL STOP
  2492 aNUMBER ELEVEN FULL STOPbTWELVE FULL STOPbTHIRTEEN FULL STOPbFOURTEEN FULL STOP
  2496 aNUMBER FIFTEEN FULL STOPbSIXTEEN FULL STOPbSEVENTEEN FULL STOPbEIGHTEEN FULL STOP
  249A aNUMBER NINETEEN FULL STOPbTWENTY FULL STOPaPARENTHESIZED LATIN SMALL LETTER AeBeCeDeEeFeG
  24A3 aPARENTHESIZED LATIN SMALL LETTER HeIeJeKeLeMeNeOePeQeReSeTeUeVeWeXeYeZ
  24B6 aCIRCLED LATIN CAPITAL LETTER AeBeCeDeEeFeGeHeIeJeKeLeMeNeOePeQeReSeTeUeVeWeXeYeZ
  24D0 aCIRCLED LATIN SMALL LETTER AeBeCeDeEeFeGeHeIeJeKeLeMeNeOePeQeReSeTeUeVeWeXeYeZbDIGIT ZERO
  24EB aNEGATIVE CIRCLED NUMBER ELEVENdTWELVEdTHIRTEENdFOURTEENdFIFTEENdSIXTEENdSEVENTEENdEIGHTEEN
  24F3 aNEGATIVE CIRCLED NUMBER NINETEENdTWENTYaDOUBLE CIRCLED DIGIT ONEdTWOdTHREEdFOURdFIVEdSIX
  24FB aDOUBLE CIRCLED DIGIT SEVENdEIGHTdNINEcNUMBER TENaNEGATIVE CIRCLED DIGIT ZERO
  2500 aBOX DRAWINGS LIGHT HORIZONTALcHEAVY HORIZONTALcLIGHT VERTICALcHEAVY VERTICAL
  2504 aBOX DRAWINGS LIGHT TRIPLE DASH HORIZONTALcHEAVY TRIPLE DASH HORIZONTAL
  2506 aBOX DRAWINGS LIGHT TRIPLE DASH VERTICALcHEAVY TRIPLE DASH VERTICAL
  2508 aBOX DRAWINGS LIGHT QUADRUPLE DASH HORIZONTALcHEAVY QUADRUPLE DASH HORIZONTAL
  250A aBOX DRAWINGS LIGHT QUADRUPLE DASH VERTICALcHEAVY QUADRUPLE DASH VERTICAL
  250C aBOX DRAWINGS LIGHT DOWN AND RIGHTcDOWN LIGHT AND RIGHT HEAVYdHEAVY AND RIGHT LIGHT
  250F aBOX DRAWINGS HEAVY DOWN AND RIGHTcLIGHT DOWN AND LEFTcDOWN LIGHT AND LEFT HEAVY
  2512 aBOX DRAWINGS DOWN HEAVY AND LEFT LIGHTcHEAVY DOWN AND LEFTcLIGHT UP AND RIGHT
  2515 aBOX DRAWINGS UP LIGHT AND RIGHT HEAVYdHEAVY AND RIGHT LIGHTcHEAVY UP AND RIGHT
  2518 aBOX DRAWINGS LIGHT UP AND LEFTcUP LIGHT AND LEFT HEAVYdHEAVY AND LEFT LIGHT
  251B aBOX DRAWINGS HEAVY UP AND LEFTcLIGHT VERTICAL AND RIGHTcVERTICAL LIGHT AND RIGHT HEAVY
  251E aBOX DRAWINGS UP HEAVY AND RIGHT DOWN LIGHTcDOWN HEAVY AND RIGHT UP LIGHT
  2520 aBOX DRAWINGS VERTICAL HEAVY AND RIGHT LIGHTcDOWN LIGHT AND RIGHT UP HEAVY
  2522 aBOX DRAWINGS UP LIGHT AND RIGHT DOWN HEAVYcHEAVY VERTICAL AND RIGHT
  2524 aBOX DRAWINGS LIGHT VERTICAL AND LEFTcVERTICAL LIGHT AND LEFT HEAVY
  2526 aBOX DRAWINGS UP HEAVY AND LEFT DOWN LIGHTcDOWN HEAVY AND LEFT UP LIGHT
  2528 aBOX DRAWINGS VERTICAL HEAVY AND LEFT LIGHTcDOWN LIGHT AND LEFT UP HEAVY
  252A aBOX DRAWINGS UP LIGHT AND LEFT DOWN HEAVYcHEAVY VERTICAL AND LEFT
  252C aBOX DRAWINGS LIGHT DOWN AND HORIZONTALcLEFT HEAVY AND RIGHT DOWN LIGHT
  252E aBOX DRAWINGS RIGHT HEAVY AND LEFT DOWN LIGHTcDOWN LIGHT AND HORIZONTAL HEAVY
  2530 aBOX DRAWINGS DOWN HEAVY AND HORIZONTAL LIGHTcRIGHT LIGHT AND LEFT DOWN HEAVY
  2532 aBOX DRAWINGS LEFT LIGHT AND RIGHT DOWN HEAVYcHEAVY DOWN AND HORIZONTAL
  2534 aBOX DRAWINGS LIGHT UP AND HORIZONTALcLEFT HEAVY AND RIGHT UP LIGHT
  2536 aBOX DRAWINGS RIGHT HEAVY AND LEFT UP LIGHTcUP LIGHT AND HORIZONTAL HEAVY
  2538 aBOX DRAWINGS UP HEAVY AND HORIZONTAL LIGHTcRIGHT LIGHT AND LEFT UP HEAVY
  253A aBOX DRAWINGS LEFT LIGHT AND RIGHT UP HEAVYcHEAVY UP AND HORIZONTAL
  253C aBOX DRAWINGS LIGHT VERTICAL AND HORIZONTALcLEFT HEAVY AND RIGHT VERTICAL LIGHT
  253E aBOX DRAWINGS RIGHT HEAVY AND LEFT VERTICAL LIGHTcVERTICAL LIGHT AND HORIZONTAL HEAVY
  2540 aBOX DRAWINGS UP HEAVY AND DOWN HORIZONTAL LIGHTcDOWN HEAVY AND UP HORIZONTAL LIGHT
  2542 aBOX DRAWINGS VERTICAL HEAVY AND HORIZONTAL LIGHTcLEFT UP HEAVY AND RIGHT DOWN LIGHT
  2544 aBOX DRAWINGS RIGHT UP HEAVY AND LEFT DOWN LIGHTcLEFT DOWN HEAVY AND RIGHT UP LIGHT
  2546 aBOX DRAWINGS RIGHT DOWN HEAVY AND LEFT UP LIGHTcDOWN LIGHT AND UP HORIZONTAL HEAVY
  2548 aBOX DRAWINGS UP LIGHT AND DOWN HORIZONTAL HEAVYcRIGHT LIGHT AND LEFT VERTICAL HEAVY
  254A aBOX DRAWINGS LEFT LIGHT AND RIGHT VERTICAL HEAVYcHEAVY VERTICAL AND HORIZONTAL
  254C aBOX DRAWINGS LIGHT DOUBLE DASH HORIZONTALcHEAVY DOUBLE DASH HORIZONTAL
  254E aBOX DRAWINGS LIGHT DOUBLE DASH VERTICALcHEAVY DOUBLE DASH VERTICALcDOUBLE HORIZONTAL
  2551 aBOX DRAWINGS DOUBLE VERTICALcDOWN SINGLE AND RIGHT DOUBLEdDOUBLE AND RIGHT SINGLE
  2554 aBOX DRAWINGS DOUBLE DOWN AND RIGHTcDOWN SINGLE AND LEFT DOUBLEdDOUBLE AND LEFT SINGLE
  2557 aBOX DRAWINGS DOUBLE DOWN AND LEFTcUP SINGLE AND RIGHT DOUBLEdDOUBLE AND RIGHT SINGLE
  255A aBOX DRAWINGS DOUBLE UP AND RIGHTcUP SINGLE AND LEFT DOUBLEdDOUBLE AND LEFT SINGLE
  255D aBOX DRAWINGS DOUBLE UP AND LEFTcVERTICAL SINGLE AND RIGHT DOUBLEdDOUBLE AND RIGHT SINGLE
  2560 aBOX DRAWINGS DOUBLE VERTICAL AND RIGHTcVERTICAL SINGLE AND LEFT DOUBLE
  2562 aBOX DRAWINGS VERTICAL DOUBLE AND LEFT SINGLEcDOUBLE VERTICAL AND LEFT
  2564 aBOX DRAWINGS DOWN SINGLE AND HORIZONTAL DOUBLEdDOUBLE AND HORIZONTAL SINGLE
  2566 aBOX DRAWINGS DOUBLE DOWN AND HORIZONTALcUP SINGLE AND HORIZONTAL DOUBLE
  2568 aBOX DRAWINGS UP DOUBLE AND HORIZONTAL SINGLEcDOUBLE UP AND HORIZONTAL
  256A aBOX DRAWINGS VERTICAL SINGLE AND HORIZONTAL DOUBLEdDOUBLE AND HORIZONTAL SINGLE
  256C aBOX DRAWINGS DOUBLE VERTICAL AND HORIZONTALcLIGHT ARC DOWN AND RIGHTgLEFTeUP AND LEFT
  2570 aBOX DRAWINGS LIGHT ARC UP AND RIGHTdDIAGONAL UPPER RIGHT TO LOWER LEFTfLEFT TO LOWER RIGHT
  2573 aBOX DRAWINGS LIGHT DIAGONAL CROSSdLEFTdUPdRIGHTdDOWNcHEAVY LEFTdUPdRIGHTdDOWN
  257C aBOX DRAWINGS LIGHT LEFT AND HEAVY RIGHTdUP AND HEAVY DOWNcHEAVY LEFT AND LIGHT RIGHT
  257F aBOX DRAWINGS HEAVY UP AND LIGHT DOWNaUPPER HALF BLOCKaLOWER ONE EIGHTH BLOCKcQUARTER BLOCK
  2583 aLOWER THREE EIGHTHS BLOCKbHALF BLOCKbFIVE EIGHTHS BLOCKbTHREE QUARTERS BLOCK
  2587 aLOWER SEVEN EIGHTHS BLOCKaFULL BLOCKaLEFT SEVEN EIGHTHS BLOCKbTHREE QUARTERS BLOCK
  258B aLEFT FIVE EIGHTHS BLOCKbHALF BLOCKbTHREE EIGHTHS BLOCKbONE QUARTER BLOCKcEIGHTH BLOCK
  2590 aRIGHT HALF BLOCKaLIGHT SHADEaMEDIUM SHADEaDARK SHADEaUPPER ONE EIGHTH BLOCK
  2595 aRIGHT ONE EIGHTH BLOCKaQUADRANT LOWER LEFTcRIGHTbUPPER LEFTdAND LOWER LEFT AND LOWER RIGHT
  259A aQUADRANT UPPER LEFT AND LOWER RIGHTeUPPER RIGHT AND LOWER LEFTiRIGHTcRIGHTdAND LOWER LEFT
  259F aQUADRANT UPPER RIGHT AND LOWER LEFT AND LOWER RIGHTaBLACK SQUAREaWHITE SQUARE
  25A2 aWHITE SQUARE WITH ROUNDED CORNERScCONTAINING BLACK SMALL SQUARE
  25A4 aSQUARE WITH HORIZONTAL FILLcVERTICAL FILLcORTHOGONAL CROSSHATCH FILL
  25A7 aSQUARE WITH UPPER LEFT TO LOWER RIGHT FILLdRIGHT TO LOWER LEFT FILL
  25A9 aSQUARE WITH DIAGONAL CROSSHATCH FILLaBLACK SMALL SQUAREaWHITE SMALL SQUAREaBLACK RECTANGLE
  25AD aWHITE RECTANGLEaBLACK VERTICAL RECTANGLEaWHITE VERTICAL RECTANGLEaBLACK PARALLELOGRAM
  25B1 aWHITE PARALLELOGRAMaBLACK UP-POINTING TRIANGLEaWHITE UP-POINTING TRIANGLE
  25B4 aBLACK UP-POINTING SMALL TRIANGLEaWHITE UP-POINTING SMALL TRIANGLE
  25B6 aBLACK RIGHT-POINTING TRIANGLEaWHITE RIGHT-POINTING TRIANGLE
  25B8 aBLACK RIGHT-POINTING SMALL TRIANGLEaWHITE RIGHT-POINTING SMALL TRIANGLE
  25BA aBLACK RIGHT-POINTING POINTERaWHITE RIGHT-POINTING POINTERaBLACK DOWN-POINTING TRIANGLE
  25BD aWHITE DOWN-POINTING TRIANGLEaBLACK DOWN-POINTING SMALL TRIANGLE
  25BF aWHITE DOWN-POINTING SMALL TRIANGLEaBLACK LEFT-POINTING TRIANGLE
  25C1 aWHITE LEFT-POINTING TRIANGLEaBLACK LEFT-POINTING SMALL TRIANGLE
  25C3 aWHITE LEFT-POINTING SMALL TRIANGLEaBLACK LEFT-POINTING POINTERaWHITE LEFT-POINTING POINTER
  25C6 aBLACK DIAMONDaWHITE DIAMONDcCONTAINING BLACK SMALL DIAMONDaFISHEYEaLOZENGEaWHITE CIRCLE
  25CC aDOTTED CIRCLEaCIRCLE WITH VERTICAL FILLaBULLSEYEaBLACK CIRCLEaCIRCLE WITH LEFT HALF BLACK
  25D1 aCIRCLE WITH RIGHT HALF BLACKcLOWER HALF BLACKcUPPER HALF BLACKdRIGHT QUADRANT BLACK
  25D5 aCIRCLE WITH ALL BUT UPPER LEFT QUADRANT BLACKaLEFT HALF BLACK CIRCLE
  25D7 aRIGHT HALF BLACK CIRCLEaINVERSE BULLETbWHITE CIRCLEaUPPER HALF INVERSE WHITE CIRCLE
  25DB aLOWER HALF INVERSE WHITE CIRCLEaUPPER LEFT QUADRANT CIRCULAR ARC
  25DD aUPPER RIGHT QUADRANT CIRCULAR ARCaLOWER RIGHT QUADRANT CIRCULAR ARC
  25DF aLOWER LEFT QUADRANT CIRCULAR ARCaUPPER HALF CIRCLEaLOWER HALF CIRCLE
  25E2 aBLACK LOWER RIGHT TRIANGLEcLEFT TRIANGLEbUPPER LEFT TRIANGLEcRIGHT TRIANGLEaWHITE BULLET
  25E7 aSQUARE WITH LEFT HALF BLACKcRIGHT HALF BLACKcUPPER LEFT DIAGONAL HALF BLACK
  25EA aSQUARE WITH LOWER RIGHT DIAGONAL HALF BLACKaWHITE SQUARE WITH VERTICAL BISECTING LINE
  25EC aWHITE UP-POINTING TRIANGLE WITH DOTaUP-POINTING TRIANGLE WITH LEFT HALF BLACK
  25EE aUP-POINTING TRIANGLE WITH RIGHT HALF BLACKaLARGE CIRCLE
  25F0 aWHITE SQUARE WITH UPPER LEFT QUADRANTdLOWER LEFT QUADRANTeRIGHT QUADRANT
  25F3 aWHITE SQUARE WITH UPPER RIGHT QUADRANTbCIRCLE WITH UPPER LEFT QUADRANTdLOWER LEFT QUADRANT
  25F6 aWHITE CIRCLE WITH LOWER RIGHT QUADRANTdUPPER RIGHT QUADRANTaUPPER LEFT TRIANGLE
  25F9 aUPPER RIGHT TRIANGLEaLOWER LEFT TRIANGLEaWHITE MEDIUM SQUAREaBLACK MEDIUM SQUARE
  25FD aWHITE MEDIUM SMALL SQUAREaBLACK MEDIUM SMALL SQUAREaLOWER RIGHT TRIANGLE
  2600 aBLACK SUN WITH RAYSaCLOUDaUMBRELLAaSNOWMANaCOMETaBLACK STARaWHITE STARaLIGHTNING
  2608 aTHUNDERSTORMaSUNaASCENDING NODEaDESCENDING NODEaCONJUNCTIONaOPPOSITIONaBLACK TELEPHONE
  260F aWHITE TELEPHONEaBALLOT BOXcWITH CHECKdXaSALTIREaUMBRELLA WITH RAIN DROPSaHOT BEVERAGE
  2616 aWHITE SHOGI PIECEaBLACK SHOGI PIECEaSHAMROCKaREVERSED ROTATED FLORAL HEART BULLET
  261A aBLACK LEFT POINTING INDEXbRIGHT POINTING INDEXaWHITE LEFT POINTING INDEXbUP POINTING INDEX
  261E aWHITE RIGHT POINTING INDEXbDOWN POINTING INDEXaSKULL AND CROSSBONESaCAUTION SIGN
  2622 aRADIOACTIVE SIGNaBIOHAZARD SIGNaCADUCEUSaANKHaORTHODOX CROSSaCHI RHOaCROSS OF LORRAINE
  2629 aCROSS OF JERUSALEMaSTAR AND CRESCENTaFARSI SYMBOLaADI SHAKTIaHAMMER AND SICKLE
  262E aPEACE SYMBOLaYIN YANGaTRIGRAM FOR HEAVENcLAKEcFIREcTHUNDERcWINDcWATERcMOUNTAINcEARTH
  2638 aWHEEL OF DHARMAaWHITE FROWNING FACEbSMILING FACEaBLACK SMILING FACEaWHITE SUN WITH RAYS
  263D aFIRST QUARTER MOONaLAST QUARTER MOONaMERCURYaFEMALE SIGNaEARTHaMALE SIGNaJUPITERaSATURN
  2645 aURANUSaNEPTUNEaPLUTOaARIESaTAURUSaGEMINIaCANCERaLEOaVIRGOaLIBRAaSCORPIUSaSAGITTARIUS
  2651 aCAPRICORNaAQUARIUSaPISCESaWHITE CHESS KINGcQUEENcROOKcBISHOPcKNIGHTcPAWNaBLACK CHESS KING
  265B aBLACK CHESS QUEENcROOKcBISHOPcKNIGHTcPAWNbSPADE SUITaWHITE HEART SUITbDIAMOND SUIT
  2663 aBLACK CLUB SUITaWHITE SPADE SUITaBLACK HEART SUITbDIAMOND SUITaWHITE CLUB SUITaHOT SPRINGS
  2669 aQUARTER NOTEaEIGHTH NOTEaBEAMED EIGHTH NOTESbSIXTEENTH NOTESaMUSIC FLAT SIGNbNATURAL SIGN
  266F aMUSIC SHARP SIGNaWEST SYRIAC CROSSaEAST SYRIAC CROSSaUNIVERSAL RECYCLING SYMBOL
  2673 aRECYCLING SYMBOL FOR TYPE-1 PLASTICSdTYPE-2 PLASTICSdTYPE-3 PLASTICSdTYPE-4 PLASTICS
  2677 aRECYCLING SYMBOL FOR TYPE-5 PLASTICSdTYPE-6 PLASTICSdTYPE-7 PLASTICSdGENERIC MATERIALS
  267B aBLACK UNIVERSAL RECYCLING SYMBOLaRECYCLED PAPER SYMBOLaPARTIALLY-RECYCLED PAPER SYMBOL
  267E aPERMANENT PAPER SIGNaWHEELCHAIR SYMBOLaDIE FACE-1bFACE-2bFACE-3bFACE-4bFACE-5bFACE-6
  2686 aWHITE CIRCLE WITH DOT RIGHTdTWO DOTSaBLACK CIRCLE WITH WHITE DOT RIGHTdTWO WHITE DOTS
  268A aMONOGRAM FOR YANGcYINaDIGRAM FOR GREATER YANGcLESSER YINdYANGcGREATER YINaWHITE FLAG
  2691 aBLACK FLAGaHAMMER AND PICKaANCHORaCROSSED SWORDSaSTAFF OF AESCULAPIUSaSCALESaALEMBIC
  2698 aFLOWERaGEARaSTAFF OF HERMESaATOM SYMBOLaFLEUR-DE-LISaOUTLINED WHITE STAR
  269E aTHREE LINES CONVERGING RIGHTdLEFTaWARNING SIGNaHIGH VOLTAGE SIGNaDOUBLED FEMALE SIGN
  26A3 aDOUBLED MALE SIGNaINTERLOCKED FEMALE AND MALE SIGNaMALE AND FEMALE SIGNbWITH STROKE SIGN
  26A7 aMALE WITH STROKE AND MALE AND FEMALE SIGNaVERTICAL MALE WITH STROKE SIGN
  26A9 aHORIZONTAL MALE WITH STROKE SIGNaMEDIUM WHITE CIRCLEbBLACK CIRCLEbSMALL WHITE CIRCLE
  26AD aMARRIAGE SYMBOLaDIVORCE SYMBOLaUNMARRIED PARTNERSHIP SYMBOLaCOFFINaFUNERAL URNaNEUTER
  26B3 aCERESaPALLASaJUNOaVESTAaCHIRONaBLACK MOON LILITHaSEXTILEaSEMISEXTILEaQUINCUNX
  26BC aSESQUIQUADRATEaSOCCER BALLaBASEBALLaSQUARED KEYaWHITE DRAUGHTS MANcKINGaBLACK DRAUGHTS MAN
  26C3 aBLACK DRAUGHTS KINGaSNOWMAN WITHOUT SNOWaSUN BEHIND CLOUDaRAINaBLACK SNOWMAN
  26C8 aTHUNDER CLOUD AND RAINaTURNED WHITE SHOGI PIECEbBLACK SHOGI PIECEaWHITE DIAMOND IN SQUARE
  26CC aCROSSING LANESaDISABLED CARaOPHIUCHUSaPICKaCAR SLIDINGaHELMET WITH WHITE CROSS
  26D2 aCIRCLED CROSSING LANESaCHAINSaNO ENTRYaALTERNATE ONE-WAY LEFT WAY TRAFFIC
  26D6 aBLACK TWO-WAY LEFT WAY TRAFFICaWHITE TWO-WAY LEFT WAY TRAFFICaBLACK LEFT LANE MERGE
  26D9 aWHITE LEFT LANE MERGEaDRIVE SLOW SIGNaHEAVY WHITE DOWN-POINTING TRIANGLEaLEFT CLOSED ENTRY
  26DD aSQUARED SALTIREaFALLING DIAGONAL IN WHITE CIRCLE IN BLACK SQUAREaBLACK TRUCK
  26E0 aRESTRICTED LEFT ENTRY-1cENTRY-2aASTRONOMICAL SYMBOL FOR URANUS
  26E3 aHEAVY CIRCLE WITH STROKE AND TWO DOTS ABOVEaPENTAGRAMaRIGHT-HANDED INTERLACED PENTAGRAM
  26E6 aLEFT-HANDED INTERLACED PENTAGRAMaINVERTED PENTAGRAMaBLACK CROSS ON SHIELDaSHINTO SHRINE
  26EA aCHURCHaCASTLEaHISTORIC SITEaGEAR WITHOUT HUBbWITH HANDLESaMAP SYMBOL FOR LIGHTHOUSE
  26F0 aMOUNTAINaUMBRELLA ON GROUNDaFOUNTAINaFLAG IN HOLEaFERRYaSAILBOATaSQUARE FOUR CORNERSaSKIER
  26F8 aICE SKATEaPERSON WITH BALLaTENTaJAPANESE BANK SYMBOLaHEADSTONE GRAVEYARD SYMBOLaFUEL PUMP
  26FE aCUP ON BLACK SQUAREaWHITE FLAG WITH HORIZONTAL MIDDLE BLACK STRIPEaBLACK SAFETY SCISSORS
  2701 aUPPER BLADE SCISSORSaBLACK SCISSORSaLOWER BLADE SCISSORSaWHITE SCISSORSbHEAVY CHECK MARK
  2706 aTELEPHONE LOCATION SIGNaTAPE DRIVEaAIRPLANEaENVELOPEaRAISED FISTbHANDaVICTORY HAND
  270D aWRITING HANDaLOWER RIGHT PENCILaPENCILaUPPER RIGHT PENCILaWHITE NIBaBLACK NIBaCHECK MARK
  2714 aHEAVY CHECK MARKaMULTIPLICATION XaHEAVY MULTIPLICATION XaBALLOT XaHEAVY BALLOT X
  2719 aOUTLINED GREEK CROSSaHEAVY GREEK CROSSaOPEN CENTRE CROSSaHEAVY OPEN CENTRE CROSS
  271D aLATIN CROSSaSHADOWED WHITE LATIN CROSSaOUTLINED LATIN CROSSaMALTESE CROSSaSTAR OF DAVID
  2722 aFOUR TEARDROP-SPOKED ASTERISKbBALLOON-SPOKED ASTERISKaHEAVY FOUR BALLOON-SPOKED ASTERISK
  2725 aFOUR CLUB-SPOKED ASTERISKaBLACK FOUR POINTED STARaWHITE FOUR POINTED STARaSPARKLES
  2729 aSTRESS OUTLINED WHITE STARaCIRCLED WHITE STARaOPEN CENTRE BLACK STAR
  272C aBLACK CENTRE WHITE STARaOUTLINED BLACK STARaHEAVY OUTLINED BLACK STARaPINWHEEL STAR
  2730 aSHADOWED WHITE STARaHEAVY ASTERISKaOPEN CENTRE ASTERISKaEIGHT SPOKED ASTERISK
  2734 aEIGHT POINTED BLACK STARcPINWHEEL STARaSIX POINTED BLACK STAR
  2737 aEIGHT POINTED RECTILINEAR BLACK STARaHEAVY EIGHT POINTED RECTILINEAR BLACK STAR
  2739 aTWELVE POINTED BLACK STARaSIXTEEN POINTED ASTERISKaTEARDROP-SPOKED ASTERISK
  273C aOPEN CENTRE TEARDROP-SPOKED ASTERISKaHEAVY TEARDROP-SPOKED ASTERISK
  273E aSIX PETALLED BLACK AND WHITE FLORETTEaBLACK FLORETTEaWHITE FLORETTE
  2741 aEIGHT PETALLED OUTLINED BLACK FLORETTEaCIRCLED OPEN CENTRE EIGHT POINTED STAR
  2743 aHEAVY TEARDROP-SPOKED PINWHEEL ASTERISKaSNOWFLAKEaTIGHT TRIFOLIATE SNOWFLAKE
  2746 aHEAVY CHEVRON SNOWFLAKEaSPARKLEaHEAVY SPARKLEaBALLOON-SPOKED ASTERISK
  274A aEIGHT TEARDROP-SPOKED PROPELLER ASTERISKaHEAVY EIGHT TEARDROP-SPOKED PROPELLER ASTERISK
  274C aCROSS MARKaSHADOWED WHITE CIRCLEaNEGATIVE SQUARED CROSS MARK
  274F aLOWER RIGHT DROP-SHADOWED WHITE SQUAREaUPPER RIGHT DROP-SHADOWED WHITE SQUARE
  2751 aLOWER RIGHT SHADOWED WHITE SQUAREaUPPER RIGHT SHADOWED WHITE SQUARE
  2753 aBLACK QUESTION MARK ORNAMENTaWHITE QUESTION MARK ORNAMENTbEXCLAMATION MARK ORNAMENT
  2756 aBLACK DIAMOND MINUS WHITE XaHEAVY EXCLAMATION MARK SYMBOLaLIGHT VERTICAL BAR
  2759 aMEDIUM VERTICAL BARaHEAVY VERTICAL BARbSINGLE TURNED COMMA QUOTATION MARK ORNAMENT
  275C aHEAVY SINGLE COMMA QUOTATION MARK ORNAMENTbDOUBLE TURNED COMMA QUOTATION MARK ORNAMENT
  275E aHEAVY DOUBLE COMMA QUOTATION MARK ORNAMENTbLOW SINGLE COMMA QUOTATION MARK ORNAMENT
  2760 aHEAVY LOW DOUBLE COMMA QUOTATION MARK ORNAMENTaCURVED STEM PARAGRAPH SIGN ORNAMENT
  2762 aHEAVY EXCLAMATION MARK ORNAMENTbHEART EXCLAMATION MARK ORNAMENTbBLACK HEART
  2765 aROTATED HEAVY BLACK HEART BULLETaFLORAL HEARTaROTATED FLORAL HEART BULLET
  2768 aMEDIUM LEFT PARENTHESIS ORNAMENTbRIGHT PARENTHESIS ORNAMENT
  276A aMEDIUM FLATTENED LEFT PARENTHESIS ORNAMENTcRIGHT PARENTHESIS ORNAMENT
  276C aMEDIUM LEFT-POINTING ANGLE BRACKET ORNAMENTbRIGHT-POINTING ANGLE BRACKET ORNAMENT
  276E aHEAVY LEFT-POINTING ANGLE QUOTATION MARK ORNAMENT
  276F aHEAVY RIGHT-POINTING ANGLE QUOTATION MARK ORNAMENTbLEFT-POINTING ANGLE BRACKET ORNAMENT
  2771 aHEAVY RIGHT-POINTING ANGLE BRACKET ORNAMENTaLIGHT LEFT TORTOISE SHELL BRACKET ORNAMENT
  2773 aLIGHT RIGHT TORTOISE SHELL BRACKET ORNAMENTaMEDIUM LEFT CURLY BRACKET ORNAMENT
  2775 aMEDIUM RIGHT CURLY BRACKET ORNAMENTaDINGBAT NEGATIVE CIRCLED DIGIT ONEeTWOeTHREEeFOUReFIVE
  277B aDINGBAT NEGATIVE CIRCLED DIGIT SIXeSEVENeEIGHTeNINEdNUMBER TEN
  2780 aDINGBAT CIRCLED SANS-SERIF DIGIT ONEeTWOeTHREEeFOUReFIVEeSIXeSEVENeEIGHTeNINEdNUMBER TEN
  278A aDINGBAT NEGATIVE CIRCLED SANS-SERIF DIGIT ONEfTWOfTHREEfFOURfFIVEfSIXfSEVENfEIGHTfNINE
  2793 aDINGBAT NEGATIVE CIRCLED SANS-SERIF NUMBER TENaHEAVY WIDE-HEADED RIGHTWARDS ARROW
  2795 aHEAVY PLUS SIGNbMINUS SIGNbDIVISION SIGNbSOUTH EAST ARROWbRIGHTWARDS ARROW
  279A aHEAVY NORTH EAST ARROWaDRAFTING POINT RIGHTWARDS ARROWaHEAVY ROUND-TIPPED RIGHTWARDS ARROW
  279D aTRIANGLE-HEADED RIGHTWARDS ARROWaHEAVY TRIANGLE-HEADED RIGHTWARDS ARROW
  279F aDASHED TRIANGLE-HEADED RIGHTWARDS ARROWaHEAVY DASHED TRIANGLE-HEADED RIGHTWARDS ARROW
  27A1 aBLACK RIGHTWARDS ARROWaTHREE-D TOP-LIGHTED RIGHTWARDS ARROWHEAD
  27A3 aTHREE-D BOTTOM-LIGHTED RIGHTWARDS ARROWHEADaBLACK RIGHTWARDS ARROWHEAD
  27A5 aHEAVY BLACK CURVED DOWNWARDS AND RIGHTWARDS ARROWdUPWARDS AND RIGHTWARDS ARROW
  27A7 aSQUAT BLACK RIGHTWARDS ARROWaHEAVY CONCAVE-POINTED BLACK RIGHTWARDS ARROW
  27A9 aRIGHT-SHADED WHITE RIGHTWARDS ARROWaLEFT-SHADED WHITE RIGHTWARDS ARROW
  27AB aBACK-TILTED SHADOWED WHITE RIGHTWARDS ARROWaFRONT-TILTED SHADOWED WHITE RIGHTWARDS ARROW
  27AD aHEAVY LOWER RIGHT-SHADOWED WHITE RIGHTWARDS ARROW
  27AE aHEAVY UPPER RIGHT-SHADOWED WHITE RIGHTWARDS ARROW
  27AF aNOTCHED LOWER RIGHT-SHADOWED WHITE RIGHTWARDS ARROWaCURLY LOOP
  27B1 aNOTCHED UPPER RIGHT-SHADOWED WHITE RIGHTWARDS ARROWaCIRCLED HEAVY WHITE RIGHTWARDS ARROW
  27B3 aWHITE-FEATHERED RIGHTWARDS ARROWaBLACK-FEATHERED SOUTH EAST ARROWbRIGHTWARDS ARROW
  27B6 aBLACK-FEATHERED NORTH EAST ARROWaHEAVY BLACK-FEATHERED SOUTH EAST ARROWcRIGHTWARDS ARROW
  27B9 aHEAVY BLACK-FEATHERED NORTH EAST ARROWaTEARDROP-BARBED RIGHTWARDS ARROW
  27BB aHEAVY TEARDROP-SHANKED RIGHTWARDS ARROWaWEDGE-TAILED RIGHTWARDS ARROW
  27BD aHEAVY WEDGE-TAILED RIGHTWARDS ARROWaOPEN-OUTLINED RIGHTWARDS ARROWaDOUBLE CURLY LOOP
  27C0 aTHREE DIMENSIONAL ANGLEaWHITE TRIANGLE CONTAINING SMALL WHITE TRIANGLEaPERPENDICULAR
  27C3 aOPEN SUBSETbSUPERSETaLEFT S-SHAPED BAG DELIMITERaRIGHT S-SHAPED BAG DELIMITER
  27C7 aOR WITH DOT INSIDEaREVERSE SOLIDUS PRECEDING SUBSETaSUPERSET PRECEDING SOLIDUS
  27CA aVERTICAL BAR WITH HORIZONTAL STROKEaMATHEMATICAL RISING DIAGONALaLONG DIVISION
  27CD aMATHEMATICAL FALLING DIAGONALaSQUARED LOGICAL ANDcORaWHITE DIAMOND WITH CENTRED DOT
  27D1 aAND WITH DOTaELEMENT OF OPENING UPWARDSaLOWER RIGHT CORNER WITH DOT
  27D4 aUPPER LEFT CORNER WITH DOTaLEFT OUTER JOINaRIGHT OUTER JOINaFULL OUTER JOINaLARGE UP TACK
  27D9 aLARGE DOWN TACKaLEFT AND RIGHT DOUBLE TURNSTILEdTACKbMULTIMAPaLONG RIGHT TACKbLEFT TACK
  27DF aUP TACK WITH CIRCLE ABOVEaLOZENGE DIVIDED BY HORIZONTAL RULEaWHITE CONCAVE-SIDED DIAMOND
  27E2 aWHITE CONCAVE-SIDED DIAMOND WITH LEFTWARDS TICKeRIGHTWARDS TICKbSQUARE WITH LEFTWARDS TICK
  27E5 aWHITE SQUARE WITH RIGHTWARDS TICKaMATHEMATICAL LEFT WHITE SQUARE BRACKET
  27E7 aMATHEMATICAL RIGHT WHITE SQUARE BRACKETbLEFT ANGLE BRACKETbRIGHT ANGLE BRACKET
  27EA aMATHEMATICAL LEFT DOUBLE ANGLE BRACKETbRIGHT DOUBLE ANGLE BRACKET
  27EC aMATHEMATICAL LEFT WHITE TORTOISE SHELL BRACKETbRIGHT WHITE TORTOISE SHELL BRACKET
  27EE aMATHEMATICAL LEFT FLATTENED PARENTHESISbRIGHT FLATTENED PARENTHESIS
  27F0 aUPWARDS QUADRUPLE ARROWaDOWNWARDS QUADRUPLE ARROWaANTICLOCKWISE GAPPED CIRCLE ARROW
  27F3 aCLOCKWISE GAPPED CIRCLE ARROWaRIGHT ARROW WITH CIRCLED PLUSaLONG LEFTWARDS ARROW
  27F6 aLONG RIGHTWARDS ARROWbLEFT RIGHT ARROWbLEFTWARDS DOUBLE ARROWbRIGHTWARDS DOUBLE ARROW
  27FA aLONG LEFT RIGHT DOUBLE ARROWbLEFTWARDS ARROW FROM BARbRIGHTWARDS ARROW FROM BAR
  27FD aLONG LEFTWARDS DOUBLE ARROW FROM BARbRIGHTWARDS DOUBLE ARROW FROM BARcSQUIGGLE ARROW
  2800 aBRAILLE PATTERN BLANKcDOTS-1cDOTS-2cDOTS-12cDOTS-3cDOTS-13cDOTS-23cDOTS-123cDOTS-4cDOTS-14
  280A aBRAILLE PATTERN DOTS-24cDOTS-124cDOTS-34cDOTS-134cDOTS-234cDOTS-1234cDOTS-5cDOTS-15
  2812 aBRAILLE PATTERN DOTS-25cDOTS-125cDOTS-35cDOTS-135cDOTS-235cDOTS-1235cDOTS-45cDOTS-145
  281A aBRAILLE PATTERN DOTS-245cDOTS-1245cDOTS-345cDOTS-1345cDOTS-2345cDOTS-12345cDOTS-6cDOTS-16
  2822 aBRAILLE PATTERN DOTS-26cDOTS-126cDOTS-36cDOTS-136cDOTS-236cDOTS-1236cDOTS-46cDOTS-146
  282A aBRAILLE PATTERN DOTS-246cDOTS-1246cDOTS-346cDOTS-1346cDOTS-2346cDOTS-12346cDOTS-56
  2831 aBRAILLE PATTERN DOTS-156cDOTS-256cDOTS-1256cDOTS-356cDOTS-1356cDOTS-2356cDOTS-12356
  2838 aBRAILLE PATTERN DOTS-456cDOTS-1456cDOTS-2456cDOTS-12456cDOTS-3456cDOTS-13456cDOTS-23456
  283F aBRAILLE PATTERN DOTS-123456cDOTS-7cDOTS-17cDOTS-27cDOTS-127cDOTS-37cDOTS-137cDOTS-237
  2847 aBRAILLE PATTERN DOTS-1237cDOTS-47cDOTS-147cDOTS-247cDOTS-1247cDOTS-347cDOTS-1347cDOTS-2347
  284F aBRAILLE PATTERN DOTS-12347cDOTS-57cDOTS-157cDOTS-257cDOTS-1257cDOTS-357cDOTS-1357
  2856 aBRAILLE PATTERN DOTS-2357cDOTS-12357cDOTS-457cDOTS-1457cDOTS-2457cDOTS-12457cDOTS-3457
  285D aBRAILLE PATTERN DOTS-13457cDOTS-23457cDOTS-123457cDOTS-67cDOTS-167cDOTS-267cDOTS-1267
  2864 aBRAILLE PATTERN DOTS-367cDOTS-1367cDOTS-2367cDOTS-12367cDOTS-467cDOTS-1467cDOTS-2467
  286B aBRAILLE PATTERN DOTS-12467cDOTS-3467cDOTS-13467cDOTS-23467cDOTS-123467cDOTS-567cDOTS-1567
  2872 aBRAILLE PATTERN DOTS-2567cDOTS-12567cDOTS-3567cDOTS-13567cDOTS-23567cDOTS-123567cDOTS-4567
  2879 aBRAILLE PATTERN DOTS-14567cDOTS-24567cDOTS-124567cDOTS-34567cDOTS-134567cDOTS-234567
  287F aBRAILLE PATTERN DOTS-1234567cDOTS-8cDOTS-18cDOTS-28cDOTS-128cDOTS-38cDOTS-138cDOTS-238
  2887 aBRAILLE PATTERN DOTS-1238cDOTS-48cDOTS-148cDOTS-248cDOTS-1248cDOTS-348cDOTS-1348cDOTS-2348
  288F aBRAILLE PATTERN DOTS-12348cDOTS-58cDOTS-158cDOTS-258cDOTS-1258cDOTS-358cDOTS-1358
  2896 aBRAILLE PATTERN DOTS-2358cDOTS-12358cDOTS-458cDOTS-1458cDOTS-2458cDOTS-12458cDOTS-3458
  289D aBRAILLE PATTERN DOTS-13458cDOTS-23458cDOTS-123458cDOTS-68cDOTS-168cDOTS-268cDOTS-1268
  28A4 aBRAILLE PATTERN DOTS-368cDOTS-1368cDOTS-2368cDOTS-12368cDOTS-468cDOTS-1468cDOTS-2468
  28AB aBRAILLE PATTERN DOTS-12468cDOTS-3468cDOTS-13468cDOTS-23468cDOTS-123468cDOTS-568cDOTS-1568
  28B2 aBRAILLE PATTERN DOTS-2568cDOTS-12568cDOTS-3568cDOTS-13568cDOTS-23568cDOTS-123568cDOTS-4568
  28B9 aBRAILLE PATTERN DOTS-14568cDOTS-24568cDOTS-124568cDOTS-34568cDOTS-134568cDOTS-234568
  28BF aBRAILLE PATTERN DOTS-1234568cDOTS-78cDOTS-178cDOTS-278cDOTS-1278cDOTS-378cDOTS-1378
  28C6 aBRAILLE PATTERN DOTS-2378cDOTS-12378cDOTS-478cDOTS-1478cDOTS-2478cDOTS-12478cDOTS-3478
  28CD aBRAILLE PATTERN DOTS-13478cDOTS-23478cDOTS-123478cDOTS-578cDOTS-1578cDOTS-2578cDOTS-12578
  28D4 aBRAILLE PATTERN DOTS-3578cDOTS-13578cDOTS-23578cDOTS-123578cDOTS-4578cDOTS-14578
  28DA aBRAILLE PATTERN DOTS-24578cDOTS-124578cDOTS-34578cDOTS-134578cDOTS-234578cDOTS-1234578
  28E0 aBRAILLE PATTERN DOTS-678cDOTS-1678cDOTS-2678cDOTS-12678cDOTS-3678cDOTS-13678cDOTS-23678
  28E7 aBRAILLE PATTERN DOTS-123678cDOTS-4678cDOTS-14678cDOTS-24678cDOTS-124678cDOTS-34678
  28ED aBRAILLE PATTERN DOTS-134678cDOTS-234678cDOTS-1234678cDOTS-5678cDOTS-15678cDOTS-25678
  28F3 aBRAILLE PATTERN DOTS-125678cDOTS-35678cDOTS-135678cDOTS-235678cDOTS-1235678cDOTS-45678
  28F9 aBRAILLE PATTERN DOTS-145678cDOTS-245678cDOTS-1245678cDOTS-345678cDOTS-1345678cDOTS-2345678
  28FF aBRAILLE PATTERN DOTS-12345678aRIGHTWARDS TWO-HEADED ARROW WITH VERTICAL STROKE
  2901 aRIGHTWARDS TWO-HEADED ARROW WITH DOUBLE VERTICAL STROKE
  2902 aLEFTWARDS DOUBLE ARROW WITH VERTICAL STROKEaRIGHTWARDS DOUBLE ARROW WITH VERTICAL STROKE
  2904 aLEFT RIGHT DOUBLE ARROW WITH VERTICAL STROKEaRIGHTWARDS TWO-HEADED ARROW FROM BAR
  2906 aLEFTWARDS DOUBLE ARROW FROM BARaRIGHTWARDS DOUBLE ARROW FROM BAR
  2908 aDOWNWARDS ARROW WITH HORIZONTAL STROKEaUPWARDS ARROW WITH HORIZONTAL STROKEbTRIPLE ARROW
  290B aDOWNWARDS TRIPLE ARROWaLEFTWARDS DOUBLE DASH ARROWaRIGHTWARDS DOUBLE DASH ARROW
  290E aLEFTWARDS TRIPLE DASH ARROWaRIGHTWARDS TRIPLE DASH ARROWbTWO-HEADED TRIPLE DASH ARROW
  2911 aRIGHTWARDS ARROW WITH DOTTED STEMaUPWARDS ARROW TO BARaDOWNWARDS ARROW TO BAR
  2914 aRIGHTWARDS ARROW WITH TAIL WITH VERTICAL STROKEfDOUBLE VERTICAL STROKE
  2916 aRIGHTWARDS TWO-HEADED ARROW WITH TAILfWITH VERTICAL STROKEgDOUBLE VERTICAL STROKE
  2919 aLEFTWARDS ARROW-TAILaRIGHTWARDS ARROW-TAILaLEFTWARDS DOUBLE ARROW-TAIL
  291C aRIGHTWARDS DOUBLE ARROW-TAILaLEFTWARDS ARROW TO BLACK DIAMOND
  291E aRIGHTWARDS ARROW TO BLACK DIAMONDaLEFTWARDS ARROW FROM BAR TO BLACK DIAMOND
  2920 aRIGHTWARDS ARROW FROM BAR TO BLACK DIAMONDaNORTH WEST AND SOUTH EAST ARROW
  2922 aNORTH EAST AND SOUTH WEST ARROWbWEST ARROW WITH HOOKbEAST ARROW WITH HOOK
  2925 aSOUTH EAST ARROW WITH HOOKbWEST ARROW WITH HOOKaNORTH WEST ARROW AND NORTH EAST ARROW
  2928 aNORTH EAST ARROW AND SOUTH EAST ARROWaSOUTH EAST ARROW AND SOUTH WEST ARROW
  292A aSOUTH WEST ARROW AND NORTH WEST ARROWaRISING DIAGONAL CROSSING FALLING DIAGONAL
  292C aFALLING DIAGONAL CROSSING RISING DIAGONALaSOUTH EAST ARROW CROSSING NORTH EAST ARROW
  292E aNORTH EAST ARROW CROSSING SOUTH EAST ARROWaFALLING DIAGONAL CROSSING NORTH EAST ARROW
  2930 aRISING DIAGONAL CROSSING SOUTH EAST ARROWaNORTH EAST ARROW CROSSING NORTH WEST ARROW
  2932 aNORTH WEST ARROW CROSSING NORTH EAST ARROWaWAVE ARROW POINTING DIRECTLY RIGHT
  2934 aARROW POINTING RIGHTWARDS THEN CURVING UPWARDSfDOWNWARDScDOWNWARDS THEN CURVING LEFTWARDS
  2937 aARROW POINTING DOWNWARDS THEN CURVING RIGHTWARDSaRIGHT-SIDE ARC CLOCKWISE ARROW
  2939 aLEFT-SIDE ARC ANTICLOCKWISE ARROWaTOP ARC ANTICLOCKWISE ARROW
  293B aBOTTOM ARC ANTICLOCKWISE ARROWaTOP ARC CLOCKWISE ARROW WITH MINUS
  293D aTOP ARC ANTICLOCKWISE ARROW WITH PLUSaLOWER RIGHT SEMICIRCULAR CLOCKWISE ARROW
  293F aLOWER LEFT SEMICIRCULAR ANTICLOCKWISE ARROWaANTICLOCKWISE CLOSED CIRCLE ARROW
  2941 aCLOCKWISE CLOSED CIRCLE ARROWaRIGHTWARDS ARROW ABOVE SHORT LEFTWARDS ARROW
  2943 aLEFTWARDS ARROW ABOVE SHORT RIGHTWARDS ARROWaSHORT RIGHTWARDS ARROW ABOVE LEFTWARDS ARROW
  2945 aRIGHTWARDS ARROW WITH PLUS BELOWaLEFTWARDS ARROW WITH PLUS BELOW
  2947 aRIGHTWARDS ARROW THROUGH XaLEFT RIGHT ARROW THROUGH SMALL CIRCLE
  2949 aUPWARDS TWO-HEADED ARROW FROM SMALL CIRCLEaLEFT BARB UP RIGHT BARB DOWN HARPOON
  294B aLEFT BARB DOWN RIGHT BARB UP HARPOONaUP BARB RIGHT DOWN BARB LEFT HARPOON
  294D aUP BARB LEFT DOWN BARB RIGHT HARPOONaLEFT BARB UP RIGHT BARB UP HARPOON
  294F aUP BARB RIGHT DOWN BARB RIGHT HARPOONaLEFT BARB DOWN RIGHT BARB DOWN HARPOON
  2951 aUP BARB LEFT DOWN BARB LEFT HARPOONaLEFTWARDS HARPOON WITH BARB UP TO BAR
  2953 aRIGHTWARDS HARPOON WITH BARB UP TO BARaUPWARDS HARPOON WITH BARB RIGHT TO BAR
  2955 aDOWNWARDS HARPOON WITH BARB RIGHT TO BARaLEFTWARDS HARPOON WITH BARB DOWN TO BAR
  2957 aRIGHTWARDS HARPOON WITH BARB DOWN TO BARaUPWARDS HARPOON WITH BARB LEFT TO BAR
  2959 aDOWNWARDS HARPOON WITH BARB LEFT TO BARaLEFTWARDS HARPOON WITH BARB UP FROM BAR
  295B aRIGHTWARDS HARPOON WITH BARB UP FROM BARaUPWARDS HARPOON WITH BARB RIGHT FROM BAR
  295D aDOWNWARDS HARPOON WITH BARB RIGHT FROM BARaLEFTWARDS HARPOON WITH BARB DOWN FROM BAR
  295F aRIGHTWARDS HARPOON WITH BARB DOWN FROM BARaUPWARDS HARPOON WITH BARB LEFT FROM BAR
  2961 aDOWNWARDS HARPOON WITH BARB LEFT FROM BAR
  2962 aLEFTWARDS HARPOON WITH BARB UP ABOVE LEFTWARDS HARPOON WITH BARB DOWN
  2963 aUPWARDS HARPOON WITH BARB LEFT BESIDE UPWARDS HARPOON WITH BARB RIGHT
  2964 aRIGHTWARDS HARPOON WITH BARB UP ABOVE RIGHTWARDS HARPOON WITH BARB DOWN
  2965 aDOWNWARDS HARPOON WITH BARB LEFT BESIDE DOWNWARDS HARPOON WITH BARB RIGHT
  2966 aLEFTWARDS HARPOON WITH BARB UP ABOVE RIGHTWARDS HARPOON WITH BARB UP
  2967 aLEFTWARDS HARPOON WITH BARB DOWN ABOVE RIGHTWARDS HARPOON WITH BARB DOWN
  2968 aRIGHTWARDS HARPOON WITH BARB UP ABOVE LEFTWARDS HARPOON WITH BARB UP
  2969 aRIGHTWARDS HARPOON WITH BARB DOWN ABOVE LEFTWARDS HARPOON WITH BARB DOWN
  296A aLEFTWARDS HARPOON WITH BARB UP ABOVE LONG DASHeDOWN BELOW LONG DASH
  296C aRIGHTWARDS HARPOON WITH BARB UP ABOVE LONG DASHeDOWN BELOW LONG DASH
  296E aUPWARDS HARPOON WITH BARB LEFT BESIDE DOWNWARDS HARPOON WITH BARB RIGHT
  296F aDOWNWARDS HARPOON WITH BARB LEFT BESIDE UPWARDS HARPOON WITH BARB RIGHT
  2970 aRIGHT DOUBLE ARROW WITH ROUNDED HEADaEQUALS SIGN ABOVE RIGHTWARDS ARROW
  2972 aTILDE OPERATOR ABOVE RIGHTWARDS ARROWaLEFTWARDS ARROW ABOVE TILDE OPERATOR
  2974 aRIGHTWARDS ARROW ABOVE TILDE OPERATORdALMOST EQUAL TOaLESS-THAN ABOVE LEFTWARDS ARROW
  2977 aLEFTWARDS ARROW THROUGH LESS-THANaGREATER-THAN ABOVE RIGHTWARDS ARROW
  2979 aSUBSET ABOVE RIGHTWARDS ARROWaLEFTWARDS ARROW THROUGH SUBSET
  297B aSUPERSET ABOVE LEFTWARDS ARROWaLEFT FISH TAILaRIGHT FISH TAILaUP FISH TAILaDOWN FISH TAIL
  2980 aTRIPLE VERTICAL BAR DELIMITERaZ NOTATION SPOTcTYPE COLONaLEFT WHITE CURLY BRACKET
  2984 aRIGHT WHITE CURLY BRACKETaLEFT WHITE PARENTHESISaRIGHT WHITE PARENTHESIS
  2987 aZ NOTATION LEFT IMAGE BRACKETcRIGHT IMAGE BRACKETcLEFT BINDING BRACKET
  298A aZ NOTATION RIGHT BINDING BRACKETaLEFT SQUARE BRACKET WITH UNDERBAR
  298C aRIGHT SQUARE BRACKET WITH UNDERBARaLEFT SQUARE BRACKET WITH TICK IN TOP CORNER
  298E aRIGHT SQUARE BRACKET WITH TICK IN BOTTOM CORNER
  298F aLEFT SQUARE BRACKET WITH TICK IN BOTTOM CORNER
  2990 aRIGHT SQUARE BRACKET WITH TICK IN TOP CORNERaLEFT ANGLE BRACKET WITH DOT
  2992 aRIGHT ANGLE BRACKET WITH DOTaLEFT ARC LESS-THAN BRACKETaRIGHT ARC GREATER-THAN BRACKET
  2995 aDOUBLE LEFT ARC GREATER-THAN BRACKETbRIGHT ARC LESS-THAN BRACKET
  2997 aLEFT BLACK TORTOISE SHELL BRACKETaRIGHT BLACK TORTOISE SHELL BRACKETaDOTTED FENCE
  299A aVERTICAL ZIGZAG LINEaMEASURED ANGLE OPENING LEFTaRIGHT ANGLE VARIANT WITH SQUARE
  299D aMEASURED RIGHT ANGLE WITH DOTaANGLE WITH S INSIDEaACUTE ANGLEaSPHERICAL ANGLE OPENING LEFT
  29A1 aSPHERICAL ANGLE OPENING UPaTURNED ANGLEaREVERSED ANGLEaANGLE WITH UNDERBAR
  29A5 aREVERSED ANGLE WITH UNDERBARaOBLIQUE ANGLE OPENING UPdDOWN
  29A8 aMEASURED ANGLE WITH OPEN ARM ENDING IN ARROW POINTING UP AND RIGHTlLEFTjDOWN AND RIGHT
  29AB aMEASURED ANGLE WITH OPEN ARM ENDING IN ARROW POINTING DOWN AND LEFTjRIGHT AND UP
  29AD aMEASURED ANGLE WITH OPEN ARM ENDING IN ARROW POINTING LEFT AND UPjRIGHT AND DOWN
  29AF aMEASURED ANGLE WITH OPEN ARM ENDING IN ARROW POINTING LEFT AND DOWNaREVERSED EMPTY SET
  29B1 aEMPTY SET WITH OVERBARdSMALL CIRCLE ABOVEdRIGHT ARROW ABOVEdLEFT ARROW ABOVE
  29B5 aCIRCLE WITH HORIZONTAL BARaCIRCLED VERTICAL BARbPARALLELbREVERSE SOLIDUSbPERPENDICULAR
  29BA aCIRCLE DIVIDED BY HORIZONTAL BAR AND TOP HALF DIVIDED BY VERTICAL BARbWITH SUPERIMPOSED X
  29BC aCIRCLED ANTICLOCKWISE-ROTATED DIVISION SIGNaUP ARROW THROUGH CIRCLEaCIRCLED WHITE BULLET
  29BF aCIRCLED BULLETbLESS-THANbGREATER-THANaCIRCLE WITH SMALL CIRCLE TO THE RIGHT
  29C3 aCIRCLE WITH TWO HORIZONTAL STROKES TO THE RIGHTaSQUARED RISING DIAGONAL SLASH
  29C5 aSQUARED FALLING DIAGONAL SLASHbASTERISKbSMALL CIRCLEbSQUAREaTWO JOINED SQUARES
  29CA aTRIANGLE WITH DOT ABOVEcUNDERBARaS IN TRIANGLEaTRIANGLE WITH SERIFS AT BOTTOM
  29CE aRIGHT TRIANGLE ABOVE LEFT TRIANGLEaLEFT TRIANGLE BESIDE VERTICAL BAR
  29D0 aVERTICAL BAR BESIDE RIGHT TRIANGLEaBOWTIE WITH LEFT HALF BLACKcRIGHT HALF BLACK
  29D3 aBLACK BOWTIEaTIMES WITH LEFT HALF BLACKcRIGHT HALF BLACKaWHITE HOURGLASSaBLACK HOURGLASS
  29D8 aLEFT WIGGLY FENCEaRIGHT WIGGLY FENCEaLEFT DOUBLE WIGGLY FENCEaRIGHT DOUBLE WIGGLY FENCE
  29DC aINCOMPLETE INFINITYaTIE OVER INFINITYaINFINITY NEGATED WITH VERTICAL BAR
  29DF aDOUBLE-ENDED MULTIMAPaSQUARE WITH CONTOURED OUTLINEaINCREASES ASaSHUFFLE PRODUCT
  29E3 aEQUALS SIGN AND SLANTED PARALLELfWITH TILDE ABOVEaIDENTICAL TO AND SLANTED PARALLEL
  29E6 aGLEICH STARKaTHERMODYNAMICaDOWN-POINTING TRIANGLE WITH LEFT HALF BLACKdRIGHT HALF BLACK
  29EA aBLACK DIAMOND WITH DOWN ARROWbLOZENGEaWHITE CIRCLE WITH DOWN ARROW
  29ED aBLACK CIRCLE WITH DOWN ARROWaERROR-BARRED WHITE SQUAREbBLACK SQUAREbWHITE DIAMOND
  29F1 aERROR-BARRED BLACK DIAMONDbWHITE CIRCLEbBLACK CIRCLEaRULE-DELAYEDaREVERSE SOLIDUS OPERATOR
  29F6 aSOLIDUS WITH OVERBARaREVERSE SOLIDUS WITH HORIZONTAL STROKEaBIG SOLIDUSbREVERSE SOLIDUS
  29FA aDOUBLE PLUSaTRIPLE PLUSaLEFT-POINTING CURVED ANGLE BRACKET
  29FD aRIGHT-POINTING CURVED ANGLE BRACKETaTINYaMINYaN-ARY CIRCLED DOT OPERATORcPLUS OPERATOR
  2A02 aN-ARY CIRCLED TIMES OPERATORbUNION OPERATOR WITH DOTePLUSbSQUARE INTERSECTION OPERATOR
  2A06 aN-ARY SQUARE UNION OPERATORaTWO LOGICAL AND OPERATORcOR OPERATORaN-ARY TIMES OPERATOR
  2A0A aMODULO TWO SUMaSUMMATION WITH INTEGRALaQUADRUPLE INTEGRAL OPERATORaFINITE PART INTEGRAL
  2A0E aINTEGRAL WITH DOUBLE STROKEbAVERAGE WITH SLASHaCIRCULATION FUNCTION
  2A11 aANTICLOCKWISE INTEGRATIONaLINE INTEGRATION WITH RECTANGULAR PATH AROUND POLE
  2A13 aLINE INTEGRATION WITH SEMICIRCULAR PATH AROUND POLEcNOT INCLUDING THE POLE
  2A15 aINTEGRAL AROUND A POINT OPERATORaQUATERNION INTEGRAL OPERATOR
  2A17 aINTEGRAL WITH LEFTWARDS ARROW WITH HOOKcTIMES SIGNcINTERSECTIONcUNIONcOVERBARcUNDERBAR
  2A1D aJOINaLARGE LEFT TRIANGLE OPERATORaZ NOTATION SCHEMA COMPOSITIONdPIPINGdPROJECTION
  2A22 aPLUS SIGN WITH SMALL CIRCLE ABOVEdCIRCUMFLEX ACCENT ABOVEdTILDE ABOVEdDOT BELOW
  2A26 aPLUS SIGN WITH TILDE BELOWdSUBSCRIPT TWOdBLACK TRIANGLEaMINUS SIGN WITH COMMA ABOVE
  2A2A aMINUS SIGN WITH DOT BELOWdFALLING DOTSdRISING DOTSaPLUS SIGN IN LEFT HALF CIRCLE
  2A2E aPLUS SIGN IN RIGHT HALF CIRCLEaVECTOR OR CROSS PRODUCTaMULTIPLICATION SIGN WITH DOT ABOVE
  2A31 aMULTIPLICATION SIGN WITH UNDERBARaSEMIDIRECT PRODUCT WITH BOTTOM CLOSEDaSMASH PRODUCT
  2A34 aMULTIPLICATION SIGN IN LEFT HALF CIRCLEdRIGHT HALF CIRCLE
  2A36 aCIRCLED MULTIPLICATION SIGN WITH CIRCUMFLEX ACCENTaMULTIPLICATION SIGN IN DOUBLE CIRCLE
  2A38 aCIRCLED DIVISION SIGNaPLUS SIGN IN TRIANGLEaMINUS SIGN IN TRIANGLE
  2A3B aMULTIPLICATION SIGN IN TRIANGLEaINTERIOR PRODUCTaRIGHTHAND INTERIOR PRODUCT
  2A3E aZ NOTATION RELATIONAL COMPOSITIONaAMALGAMATION OR COPRODUCTaINTERSECTION WITH DOT
  2A41 aUNION WITH MINUS SIGNcOVERBARaINTERSECTION WITH OVERBARcLOGICAL ANDaUNION WITH LOGICAL OR
  2A46 aUNION ABOVE INTERSECTIONaINTERSECTION ABOVE UNIONaUNION ABOVE BAR ABOVE INTERSECTION
  2A49 aINTERSECTION ABOVE BAR ABOVE UNIONaUNION BESIDE AND JOINED WITH UNION
  2A4B aINTERSECTION BESIDE AND JOINED WITH INTERSECTIONaCLOSED UNION WITH SERIFS
  2A4D aCLOSED INTERSECTION WITH SERIFSaDOUBLE SQUARE INTERSECTIONcUNION
  2A50 aCLOSED UNION WITH SERIFS AND SMASH PRODUCTaLOGICAL AND WITH DOT ABOVEbOR WITH DOT ABOVE
  2A53 aDOUBLE LOGICAL ANDcORaTWO INTERSECTING LOGICAL ANDdORaSLOPING LARGE ORcAND
  2A59 aLOGICAL OR OVERLAPPING LOGICAL ANDbAND WITH MIDDLE STEMbOR WITH MIDDLE STEM
  2A5C aLOGICAL AND WITH HORIZONTAL DASHbOR WITH HORIZONTAL DASHbAND WITH DOUBLE OVERBARdUNDERBAR
  2A60 aLOGICAL AND WITH DOUBLE UNDERBARaSMALL VEE WITH UNDERBARaLOGICAL OR WITH DOUBLE OVERBAR
  2A63 aLOGICAL OR WITH DOUBLE UNDERBARaZ NOTATION DOMAIN ANTIRESTRICTIONcRANGE ANTIRESTRICTION
  2A66 aEQUALS SIGN WITH DOT BELOWaIDENTICAL WITH DOT ABOVE
  2A68 aTRIPLE HORIZONTAL BAR WITH DOUBLE VERTICAL STROKEeTRIPLE VERTICAL STROKE
  2A6A aTILDE OPERATOR WITH DOT ABOVEdRISING DOTSaSIMILAR MINUS SIMILARaCONGRUENT WITH DOT ABOVE
  2A6E aEQUALS WITH ASTERISKaALMOST EQUAL TO WITH CIRCUMFLEX ACCENT
  2A70 aAPPROXIMATELY EQUAL OR EQUAL TOaEQUALS SIGN ABOVE PLUS SIGNaPLUS SIGN ABOVE EQUALS SIGN
  2A73 aEQUALS SIGN ABOVE TILDE OPERATORaDOUBLE COLON EQUALaTWO CONSECUTIVE EQUALS SIGNS
  2A76 aTHREE CONSECUTIVE EQUALS SIGNSaEQUALS SIGN WITH TWO DOTS ABOVE AND TWO DOTS BELOW
  2A78 aEQUIVALENT WITH FOUR DOTS ABOVEaLESS-THAN WITH CIRCLE INSIDE
  2A7A aGREATER-THAN WITH CIRCLE INSIDEaLESS-THAN WITH QUESTION MARK ABOVE
  2A7C aGREATER-THAN WITH QUESTION MARK ABOVEaLESS-THAN OR SLANTED EQUAL TO
  2A7E aGREATER-THAN OR SLANTED EQUAL TOaLESS-THAN OR SLANTED EQUAL TO WITH DOT INSIDE
  2A80 aGREATER-THAN OR SLANTED EQUAL TO WITH DOT INSIDE
  2A81 aLESS-THAN OR SLANTED EQUAL TO WITH DOT ABOVE
  2A82 aGREATER-THAN OR SLANTED EQUAL TO WITH DOT ABOVE
  2A83 aLESS-THAN OR SLANTED EQUAL TO WITH DOT ABOVE RIGHT
  2A84 aGREATER-THAN OR SLANTED EQUAL TO WITH DOT ABOVE LEFTaLESS-THAN OR APPROXIMATE
  2A86 aGREATER-THAN OR APPROXIMATEaLESS-THAN AND SINGLE-LINE NOT EQUAL TO
  2A88 aGREATER-THAN AND SINGLE-LINE NOT EQUAL TOaLESS-THAN AND NOT APPROXIMATE
  2A8A aGREATER-THAN AND NOT APPROXIMATEaLESS-THAN ABOVE DOUBLE-LINE EQUAL ABOVE GREATER-THAN
  2A8C aGREATER-THAN ABOVE DOUBLE-LINE EQUAL ABOVE LESS-THANaLESS-THAN ABOVE SIMILAR OR EQUAL
  2A8E aGREATER-THAN ABOVE SIMILAR OR EQUALaLESS-THAN ABOVE SIMILAR ABOVE GREATER-THAN
  2A90 aGREATER-THAN ABOVE SIMILAR ABOVE LESS-THAN
  2A91 aLESS-THAN ABOVE GREATER-THAN ABOVE DOUBLE-LINE EQUAL
  2A92 aGREATER-THAN ABOVE LESS-THAN ABOVE DOUBLE-LINE EQUAL
  2A93 aLESS-THAN ABOVE SLANTED EQUAL ABOVE GREATER-THAN ABOVE SLANTED EQUAL
  2A94 aGREATER-THAN ABOVE SLANTED EQUAL ABOVE LESS-THAN ABOVE SLANTED EQUAL
  2A95 aSLANTED EQUAL TO OR LESS-THANeGREATER-THANeLESS-THAN WITH DOT INSIDE
  2A98 aSLANTED EQUAL TO OR GREATER-THAN WITH DOT INSIDEaDOUBLE-LINE EQUAL TO OR LESS-THAN
  2A9A aDOUBLE-LINE EQUAL TO OR GREATER-THANbSLANTED EQUAL TO OR LESS-THANfGREATER-THAN
  2A9D aSIMILAR OR LESS-THANcGREATER-THANbABOVE LESS-THAN ABOVE EQUALS SIGN
  2AA0 aSIMILAR ABOVE GREATER-THAN ABOVE EQUALS SIGNaDOUBLE NESTED LESS-THANcGREATER-THAN
  2AA3 aDOUBLE NESTED LESS-THAN WITH UNDERBARaGREATER-THAN OVERLAPPING LESS-THANbBESIDE LESS-THAN
  2AA6 aLESS-THAN CLOSED BY CURVEaGREATER-THAN CLOSED BY CURVE
  2AA8 aLESS-THAN CLOSED BY CURVE ABOVE SLANTED EQUAL
  2AA9 aGREATER-THAN CLOSED BY CURVE ABOVE SLANTED EQUALaSMALLER THANaLARGER THAN
  2AAC aSMALLER THAN OR EQUAL TOaLARGER THAN OR EQUAL TOaEQUALS SIGN WITH BUMPY ABOVE
  2AAF aPRECEDES ABOVE SINGLE-LINE EQUALS SIGNaSUCCEEDS ABOVE SINGLE-LINE EQUALS SIGN
  2AB1 aPRECEDES ABOVE SINGLE-LINE NOT EQUAL TOaSUCCEEDS ABOVE SINGLE-LINE NOT EQUAL TO
  2AB3 aPRECEDES ABOVE EQUALS SIGNaSUCCEEDS ABOVE EQUALS SIGNaPRECEDES ABOVE NOT EQUAL TO
  2AB6 aSUCCEEDS ABOVE NOT EQUAL TOaPRECEDES ABOVE ALMOST EQUAL TOaSUCCEEDS ABOVE ALMOST EQUAL TO
  2AB9 aPRECEDES ABOVE NOT ALMOST EQUAL TOaSUCCEEDS ABOVE NOT ALMOST EQUAL TOaDOUBLE PRECEDES
  2ABC aDOUBLE SUCCEEDSaSUBSET WITH DOTaSUPERSET WITH DOTaSUBSET WITH PLUS SIGN BELOW
  2AC0 aSUPERSET WITH PLUS SIGN BELOWaSUBSET WITH MULTIPLICATION SIGN BELOW
  2AC2 aSUPERSET WITH MULTIPLICATION SIGN BELOWaSUBSET OF OR EQUAL TO WITH DOT ABOVE
  2AC4 aSUPERSET OF OR EQUAL TO WITH DOT ABOVEaSUBSET OF ABOVE EQUALS SIGN
  2AC6 aSUPERSET OF ABOVE EQUALS SIGNaSUBSET OF ABOVE TILDE OPERATOR
  2AC8 aSUPERSET OF ABOVE TILDE OPERATORaSUBSET OF ABOVE ALMOST EQUAL TO
  2ACA aSUPERSET OF ABOVE ALMOST EQUAL TOaSUBSET OF ABOVE NOT EQUAL TO
  2ACC aSUPERSET OF ABOVE NOT EQUAL TOaSQUARE LEFT OPEN BOX OPERATORbRIGHT OPEN BOX OPERATOR
  2ACF aCLOSED SUBSETbSUPERSETbSUBSET OR EQUAL TObSUPERSET OR EQUAL TOaSUBSET ABOVE SUPERSET
  2AD4 aSUPERSET ABOVE SUBSETaSUBSET ABOVE SUBSETaSUPERSET ABOVE SUPERSETbBESIDE SUBSET
  2AD8 aSUPERSET BESIDE AND JOINED BY DASH WITH SUBSETaELEMENT OF OPENING DOWNWARDS
  2ADA aPITCHFORK WITH TEE TOPaTRANSVERSAL INTERSECTIONaFORKINGaNONFORKINGaSHORT LEFT TACK
  2ADF aSHORT DOWN TACKbUP TACKaPERPENDICULAR WITH SaVERTICAL BAR TRIPLE RIGHT TURNSTILE
  2AE3 aDOUBLE VERTICAL BAR LEFT TURNSTILEaVERTICAL BAR DOUBLE LEFT TURNSTILE
  2AE5 aDOUBLE VERTICAL BAR DOUBLE LEFT TURNSTILEaLONG DASH FROM LEFT MEMBER OF DOUBLE VERTICAL
  2AE7 aSHORT DOWN TACK WITH OVERBARbUP TACK WITH UNDERBARdABOVE SHORT DOWN TACKaDOUBLE DOWN TACK
  2AEB aDOUBLE UP TACKbSTROKE NOT SIGNaREVERSED DOUBLE STROKE NOT SIGN
  2AEE aDOES NOT DIVIDE WITH REVERSED NEGATION SLASHaVERTICAL LINE WITH CIRCLE ABOVEeBELOW
  2AF1 aDOWN TACK WITH CIRCLE BELOWaPARALLEL WITH HORIZONTAL STROKEcTILDE OPERATOR
  2AF4 aTRIPLE VERTICAL BAR BINARY RELATIONdWITH HORIZONTAL STROKEbCOLON OPERATORbNESTED LESS-THAN
  2AF8 aTRIPLE NESTED GREATER-THANaDOUBLE-LINE SLANTED LESS-THAN OR EQUAL TO
  2AFA aDOUBLE-LINE SLANTED GREATER-THAN OR EQUAL TOaTRIPLE SOLIDUS BINARY RELATION
  2AFC aLARGE TRIPLE VERTICAL BAR OPERATORaDOUBLE SOLIDUS OPERATORaWHITE VERTICAL BAR
  2AFF aN-ARY WHITE VERTICAL BARaNORTH EAST WHITE ARROWbWEST WHITE ARROWaSOUTH EAST WHITE ARROW
  2B03 aSOUTH WEST WHITE ARROWaLEFT RIGHT WHITE ARROWaLEFTWARDS BLACK ARROWaUPWARDS BLACK ARROW
  2B07 aDOWNWARDS BLACK ARROWaNORTH EAST BLACK ARROWbWEST BLACK ARROWaSOUTH EAST BLACK ARROW
  2B0B aSOUTH WEST BLACK ARROWaLEFT RIGHT BLACK ARROWaUP DOWN BLACK ARROW
  2B0E aRIGHTWARDS ARROW WITH TIP DOWNWARDSeUPWARDSaLEFTWARDS ARROW WITH TIP DOWNWARDSeUPWARDS
  2B12 aSQUARE WITH TOP HALF BLACKcBOTTOM HALF BLACKcUPPER RIGHT DIAGONAL HALF BLACK
  2B15 aSQUARE WITH LOWER LEFT DIAGONAL HALF BLACKaDIAMOND WITH LEFT HALF BLACKcRIGHT HALF BLACK
  2B18 aDIAMOND WITH TOP HALF BLACKcBOTTOM HALF BLACKaDOTTED SQUAREaBLACK LARGE SQUARE
  2B1C aWHITE LARGE SQUAREaBLACK VERY SMALL SQUAREaWHITE VERY SMALL SQUAREaBLACK PENTAGON
  2B20 aWHITE PENTAGONbHEXAGONaBLACK HEXAGONaHORIZONTAL BLACK HEXAGONaBLACK LARGE CIRCLE
  2B25 aBLACK MEDIUM DIAMONDaWHITE MEDIUM DIAMONDaBLACK MEDIUM LOZENGEaWHITE MEDIUM LOZENGE
  2B29 aBLACK SMALL DIAMONDcLOZENGEaWHITE SMALL LOZENGEaBLACK HORIZONTAL ELLIPSE
  2B2D aWHITE HORIZONTAL ELLIPSEaBLACK VERTICAL ELLIPSEaWHITE VERTICAL ELLIPSE
  2B30 aLEFT ARROW WITH SMALL CIRCLEaTHREE LEFTWARDS ARROWSaLEFT ARROW WITH CIRCLED PLUS
  2B33 aLONG LEFTWARDS SQUIGGLE ARROWaLEFTWARDS TWO-HEADED ARROW WITH VERTICAL STROKE
  2B35 aLEFTWARDS TWO-HEADED ARROW WITH DOUBLE VERTICAL STROKEdFROM BARcTRIPLE DASH ARROW
  2B38 aLEFTWARDS ARROW WITH DOTTED STEMdTAIL WITH VERTICAL STROKEfDOUBLE VERTICAL STROKE
  2B3B aLEFTWARDS TWO-HEADED ARROW WITH TAILfWITH VERTICAL STROKEgDOUBLE VERTICAL STROKE
  2B3E aLEFTWARDS ARROW THROUGH XaWAVE ARROW POINTING DIRECTLY LEFT
  2B40 aEQUALS SIGN ABOVE LEFTWARDS ARROWaREVERSE TILDE OPERATOR ABOVE LEFTWARDS ARROW
  2B42 aLEFTWARDS ARROW ABOVE REVERSE ALMOST EQUAL TOaRIGHTWARDS ARROW THROUGH GREATER-THAN
  2B44 aRIGHTWARDS ARROW THROUGH SUPERSETaLEFTWARDS QUADRUPLE ARROWaRIGHTWARDS QUADRUPLE ARROW
  2B47 aREVERSE TILDE OPERATOR ABOVE RIGHTWARDS ARROW
  2B48 aRIGHTWARDS ARROW ABOVE REVERSE ALMOST EQUAL TOaTILDE OPERATOR ABOVE LEFTWARDS ARROW
  2B4A aLEFTWARDS ARROW ABOVE ALMOST EQUAL TOdREVERSE TILDE OPERATOR
  2B4C aRIGHTWARDS ARROW ABOVE REVERSE TILDE OPERATORaDOWNWARDS TRIANGLE-HEADED ZIGZAG ARROW
  2B4E aSHORT SLANTED NORTH ARROWbBACKSLANTED SOUTH ARROWaWHITE MEDIUM STARaBLACK SMALL STAR
  2B52 aWHITE SMALL STARaBLACK RIGHT-POINTING PENTAGONaWHITE RIGHT-POINTING PENTAGON
  2B55 aHEAVY LARGE CIRCLEbOVAL WITH OVAL INSIDEbCIRCLE WITH CIRCLE INSIDEbCIRCLEbCIRCLED SALTIRE
  2B5A aSLANTED NORTH ARROW WITH HOOKED HEADaBACKSLANTED SOUTH ARROW WITH HOOKED TAIL
  2B5C aSLANTED NORTH ARROW WITH HORIZONTAL TAILaBACKSLANTED SOUTH ARROW WITH HORIZONTAL TAIL
  2B5E aBENT ARROW POINTING DOWNWARDS THEN NORTH EAST
  2B5F aSHORT BENT ARROW POINTING DOWNWARDS THEN NORTH EASTaLEFTWARDS TRIANGLE-HEADED ARROW
  2B61 aUPWARDS TRIANGLE-HEADED ARROWaRIGHTWARDS TRIANGLE-HEADED ARROW
  2B63 aDOWNWARDS TRIANGLE-HEADED ARROWaLEFT RIGHT TRIANGLE-HEADED ARROW
  2B65 aUP DOWN TRIANGLE-HEADED ARROWaNORTH WEST TRIANGLE-HEADED ARROWbEAST TRIANGLE-HEADED ARROW
  2B68 aSOUTH EAST TRIANGLE-HEADED ARROWbWEST TRIANGLE-HEADED ARROW
  2B6A aLEFTWARDS TRIANGLE-HEADED DASHED ARROWaUPWARDS TRIANGLE-HEADED DASHED ARROW
  2B6C aRIGHTWARDS TRIANGLE-HEADED DASHED ARROWaDOWNWARDS TRIANGLE-HEADED DASHED ARROW
  2B6E aCLOCKWISE TRIANGLE-HEADED OPEN CIRCLE ARROW
  2B6F aANTICLOCKWISE TRIANGLE-HEADED OPEN CIRCLE ARROWaLEFTWARDS TRIANGLE-HEADED ARROW TO BAR
  2B71 aUPWARDS TRIANGLE-HEADED ARROW TO BARaRIGHTWARDS TRIANGLE-HEADED ARROW TO BAR
  2B73 aDOWNWARDS TRIANGLE-HEADED ARROW TO BAR
  2B76 aNORTH WEST TRIANGLE-HEADED ARROW TO BARbEAST TRIANGLE-HEADED ARROW TO BAR
  2B78 aSOUTH EAST TRIANGLE-HEADED ARROW TO BARbWEST TRIANGLE-HEADED ARROW TO BAR
  2B7A aLEFTWARDS TRIANGLE-HEADED ARROW WITH DOUBLE HORIZONTAL STROKE
  2B7B aUPWARDS TRIANGLE-HEADED ARROW WITH DOUBLE HORIZONTAL STROKE
  2B7C aRIGHTWARDS TRIANGLE-HEADED ARROW WITH DOUBLE HORIZONTAL STROKE
  2B7D aDOWNWARDS TRIANGLE-HEADED ARROW WITH DOUBLE HORIZONTAL STROKEaHORIZONTAL TAB KEY
  2B7F aVERTICAL TAB KEYaLEFTWARDS TRIANGLE-HEADED ARROW OVER RIGHTWARDS TRIANGLE-HEADED ARROW
  2B81 aUPWARDS TRIANGLE-HEADED ARROW LEFTWARDS OF DOWNWARDS TRIANGLE-HEADED ARROW
  2B82 aRIGHTWARDS TRIANGLE-HEADED ARROW OVER LEFTWARDS TRIANGLE-HEADED ARROW
  2B83 aDOWNWARDS TRIANGLE-HEADED ARROW LEFTWARDS OF UPWARDS TRIANGLE-HEADED ARROW
  2B84 aLEFTWARDS TRIANGLE-HEADED PAIRED ARROWSaUPWARDS TRIANGLE-HEADED PAIRED ARROWS
  2B86 aRIGHTWARDS TRIANGLE-HEADED PAIRED ARROWSaDOWNWARDS TRIANGLE-HEADED PAIRED ARROWS
  2B88 aLEFTWARDS BLACK CIRCLED WHITE ARROWaUPWARDS BLACK CIRCLED WHITE ARROW
  2B8A aRIGHTWARDS BLACK CIRCLED WHITE ARROWaDOWNWARDS BLACK CIRCLED WHITE ARROW
  2B8C aANTICLOCKWISE TRIANGLE-HEADED RIGHT U-SHAPED ARROWcBOTTOM U-SHAPED ARROW
  2B8E aANTICLOCKWISE TRIANGLE-HEADED LEFT U-SHAPED ARROWcTOP U-SHAPED ARROWaRETURN LEFTbRIGHT
  2B92 aNEWLINE LEFTbRIGHTaFOUR CORNER ARROWS CIRCLING ANTICLOCKWISEaRIGHTWARDS BLACK ARROW
  2B97 aSYMBOL FOR TYPE A ELECTRONICSaTHREE-D TOP-LIGHTED LEFTWARDS EQUILATERAL ARROWHEAD
  2B99 aTHREE-D RIGHT-LIGHTED UPWARDS EQUILATERAL ARROWHEAD
  2B9A aTHREE-D TOP-LIGHTED RIGHTWARDS EQUILATERAL ARROWHEAD
  2B9B aTHREE-D LEFT-LIGHTED DOWNWARDS EQUILATERAL ARROWHEADaBLACK LEFTWARDS EQUILATERAL ARROWHEAD
  2B9D aBLACK UPWARDS EQUILATERAL ARROWHEADbRIGHTWARDS EQUILATERAL ARROWHEAD
  2B9F aBLACK DOWNWARDS EQUILATERAL ARROWHEAD
  2BA0 aDOWNWARDS TRIANGLE-HEADED ARROW WITH LONG TIP LEFTWARDSgRIGHTWARDS
  2BA2 aUPWARDS TRIANGLE-HEADED ARROW WITH LONG TIP LEFTWARDSgRIGHTWARDS
  2BA4 aLEFTWARDS TRIANGLE-HEADED ARROW WITH LONG TIP UPWARDS
  2BA5 aRIGHTWARDS TRIANGLE-HEADED ARROW WITH LONG TIP UPWARDS
  2BA6 aLEFTWARDS TRIANGLE-HEADED ARROW WITH LONG TIP DOWNWARDS
  2BA7 aRIGHTWARDS TRIANGLE-HEADED ARROW WITH LONG TIP DOWNWARDS
  2BA8 aBLACK CURVED DOWNWARDS AND LEFTWARDS ARROWeRIGHTWARDS ARROWcUPWARDS AND LEFTWARDS ARROW
  2BAB aBLACK CURVED UPWARDS AND RIGHTWARDS ARROWcLEFTWARDS AND UPWARDS ARROW
  2BAD aBLACK CURVED RIGHTWARDS AND UPWARDS ARROWcLEFTWARDS AND DOWNWARDS ARROW
  2BAF aBLACK CURVED RIGHTWARDS AND DOWNWARDS ARROWaRIBBON ARROW DOWN LEFTdRIGHTcUP LEFTdRIGHT
  2BB4 aRIBBON ARROW LEFT UPcRIGHT UPcLEFT DOWNcRIGHT DOWN
  2BB8 aUPWARDS WHITE ARROW FROM BAR WITH HORIZONTAL BARaUP ARROWHEAD IN A RECTANGLE BOX
  2BBA aOVERLAPPING WHITE SQUAREScAND BLACK SQUARESbBLACK SQUARESaBALLOT BOX WITH LIGHT X
  2BBE aCIRCLED XbBOLD XaBLACK SQUARE CENTREDbDIAMOND CENTREDaTURNED BLACK PENTAGON
  2BC3 aHORIZONTAL BLACK OCTAGONaBLACK OCTAGONbMEDIUM UP-POINTING TRIANGLE CENTRED
  2BC6 aBLACK MEDIUM DOWN-POINTING TRIANGLE CENTREDcLEFT-POINTING TRIANGLE CENTRED
  2BC8 aBLACK MEDIUM RIGHT-POINTING TRIANGLE CENTREDaNEPTUNE FORM TWOaTOP HALF BLACK CIRCLE
  2BCB aBOTTOM HALF BLACK CIRCLEaLIGHT FOUR POINTED BLACK CUSP
  2BCD aROTATED LIGHT FOUR POINTED BLACK CUSPaWHITE FOUR POINTED CUSP
  2BCF aROTATED WHITE FOUR POINTED CUSPaSQUARE POSITION INDICATORaUNCERTAINTY SIGNaGROUP MARK
  2BD3 aPLUTO FORM TWOcTHREEcFOURcFIVEaTRANSPLUTOaPROSERPINAaASTRAEAaHYGIEAaPHOLUSaNESSUS
  2BDD aWHITE MOON SELENAaBLACK DIAMOND ON CROSSaTRUE LIGHT MOON ARTAaCUPIDOaHADESaZEUSaKRONOS
  2BE4 aAPOLLONaADMETOSaVULCANUSaPOSEIDONaLEFT HALF BLACK STARaRIGHT HALF BLACK STAR
  2BEA aSTAR WITH LEFT HALF BLACKcRIGHT HALF BLACK
  2BEC aLEFTWARDS TWO-HEADED ARROW WITH TRIANGLE ARROWHEADS
  2BED aUPWARDS TWO-HEADED ARROW WITH TRIANGLE ARROWHEADS
  2BEE aRIGHTWARDS TWO-HEADED ARROW WITH TRIANGLE ARROWHEADS
  2BEF aDOWNWARDS TWO-HEADED ARROW WITH TRIANGLE ARROWHEADSaERIS FORM ONEcTWOaSEDNA
  2BF3 aRUSSIAN ASTROLOGICAL SYMBOL VIGINTILEdNOVILEdQUINTILEdBINOVILEdSENTAGONdTREDECILE
  2BF9 aEQUALS SIGN WITH INFINITY BELOWaUNITED SYMBOLaSEPARATED SYMBOLaDOUBLED SYMBOL
  2BFD aPASSED SYMBOLaREVERSED RIGHT ANGLEaHELLSCHREIBER PAUSE SYMBOL
  2C00 aGLAGOLITIC CAPITAL LETTER AZUdBUKYdVEDEdGLAGOLIdDOBROdYESTUdZHIVETEdDZELOdZEMLJAdIZHE
  2C0A aGLAGOLITIC CAPITAL LETTER INITIAL IZHEdIdDJERVIdKAKOdLJUDIJEdMYSLITEdNASHIdONUdPOKOJI
  2C13 aGLAGOLITIC CAPITAL LETTER RITSIdSLOVOdTVRIDOdUKUdFRITUdHERUdOTUdPEdSHTAdTSIdCHRIVIdSHA
  2C1F aGLAGOLITIC CAPITAL LETTER YERUdYERIdYATIdSPIDERY HAdYUdSMALL YUSfWITH TAILdYO
  2C27 aGLAGOLITIC CAPITAL LETTER IOTATED SMALL YUSdBIG YUSdIOTATED BIG YUSdFITAdIZHITSAdSHTAPIC
  2C2D aGLAGOLITIC CAPITAL LETTER TROKUTASTI AdLATINATE MYSLITEdCAUDATE CHRIVIbSMALL LETTER AZU
  2C31 aGLAGOLITIC SMALL LETTER BUKYdVEDEdGLAGOLIdDOBROdYESTUdZHIVETEdDZELOdZEMLJAdIZHE
  2C3A aGLAGOLITIC SMALL LETTER INITIAL IZHEdIdDJERVIdKAKOdLJUDIJEdMYSLITEdNASHIdONUdPOKOJIdRITSI
  2C44 aGLAGOLITIC SMALL LETTER SLOVOdTVRIDOdUKUdFRITUdHERUdOTUdPEdSHTAdTSIdCHRIVIdSHAdYERUdYERI
  2C51 aGLAGOLITIC SMALL LETTER YATIdSPIDERY HAdYUdSMALL YUSfWITH TAILdYOdIOTATED SMALL YUS
  2C58 aGLAGOLITIC SMALL LETTER BIG YUSdIOTATED BIG YUSdFITAdIZHITSAdSHTAPICdTROKUTASTI A
  2C5E aGLAGOLITIC SMALL LETTER LATINATE MYSLITEdCAUDATE CHRIVI
  2C60 aLATIN CAPITAL LETTER L WITH DOUBLE BARbSMALL LETTER L WITH DOUBLE BAR
  2C62 aLATIN CAPITAL LETTER L WITH MIDDLE TILDEdP WITH STROKEdR WITH TAIL
  2C65 aLATIN SMALL LETTER A WITH STROKEdT WITH DIAGONAL STROKEbCAPITAL LETTER H WITH DESCENDER
  2C68 aLATIN SMALL LETTER H WITH DESCENDERbCAPITAL LETTER K WITH DESCENDER
  2C6A aLATIN SMALL LETTER K WITH DESCENDERbCAPITAL LETTER Z WITH DESCENDER
  2C6C aLATIN SMALL LETTER Z WITH DESCENDERbCAPITAL LETTER ALPHAdM WITH HOOKdTURNED AeALPHA
  2C71 aLATIN SMALL LETTER V WITH RIGHT HOOKbCAPITAL LETTER W WITH HOOKbSMALL LETTER W WITH HOOK
  2C74 aLATIN SMALL LETTER V WITH CURLbCAPITAL LETTER HALF HbSMALL LETTER HALF HdTAILLESS PHI
  2C78 aLATIN SMALL LETTER E WITH NOTCHdTURNED R WITH TAILdO WITH LOW RING INSIDE
  2C7B aLATIN LETTER SMALL CAPITAL TURNED EbSUBSCRIPT SMALL LETTER JaMODIFIER LETTER CAPITAL V
  2C7E aLATIN CAPITAL LETTER S WITH SWASH TAILdZ WITH SWASH TAILaCOPTIC CAPITAL LETTER ALFA
  2C81 aCOPTIC SMALL LETTER ALFAbCAPITAL LETTER VIDAbSMALL LETTER VIDAbCAPITAL LETTER GAMMA
  2C85 aCOPTIC SMALL LETTER GAMMAbCAPITAL LETTER DALDAbSMALL LETTER DALDAbCAPITAL LETTER EIE
  2C89 aCOPTIC SMALL LETTER EIEbCAPITAL LETTER SOUbSMALL LETTER SOUbCAPITAL LETTER ZATA
  2C8D aCOPTIC SMALL LETTER ZATAbCAPITAL LETTER HATEbSMALL LETTER HATEbCAPITAL LETTER THETHE
  2C91 aCOPTIC SMALL LETTER THETHEbCAPITAL LETTER IAUDAbSMALL LETTER IAUDAbCAPITAL LETTER KAPA
  2C95 aCOPTIC SMALL LETTER KAPAbCAPITAL LETTER LAULAbSMALL LETTER LAULAbCAPITAL LETTER MI
  2C99 aCOPTIC SMALL LETTER MIbCAPITAL LETTER NIbSMALL LETTER NIbCAPITAL LETTER KSI
  2C9D aCOPTIC SMALL LETTER KSIbCAPITAL LETTER ObSMALL LETTER ObCAPITAL LETTER PIbSMALL LETTER PI
  2CA2 aCOPTIC CAPITAL LETTER RObSMALL LETTER RObCAPITAL LETTER SIMAbSMALL LETTER SIMA
  2CA6 aCOPTIC CAPITAL LETTER TAUbSMALL LETTER TAUbCAPITAL LETTER UAbSMALL LETTER UA
  2CAA aCOPTIC CAPITAL LETTER FIbSMALL LETTER FIbCAPITAL LETTER KHIbSMALL LETTER KHI
  2CAE aCOPTIC CAPITAL LETTER PSIbSMALL LETTER PSIbCAPITAL LETTER OOUbSMALL LETTER OOU
  2CB2 aCOPTIC CAPITAL LETTER DIALECT-P ALEFbSMALL LETTER DIALECT-P ALEF
  2CB4 aCOPTIC CAPITAL LETTER OLD COPTIC AINbSMALL LETTER OLD COPTIC AIN
  2CB6 aCOPTIC CAPITAL LETTER CRYPTOGRAMMIC EIEbSMALL LETTER CRYPTOGRAMMIC EIE
  2CB8 aCOPTIC CAPITAL LETTER DIALECT-P KAPAbSMALL LETTER DIALECT-P KAPA
  2CBA aCOPTIC CAPITAL LETTER DIALECT-P NIbSMALL LETTER DIALECT-P NI
  2CBC aCOPTIC CAPITAL LETTER CRYPTOGRAMMIC NIbSMALL LETTER CRYPTOGRAMMIC NI
  2CBE aCOPTIC CAPITAL LETTER OLD COPTIC OOUbSMALL LETTER OLD COPTIC OOUbCAPITAL LETTER SAMPI
  2CC1 aCOPTIC SMALL LETTER SAMPIbCAPITAL LETTER CROSSED SHEIbSMALL LETTER CROSSED SHEI
  2CC4 aCOPTIC CAPITAL LETTER OLD COPTIC SHEIbSMALL LETTER OLD COPTIC SHEI
  2CC6 aCOPTIC CAPITAL LETTER OLD COPTIC ESHbSMALL LETTER OLD COPTIC ESH
  2CC8 aCOPTIC CAPITAL LETTER AKHMIMIC KHEIbSMALL LETTER AKHMIMIC KHEI
  2CCA aCOPTIC CAPITAL LETTER DIALECT-P HORIbSMALL LETTER DIALECT-P HORI
  2CCC aCOPTIC CAPITAL LETTER OLD COPTIC HORIbSMALL LETTER OLD COPTIC HORI
  2CCE aCOPTIC CAPITAL LETTER OLD COPTIC HAbSMALL LETTER OLD COPTIC HAbCAPITAL LETTER L-SHAPED HA
  2CD1 aCOPTIC SMALL LETTER L-SHAPED HAbCAPITAL LETTER OLD COPTIC HEIbSMALL LETTER OLD COPTIC HEI
  2CD4 aCOPTIC CAPITAL LETTER OLD COPTIC HATbSMALL LETTER OLD COPTIC HAT
  2CD6 aCOPTIC CAPITAL LETTER OLD COPTIC GANGIAbSMALL LETTER OLD COPTIC GANGIA
  2CD8 aCOPTIC CAPITAL LETTER OLD COPTIC DJAbSMALL LETTER OLD COPTIC DJA
  2CDA aCOPTIC CAPITAL LETTER OLD COPTIC SHIMAbSMALL LETTER OLD COPTIC SHIMA
  2CDC aCOPTIC CAPITAL LETTER OLD NUBIAN SHIMAbSMALL LETTER OLD NUBIAN SHIMA
  2CDE aCOPTIC CAPITAL LETTER OLD NUBIAN NGIbSMALL LETTER OLD NUBIAN NGI
  2CE0 aCOPTIC CAPITAL LETTER OLD NUBIAN NYIbSMALL LETTER OLD NUBIAN NYI
  2CE2 aCOPTIC CAPITAL LETTER OLD NUBIAN WAUbSMALL LETTER OLD NUBIAN WAUbSYMBOL KAIcMI ROcPI RO
  2CE7 aCOPTIC SYMBOL STAUROScTAU ROcKHI ROcSHIMA SIMAbCAPITAL LETTER CRYPTOGRAMMIC SHEI
  2CEC aCOPTIC SMALL LETTER CRYPTOGRAMMIC SHEIbCAPITAL LETTER CRYPTOGRAMMIC GANGIA
  2CEE aCOPTIC SMALL LETTER CRYPTOGRAMMIC GANGIAbCOMBINING NI ABOVEcSPIRITUS ASPERdLENIS
  2CF2 aCOPTIC CAPITAL LETTER BOHAIRIC KHEIbSMALL LETTER BOHAIRIC KHEI
  2CF9 aCOPTIC OLD NUBIAN FULL STOPdDIRECT QUESTION MARKdINDIRECT QUESTION MARKdVERSE DIVIDER
  2CFD aCOPTIC FRACTION ONE HALFbFULL STOPbMORPHOLOGICAL DIVIDERaGEORGIAN SMALL LETTER ANdBANdGAN
  2D03 aGEORGIAN SMALL LETTER DONdENdVINdZENdTANdINdKANdLASdMANdNARdONdPARdZHARdRAEdSANdTARdUN
  2D14 aGEORGIAN SMALL LETTER PHARdKHARdGHANdQARdSHINdCHINdCANdJILdCILdCHARdXANdJHANdHAEdHEdHIEdWE
  2D24 aGEORGIAN SMALL LETTER HARdHOE
  2D27 aGEORGIAN SMALL LETTER YN
  2D2D aGEORGIAN SMALL LETTER AEN
  2D30 aTIFINAGH LETTER YAcYABcYABHcYAGcYAGHHcBERBER ACADEMY YAJcYAJcYADcYADHcYADDcYADDHcYEYcYAF
  2D3D aTIFINAGH LETTER YAKcTUAREG YAKcYAKHHcYAHcBERBER ACADEMY YAHcTUAREG YAHcYAHHcYAAcYAKH
  2D46 aTIFINAGH LETTER TUAREG YAKHcYAQcTUAREG YAQcYIcYAZHcAHAGGAR YAZHcTUAREG YAZHcYALcYAMcYAN
  2D50 aTIFINAGH LETTER TUAREG YAGNdYANGcYAPcYUcYARcYARRcYAGHcTUAREG YAGHcAYER YAGHcYAScYASScYASH
  2D5C aTIFINAGH LETTER YATcYATHcYACHcYATTcYAVcYAWcYAYcYAZcTAWELLEMET YAZcYAZZcYEcYO
  2D6F aTIFINAGH MODIFIER LETTER LABIALIZATION MARKbSEPARATOR MARK
  2D7F aTIFINAGH CONSONANT JOINERaETHIOPIC SYLLABLE LOAcMOAcROAcSOAcSHOAcBOAcTOAcCOAcNOAcNYOA
  2D8A aETHIOPIC SYLLABLE GLOTTAL OAcZOAcDOAcDDOAcJOAcTHOAcCHOAcPHOAcPOAcGGWAcGGWIcGGWEEcGGWE
  2DA0 aETHIOPIC SYLLABLE SSAcSSUcSSIcSSAAcSSEEcSSEcSSO
  2DA8 aETHIOPIC SYLLABLE CCAcCCUcCCIcCCAAcCCEEcCCEcCCO
  2DB0 aETHIOPIC SYLLABLE ZZAcZZUcZZIcZZAAcZZEEcZZEcZZO
  2DB8 aETHIOPIC SYLLABLE CCHAcCCHUcCCHIcCCHAAcCCHEEcCCHEcCCHO
  2DC0 aETHIOPIC SYLLABLE QYAcQYUcQYIcQYAAcQYEEcQYEcQYO
  2DC8 aETHIOPIC SYLLABLE KYAcKYUcKYIcKYAAcKYEEcKYEcKYO
  2DD0 aETHIOPIC SYLLABLE XYAcXYUcXYIcXYAAcXYEEcXYEcXYO
  2DD8 aETHIOPIC SYLLABLE GYAcGYUcGYIcGYAAcGYEEcGYEcGYO
  2DE0 aCOMBINING CYRILLIC LETTER BEdVEdGHEdDEdZHEdZEdKAdELdEMdENdOdPEdERdESdTEdHAdTSEdCHEdSHA
  2DF3 aCOMBINING CYRILLIC LETTER SHCHAdFITAdES-TEdAdIEdDJERVdMONOGRAPH UKdYATdYUdIOTIFIED A
  2DFD aCOMBINING CYRILLIC LETTER LITTLE YUSdBIG YUSdIOTIFIED BIG YUS
  2E00 aRIGHT ANGLE SUBSTITUTION MARKERcDOTTED SUBSTITUTION MARKERaLEFT SUBSTITUTION BRACKET
  2E03 aRIGHT SUBSTITUTION BRACKETaLEFT DOTTED SUBSTITUTION BRACKET
  2E05 aRIGHT DOTTED SUBSTITUTION BRACKETaRAISED INTERPOLATION MARKERbDOTTED INTERPOLATION MARKER
  2E08 aDOTTED TRANSPOSITION MARKERaLEFT TRANSPOSITION BRACKETaRIGHT TRANSPOSITION BRACKET
  2E0B aRAISED SQUAREaLEFT RAISED OMISSION BRACKETaRIGHT RAISED OMISSION BRACKETaEDITORIAL CORONIS
  2E0F aPARAGRAPHOSaFORKED PARAGRAPHOSaREVERSED FORKED PARAGRAPHOSaHYPODIASTOLEaDOTTED OBELOS
  2E14 aDOWNWARDS ANCORAaUPWARDS ANCORAaDOTTED RIGHT-POINTING ANGLEaDOUBLE OBLIQUE HYPHEN
  2E18 aINVERTED INTERROBANGaPALM BRANCHaHYPHEN WITH DIAERESISaTILDE WITH RING ABOVE
  2E1C aLEFT LOW PARAPHRASE BRACKETaRIGHT LOW PARAPHRASE BRACKETaTILDE WITH DOT ABOVEdBELOW
  2E20 aLEFT VERTICAL BAR WITH QUILLaRIGHT VERTICAL BAR WITH QUILLaTOP LEFT HALF BRACKET
  2E23 aTOP RIGHT HALF BRACKETaBOTTOM LEFT HALF BRACKETbRIGHT HALF BRACKETaLEFT SIDEWAYS U BRACKET
  2E27 aRIGHT SIDEWAYS U BRACKETaLEFT DOUBLE PARENTHESISaRIGHT DOUBLE PARENTHESIS
  2E2A aTWO DOTS OVER ONE DOT PUNCTUATIONaONE DOT OVER TWO DOTS PUNCTUATION
  2E2C aSQUARED FOUR DOT PUNCTUATIONaFIVE DOT MARKaREVERSED QUESTION MARKaVERTICAL TILDE
  2E30 aRING POINTaWORD SEPARATOR MIDDLE DOTaTURNED COMMAaRAISED DOTbCOMMAaTURNED SEMICOLON
  2E36 aDAGGER WITH LEFT GUARDcRIGHT GUARDaTURNED DAGGERaTOP HALF SECTION SIGNaTWO-EM DASH
  2E3B aTHREE-EM DASHaSTENOGRAPHIC FULL STOPaVERTICAL SIX DOTSaWIGGLY VERTICAL LINEaCAPITULUM
  2E40 aDOUBLE HYPHENaREVERSED COMMAaDOUBLE LOW-REVERSED-9 QUOTATION MARKaDASH WITH LEFT UPTURN
  2E44 aDOUBLE SUSPENSION MARKaINVERTED LOW KAVYKAdWITH KAVYKA ABOVEaLOW KAVYKAcWITH DOT
  2E49 aDOUBLE STACKED COMMAaDOTTED SOLIDUSaTRIPLE DAGGERaMEDIEVAL COMMAaPARAGRAPHUS MARK
  2E4E aPUNCTUS ELEVATUS MARKaCORNISH VERSE DIVIDERaCROSS PATTY WITH RIGHT CROSSBARdLEFT CROSSBAR
  2E52 aTIRONIAN SIGN CAPITAL ETaMEDIEVAL EXCLAMATION MARKbQUESTION MARK
  2E55 aLEFT SQUARE BRACKET WITH STROKEaRIGHT SQUARE BRACKET WITH STROKE
  2E57 aLEFT SQUARE BRACKET WITH DOUBLE STROKEaRIGHT SQUARE BRACKET WITH DOUBLE STROKE
  2E59 aTOP HALF LEFT PARENTHESIScRIGHT PARENTHESISaBOTTOM HALF LEFT PARENTHESIScRIGHT PARENTHESIS
  2E5D aOBLIQUE HYPHEN
  2E80 aCJK RADICAL REPEATcCLIFFcSECOND ONEdTWOdTHREEcPERSONcBOXcTABLEcKNIFE ONEdTWOcDIVINATION
  2E8B aCJK RADICAL SEALcSMALL ONEdTWOcLAME ONEdTWOdTHREEdFOURcSNAKEcTHREADcSNOUT ONEdTWO
  2E96 aCJK RADICAL HEART ONEdTWOcHANDcRAP
  2E9B aCJK RADICAL CHOKEcSUNcMOONcDEATHcMOTHERcCIVILIANcWATER ONEdTWOcFIREcPAW ONEdTWO
  2EA6 aCJK RADICAL SIMPLIFIED HALF TREE TRUNKcCOWcDOGcJADEcBOLT OF CLOTHcEYEcSPIRIT ONEdTWO
  2EAE aCJK RADICAL BAMBOOcSILKcC-SIMPLIFIED SILKcNET ONEdTWOdTHREEdFOURcMESHcSHEEPcRAMcEWEcOLD
  2EBA aCJK RADICAL BRUSH ONEdTWOcMEATcMORTARcGRASS ONEdTWOdTHREEcTIGERcCLOTHEScWEST ONEdTWO
  2EC5 aCJK RADICAL C-SIMPLIFIED SEEcSIMPLIFIED HORNcHORNcC-SIMPLIFIED SPEECHdSHELLcFOOT
  2ECB aCJK RADICAL C-SIMPLIFIED CARTcSIMPLIFIED WALKcWALK ONEdTWOcCITYcC-SIMPLIFIED GOLDcLONG ONE
  2ED2 aCJK RADICAL LONG TWOcC-SIMPLIFIED LONGdGATEcMOUND ONEdTWOcRAINcBLUE
  2ED9 aCJK RADICAL C-SIMPLIFIED TANNED LEATHERdLEAFdWINDdFLYcEAT ONEdTWOdTHREEcC-SIMPLIFIED EAT
  2EE1 aCJK RADICAL HEADcC-SIMPLIFIED HORSEcBONEcGHOSTcC-SIMPLIFIED FISHdBIRDdSALT
  2EE8 aCJK RADICAL SIMPLIFIED WHEATdYELLOWcC-SIMPLIFIED FROGcJ-SIMPLIFIED EVENcC-SIMPLIFIED EVEN
  2EED aCJK RADICAL J-SIMPLIFIED TOOTHcC-SIMPLIFIED TOOTHcJ-SIMPLIFIED DRAGONcC-SIMPLIFIED DRAGON
  2EF1 aCJK RADICAL TURTLEcJ-SIMPLIFIED TURTLEcC-SIMPLIFIED TURTLE
  2F00 aKANGXI RADICAL ONEcLINEcDOTcSLASHcSECONDcHOOKcTWOcLIDcMANcLEGScENTERcEIGHTcDOWN BOXcCOVER
  2F0E aKANGXI RADICAL ICEcTABLEcOPEN BOXcKNIFEcPOWERcWRAPcSPOONcRIGHT OPEN BOXcHIDING ENCLOSURE
  2F17 aKANGXI RADICAL TENcDIVINATIONcSEALcCLIFFcPRIVATEcAGAINcMOUTHcENCLOSUREcEARTHcSCHOLARcGO
  2F22 aKANGXI RADICAL GO SLOWLYcEVENINGcBIGcWOMANcCHILDcROOFcINCHcSMALLcLAMEcCORPSEcSPROUT
  2F2D aKANGXI RADICAL MOUNTAINcRIVERcWORKcONESELFcTURBANcDRYcSHORT THREADcDOTTED CLIFF
  2F35 aKANGXI RADICAL LONG STRIDEcTWO HANDScSHOOTcBOWcSNOUTcBRISTLEcSTEPcHEARTcHALBERDcDOORcHAND
  2F40 aKANGXI RADICAL BRANCHcRAPcSCRIPTcDIPPERcAXEcSQUAREcNOTcSUNcSAYcMOONcTREEcLACKcSTOPcDEATH
  2F4E aKANGXI RADICAL WEAPONcDO NOTcCOMPAREcFURcCLANcSTEAMcWATERcFIREcCLAWcFATHERcDOUBLE X
  2F59 aKANGXI RADICAL HALF TREE TRUNKcSLICEcFANGcCOWcDOGcPROFOUNDcJADEcMELONcTILEcSWEETcLIFEcUSE
  2F65 aKANGXI RADICAL FIELDcBOLT OF CLOTHcSICKNESScDOTTED TENTcWHITEcSKINcDISHcEYEcSPEARcARROW
  2F6F aKANGXI RADICAL STONEcSPIRITcTRACKcGRAINcCAVEcSTANDcBAMBOOcRICEcSILKcJARcNETcSHEEPcFEATHER
  2F7C aKANGXI RADICAL OLDcANDcPLOWcEARcBRUSHcMEATcMINISTERcSELFcARRIVEcMORTARcTONGUEcOPPOSEcBOAT
  2F89 aKANGXI RADICAL STOPPINGcCOLORcGRASScTIGERcINSECTcBLOODcWALK ENCLOSUREcCLOTHEScWESTcSEE
  2F93 aKANGXI RADICAL HORNcSPEECHcVALLEYcBEANcPIGcBADGERcSHELLcREDcRUNcFOOTcBODYcCARTcBITTER
  2FA0 aKANGXI RADICAL MORNINGcWALKcCITYcWINEcDISTINGUISHcVILLAGEcGOLDcLONGcGATEcMOUNDcSLAVE
  2FAB aKANGXI RADICAL SHORT TAILED BIRDcRAINcBLUEcWRONGcFACEcLEATHERcTANNED LEATHERcLEEKcSOUND
  2FB4 aKANGXI RADICAL LEAFcWINDcFLYcEATcHEADcFRAGRANTcHORSEcBONEcTALLcHAIRcFIGHTcSACRIFICIAL WINE
  2FC0 aKANGXI RADICAL CAULDRONcGHOSTcFISHcBIRDcSALTcDEERcWHEATcHEMPcYELLOWcMILLETcBLACK
  2FCB aKANGXI RADICAL EMBROIDERYcFROGcTRIPODcDRUMcRATcNOSEcEVENcTOOTHcDRAGONcTURTLEcFLUTE
  2FF0 aIDEOGRAPHIC DESCRIPTION CHARACTER LEFT TO RIGHTdABOVE TO BELOWdLEFT TO MIDDLE AND RIGHT
  2FF3 aIDEOGRAPHIC DESCRIPTION CHARACTER ABOVE TO MIDDLE AND BELOWdFULL SURROUND
  2FF5 aIDEOGRAPHIC DESCRIPTION CHARACTER SURROUND FROM ABOVEfBELOWfLEFTfUPPER LEFTgRIGHT
  2FFA aIDEOGRAPHIC DESCRIPTION CHARACTER SURROUND FROM LOWER LEFTdOVERLAID
  3000 aIDEOGRAPHIC SPACEbCOMMAbFULL STOPaDITTO MARKaJAPANESE INDUSTRIAL STANDARD SYMBOL
  3005 aIDEOGRAPHIC ITERATION MARKbCLOSING MARKbNUMBER ZEROaLEFT ANGLE BRACKETaRIGHT ANGLE BRACKET
  300A aLEFT DOUBLE ANGLE BRACKETaRIGHT DOUBLE ANGLE BRACKETaLEFT CORNER BRACKET
  300D aRIGHT CORNER BRACKETaLEFT WHITE CORNER BRACKETaRIGHT WHITE CORNER BRACKET
  3010 aLEFT BLACK LENTICULAR BRACKETaRIGHT BLACK LENTICULAR BRACKETaPOSTAL MARKaGETA MARK
  3014 aLEFT TORTOISE SHELL BRACKETaRIGHT TORTOISE SHELL BRACKETaLEFT WHITE LENTICULAR BRACKET
  3017 aRIGHT WHITE LENTICULAR BRACKETaLEFT WHITE TORTOISE SHELL BRACKET
  3019 aRIGHT WHITE TORTOISE SHELL BRACKETaLEFT WHITE SQUARE BRACKETaRIGHT WHITE SQUARE BRACKET
  301C aWAVE DASHaREVERSED DOUBLE PRIME QUOTATION MARKaDOUBLE PRIME QUOTATION MARK
  301F aLOW DOUBLE PRIME QUOTATION MARKaPOSTAL MARK FACEaHANGZHOU NUMERAL ONEcTWOcTHREEcFOURcFIVE
  3026 aHANGZHOU NUMERAL SIXcSEVENcEIGHTcNINEaIDEOGRAPHIC LEVEL TONE MARKbRISING TONE MARK
  302C aIDEOGRAPHIC DEPARTING TONE MARKbENTERING TONE MARKaHANGUL SINGLE DOT TONE MARK
  302F aHANGUL DOUBLE DOT TONE MARKaWAVY DASHaVERTICAL KANA REPEAT MARKdWITH VOICED SOUND MARK
  3033 aVERTICAL KANA REPEAT MARK UPPER HALFdWITH VOICED SOUND MARK UPPER HALFdMARK LOWER HALF
  3036 aCIRCLED POSTAL MARKaIDEOGRAPHIC TELEGRAPH LINE FEED SEPARATOR SYMBOLaHANGZHOU NUMERAL TEN
  3039 aHANGZHOU NUMERAL TWENTYcTHIRTYaVERTICAL IDEOGRAPHIC ITERATION MARKaMASU MARK
  303D aPART ALTERNATION MARKaIDEOGRAPHIC VARIATION INDICATORbHALF FILL SPACE
  3041 aHIRAGANA LETTER SMALL AcAcSMALL IcIcSMALL UcUcSMALL EcEcSMALL OcOcKAcGAcKIcGIcKUcGUcKEcGE
  3053 aHIRAGANA LETTER KOcGOcSAcZAcSIcZIcSUcZUcSEcZEcSOcZOcTAcDAcTIcDIcSMALL TUcTUcDUcTEcDEcTOcDO
  306A aHIRAGANA LETTER NAcNIcNUcNEcNOcHAcBAcPAcHIcBIcPIcHUcBUcPUcHEcBEcPEcHOcBOcPOcMAcMIcMUcMEcMO
  3083 aHIRAGANA LETTER SMALL YAcYAcSMALL YUcYUcSMALL YOcYOcRAcRIcRUcREcROcSMALL WAcWAcWIcWEcWOcN
  3094 aHIRAGANA LETTER VUcSMALL KAdKE
  3099 aCOMBINING KATAKANA-HIRAGANA VOICED SOUND MARKcSEMI-VOICED SOUND MARK
  309B aKATAKANA-HIRAGANA VOICED SOUND MARKbSEMI-VOICED SOUND MARKaHIRAGANA ITERATION MARK
  309E aHIRAGANA VOICED ITERATION MARKbDIGRAPH YORIaKATAKANA-HIRAGANA DOUBLE HYPHEN
  30A1 aKATAKANA LETTER SMALL AcAcSMALL IcIcSMALL UcUcSMALL EcEcSMALL OcOcKAcGAcKIcGIcKUcGUcKEcGE
  30B3 aKATAKANA LETTER KOcGOcSAcZAcSIcZIcSUcZUcSEcZEcSOcZOcTAcDAcTIcDIcSMALL TUcTUcDUcTEcDEcTOcDO
  30CA aKATAKANA LETTER NAcNIcNUcNEcNOcHAcBAcPAcHIcBIcPIcHUcBUcPUcHEcBEcPEcHOcBOcPOcMAcMIcMUcMEcMO
  30E3 aKATAKANA LETTER SMALL YAcYAcSMALL YUcYUcSMALL YOcYOcRAcRIcRUcREcROcSMALL WAcWAcWIcWEcWOcN
  30F4 aKATAKANA LETTER VUcSMALL KAdKEcVAcVIcVEcVObMIDDLE DOT
  30FC aKATAKANA-HIRAGANA PROLONGED SOUND MARKaKATAKANA ITERATION MARKbVOICED ITERATION MARK
  30FF aKATAKANA DIGRAPH KOTO
  3105 aBOPOMOFO LETTER BcPcMcFcDcTcNcLcGcKcHcJcQcXcZHcCHcSHcRcZcCcScAcOcEcEHcAIcEIcAUcOUcANcEN
  3124 aBOPOMOFO LETTER ANGcENGcERcIcUcIUcVcNGcGNcIHcO WITH DOT ABOVEcNN
  3131 aHANGUL LETTER KIYEOKcSSANGKIYEOKcKIYEOK-SIOScNIEUNcNIEUN-CIEUCcNIEUN-HIEUHcTIKEUT
  3138 aHANGUL LETTER SSANGTIKEUTcRIEULcRIEUL-KIYEOKcRIEUL-MIEUMcRIEUL-PIEUPcRIEUL-SIOS
  313E aHANGUL LETTER RIEUL-THIEUTHcRIEUL-PHIEUPHcRIEUL-HIEUHcMIEUMcPIEUPcSSANGPIEUPcPIEUP-SIOS
  3145 aHANGUL LETTER SIOScSSANGSIOScIEUNGcCIEUCcSSANGCIEUCcCHIEUCHcKHIEUKHcTHIEUTHcPHIEUPHcHIEUH
  314F aHANGUL LETTER AcAEcYAcYAEcEOcEcYEOcYEcOcWAcWAEcOEcYOcUcWEOcWEcWIcYUcEUcYIcIbFILLER
  3165 aHANGUL LETTER SSANGNIEUNcNIEUN-TIKEUTcNIEUN-SIOScNIEUN-PANSIOScRIEUL-KIYEOK-SIOS
  316A aHANGUL LETTER RIEUL-TIKEUTcRIEUL-PIEUP-SIOScRIEUL-PANSIOScRIEUL-YEORINHIEUHcMIEUM-PIEUP
  316F aHANGUL LETTER MIEUM-SIOScMIEUM-PANSIOScKAPYEOUNMIEUMcPIEUP-KIYEOKcPIEUP-TIKEUT
  3174 aHANGUL LETTER PIEUP-SIOS-KIYEOKcPIEUP-SIOS-TIKEUTcPIEUP-CIEUCcPIEUP-THIEUTHcKAPYEOUNPIEUP
  3179 aHANGUL LETTER KAPYEOUNSSANGPIEUPcSIOS-KIYEOKcSIOS-NIEUNcSIOS-TIKEUTcSIOS-PIEUPcSIOS-CIEUC
  317F aHANGUL LETTER PANSIOScSSANGIEUNGcYESIEUNGcYESIEUNG-SIOScYESIEUNG-PANSIOScKAPYEOUNPHIEUPH
  3185 aHANGUL LETTER SSANGHIEUHcYEORINHIEUHcYO-YAcYO-YAEcYO-IcYU-YEOcYU-YEcYU-IcARAEAcARAEAE
  3190 aIDEOGRAPHIC ANNOTATION LINKING MARKcREVERSE MARKcONE MARKcTWO MARKcTHREE MARKcFOUR MARK
  3196 aIDEOGRAPHIC ANNOTATION TOP MARKcMIDDLE MARKcBOTTOM MARKcFIRST MARKcSECOND MARKcTHIRD MARK
  319C aIDEOGRAPHIC ANNOTATION FOURTH MARKcHEAVEN MARKcEARTH MARKcMAN MARKaBOPOMOFO LETTER BUcZI
  31A2 aBOPOMOFO LETTER JIcGUcEEcENNcOOcONNcIRcANNcINNcUNNcIMcNGGcAINNcAUNNcAMcOMcONGcINNN
  31B4 aBOPOMOFO FINAL LETTER PdTdKdHbLETTER GHcLHcZYbFINAL LETTER GbLETTER GWcKWcOEcAH
  31C0 aCJK STROKE TcWGcXGcBXGcSWcHZZcHZGcHPcHZWGcSZWGcHZTcHZZPcHPWGcHZWcHZZZcNcHcScPcSPcDcHZcHG
  31D7 aCJK STROKE SZcSWZcSTcSGcPDcPZcTNcSZZcSWGcHXWGcHZZZGcPGcQ
  31F0 aKATAKANA LETTER SMALL KUdSIdSUdTOdNUdHAdHIdHUdHEdHOdMUdRAdRIdRUdREdRO
  3200 aPARENTHESIZED HANGUL KIYEOKcNIEUNcTIKEUTcRIEULcMIEUMcPIEUPcSIOScIEUNGcCIEUCcCHIEUCH
  320A aPARENTHESIZED HANGUL KHIEUKHcTHIEUTHcPHIEUPHcHIEUHcKIYEOK AcNIEUN AcTIKEUT AcRIEUL A
  3212 aPARENTHESIZED HANGUL MIEUM AcPIEUP AcSIOS AcIEUNG AcCIEUC AcCHIEUCH AcKHIEUKH AcTHIEUTH A
  321A aPARENTHESIZED HANGUL PHIEUPH AcHIEUH AcCIEUC UbKOREAN CHARACTER OJEONdO HU
  3220 aPARENTHESIZED IDEOGRAPH ONEcTWOcTHREEcFOURcFIVEcSIXcSEVENcEIGHTcNINEcTENcMOONcFIREcWATER
  322D aPARENTHESIZED IDEOGRAPH WOODcMETALcEARTHcSUNcSTOCKcHAVEcSOCIETYcNAMEcSPECIALcFINANCIAL
  3237 aPARENTHESIZED IDEOGRAPH CONGRATULATIONcLABORcREPRESENTcCALLcSTUDYcSUPERVISEcENTERPRISE
  323E aPARENTHESIZED IDEOGRAPH RESOURCEcALLIANCEcFESTIVALcRESTcSELFcREACH
  3244 aCIRCLED IDEOGRAPH QUESTIONcKINDERGARTENcSCHOOLcKOTObNUMBER TEN ON BLACK SQUARE
  3249 aCIRCLED NUMBER TWENTY ON BLACK SQUAREcTHIRTY ON BLACK SQUAREcFORTY ON BLACK SQUARE
  324C aCIRCLED NUMBER FIFTY ON BLACK SQUAREcSIXTY ON BLACK SQUAREcSEVENTY ON BLACK SQUARE
  324F aCIRCLED NUMBER EIGHTY ON BLACK SQUAREaPARTNERSHIP SIGNaCIRCLED NUMBER TWENTY ONEdTWOdTHREE
  3254 aCIRCLED NUMBER TWENTY FOURdFIVEdSIXdSEVENdEIGHTdNINEcTHIRTYdONEdTWOdTHREEdFOURdFIVE
  3260 aCIRCLED HANGUL KIYEOKcNIEUNcTIKEUTcRIEULcMIEUMcPIEUPcSIOScIEUNGcCIEUCcCHIEUCHcKHIEUKH
  326B aCIRCLED HANGUL THIEUTHcPHIEUPHcHIEUHcKIYEOK AcNIEUN AcTIKEUT AcRIEUL AcMIEUM AcPIEUP A
  3274 aCIRCLED HANGUL SIOS AcIEUNG AcCIEUC AcCHIEUCH AcKHIEUKH AcTHIEUTH AcPHIEUPH AcHIEUH A
  327C aCIRCLED KOREAN CHARACTER CHAMKOdJUEUIbHANGUL IEUNG UaKOREAN STANDARD SYMBOL
  3280 aCIRCLED IDEOGRAPH ONEcTWOcTHREEcFOURcFIVEcSIXcSEVENcEIGHTcNINEcTENcMOONcFIREcWATERcWOOD
  328E aCIRCLED IDEOGRAPH METALcEARTHcSUNcSTOCKcHAVEcSOCIETYcNAMEcSPECIALcFINANCIALcCONGRATULATION
  3298 aCIRCLED IDEOGRAPH LABORcSECRETcMALEcFEMALEcSUITABLEcEXCELLENTcPRINTcATTENTIONcITEMcREST
  32A2 aCIRCLED IDEOGRAPH COPYcCORRECTcHIGHcCENTREcLOWcLEFTcRIGHTcMEDICINEcRELIGIONcSTUDY
  32AC aCIRCLED IDEOGRAPH SUPERVISEcENTERPRISEcRESOURCEcALLIANCEcNIGHTbNUMBER THIRTY SIXdSEVEN
  32B3 aCIRCLED NUMBER THIRTY EIGHTdNINEcFORTYdONEdTWOdTHREEdFOURdFIVEdSIXdSEVENdEIGHTdNINEcFIFTY
  32C0 aIDEOGRAPHIC TELEGRAPH SYMBOL FOR JANUARYeFEBRUARYeMARCHeAPRILeMAYeJUNEeJULYeAUGUST
  32C8 aIDEOGRAPHIC TELEGRAPH SYMBOL FOR SEPTEMBEReOCTOBEReNOVEMBEReDECEMBERaSQUARE HGbERGbEV
  32CF aLIMITED LIABILITY SIGNaCIRCLED KATAKANA AcIcUcEcOcKAcKIcKUcKEcKOcSAcSIcSUcSEcSOcTAcTIcTU
  32E2 aCIRCLED KATAKANA TEcTOcNAcNIcNUcNEcNOcHAcHIcHUcHEcHOcMAcMIcMUcMEcMOcYAcYUcYOcRAcRIcRUcRE
  32FA aCIRCLED KATAKANA ROcWAcWIcWEcWOaSQUARE ERA NAME REIWAbAPAATObARUHUAbANPEAbAARUbININGUbINTI
  3306 aSQUARE UONbESUKUUDObEEKAAbONSUbOOMUbKAIRIbKARATTObKARORIIbGARONbGANMAbGIGAbGINIIbKYURII
  3313 aSQUARE GIRUDAAbKIRObKIROGURAMUbKIROMEETORUbKIROWATTObGURAMUbGURAMUTONbKURUZEIRObKUROONE
  331C aSQUARE KEESUbKORUNAbKOOPObSAIKURUbSANTIIMUbSIRINGUbSENTIbSENTObDAASUbDESIbDORUbTONbNANO
  3329 aSQUARE NOTTObHAITUbPAASENTObPAATUbBAARERUbPIASUTORUbPIKURUbPIKObBIRUbHUARADDObHUIITO
  3334 aSQUARE BUSSYERUbHURANbHEKUTAARUbPESObPENIHIbHERUTUbPENSUbPEEZIbBEETAbPOINTObBORUTObHON
  3340 aSQUARE PONDObHOORUbHOONbMAIKURObMAIRUbMAHHAbMARUKUbMANSYONbMIKURONbMIRIbMIRIBAARUbMEGA
  334C aSQUARE MEGATONbMEETORUbYAADObYAARUbYUANbRITTORUbRIRAbRUPIIbRUUBURUbREMUbRENTOGENbWATTO
  3358 aIDEOGRAPHIC TELEGRAPH SYMBOL FOR HOUR ZEROfONEfTWOfTHREEfFOURfFIVEfSIXfSEVENfEIGHTfNINE
  3362 aIDEOGRAPHIC TELEGRAPH SYMBOL FOR HOUR TENfELEVENfTWELVEfTHIRTEENfFOURTEENfFIFTEENfSIXTEEN
  3369 aIDEOGRAPHIC TELEGRAPH SYMBOL FOR HOUR SEVENTEENfEIGHTEENfNINETEENfTWENTYfTWENTY-ONE
  336E aIDEOGRAPHIC TELEGRAPH SYMBOL FOR HOUR TWENTY-TWOfTWENTY-THREEfTWENTY-FOURaSQUARE HPAbDAbAU
  3374 aSQUARE BARbOVbPCbDMcSQUAREDcCUBEDbIUbERA NAME HEISEIdSYOUWAdTAISYOUdMEIZIbCORPORATION
  3380 aSQUARE PA AMPSbNAbMU AbMAbKAbKBbMBbGBbCALbKCALbPFbNFbMU FcGbMGbKGbHZbKHZbMHZbGHZbTHZbMU L
  3396 aSQUARE MLbDLbKLbFMbNMbMU MbMMbCMbKMbMM SQUAREDbCM SQUAREDbM SQUAREDbKM SQUAREDbMM CUBED
  33A4 aSQUARE CM CUBEDbM CUBEDbKM CUBEDbM OVER SeSQUAREDbPAbKPAbMPAbGPAbRADcOVER SeSQUAREDbPSbNS
  33B2 aSQUARE MU SbMSbPVbNVbMU VbMVbKVbMV MEGAbPWbNWbMU WbMWbKWbMW MEGAbK OHMbM OHMbAMbBQbCCbCD
  33C6 aSQUARE C OVER KGbCObDBbGYbHAbHPbINbKKbKM CAPITALbKTbLMbLNbLOGbLXbMB SMALLbMILbMOLbPHbPM
  33D9 aSQUARE PPMbPRbSRbSVbWBbV OVER MbA OVER MaIDEOGRAPHIC TELEGRAPH SYMBOL FOR DAY ONEfTWO
  33E2 aIDEOGRAPHIC TELEGRAPH SYMBOL FOR DAY THREEfFOURfFIVEfSIXfSEVENfEIGHTfNINEfTENfELEVEN
  33EB aIDEOGRAPHIC TELEGRAPH SYMBOL FOR DAY TWELVEfTHIRTEENfFOURTEENfFIFTEENfSIXTEENfSEVENTEEN
  33F1 aIDEOGRAPHIC TELEGRAPH SYMBOL FOR DAY EIGHTEENfNINETEENfTWENTYfTWENTY-ONEfTWENTY-TWO
  33F6 aIDEOGRAPHIC TELEGRAPH SYMBOL FOR DAY TWENTY-THREEfTWENTY-FOURfTWENTY-FIVEfTWENTY-SIX
  33FA aIDEOGRAPHIC TELEGRAPH SYMBOL FOR DAY TWENTY-SEVENfTWENTY-EIGHTfTWENTY-NINEfTHIRTY
  33FE aIDEOGRAPHIC TELEGRAPH SYMBOL FOR DAY THIRTY-ONEaSQUARE GAL
  4DC0 aHEXAGRAM FOR THE CREATIVE HEAVENdRECEPTIVE EARTHcDIFFICULTY AT THE BEGINNING
  4DC3 aHEXAGRAM FOR YOUTHFUL FOLLYcWAITINGcCONFLICTcTHE ARMYcHOLDING TOGETHERcSMALL TAMING
  4DC9 aHEXAGRAM FOR TREADINGcPEACEcSTANDSTILLcFELLOWSHIPcGREAT POSSESSIONcMODESTYcENTHUSIASM
  4DD0 aHEXAGRAM FOR FOLLOWINGcWORK ON THE DECAYEDcAPPROACHcCONTEMPLATIONcBITING THROUGHcGRACE
  4DD6 aHEXAGRAM FOR SPLITTING APARTcRETURNcINNOCENCEcGREAT TAMINGcMOUTH CORNERS
  4DDB aHEXAGRAM FOR GREAT PREPONDERANCEcTHE ABYSMAL WATERdCLINGING FIREcINFLUENCEcDURATION
  4DE0 aHEXAGRAM FOR RETREATcGREAT POWERcPROGRESScDARKENING OF THE LIGHTcTHE FAMILYcOPPOSITION
  4DE6 aHEXAGRAM FOR OBSTRUCTIONcDELIVERANCEcDECREASEcINCREASEcBREAKTHROUGHcCOMING TO MEET
  4DEC aHEXAGRAM FOR GATHERING TOGETHERcPUSHING UPWARDcOPPRESSIONcTHE WELLcREVOLUTIONcTHE CAULDRON
  4DF2 aHEXAGRAM FOR THE AROUSING THUNDERdKEEPING STILL MOUNTAINcDEVELOPMENTcTHE MARRYING MAIDEN
  4DF6 aHEXAGRAM FOR ABUNDANCEcTHE WANDERERdGENTLE WINDdJOYOUS LAKEcDISPERSIONcLIMITATION
  4DFC aHEXAGRAM FOR INNER TRUTHcSMALL PREPONDERANCEcAFTER COMPLETIONcBEFORE COMPLETION
  A000 aYI SYLLABLE ITcIXcIcIPcIETcIEXcIEcIEPcATcAXcAcAPcUOXcUOcUOPcOTcOXcOcOPcEXcEcWUcBITcBIXcBI
  A019 aYI SYLLABLE BIPcBIETcBIEXcBIEcBIEPcBATcBAXcBAcBAPcBUOXcBUOcBUOPcBOTcBOXcBOcBOPcBEXcBEcBEP
  A02C aYI SYLLABLE BUTcBUXcBUcBUPcBURXcBURcBYTcBYXcBYcBYPcBYRXcBYRcPITcPIXcPIcPIPcPIEXcPIEcPIEP
  A03F aYI SYLLABLE PATcPAXcPAcPAPcPUOXcPUOcPUOPcPOTcPOXcPOcPOPcPUTcPUXcPUcPUPcPURXcPURcPYTcPYXcPY
  A053 aYI SYLLABLE PYPcPYRXcPYRcBBITcBBIXcBBIcBBIPcBBIETcBBIEXcBBIEcBBIEPcBBATcBBAXcBBAcBBAP
  A062 aYI SYLLABLE BBUOXcBBUOcBBUOPcBBOTcBBOXcBBOcBBOPcBBEXcBBEcBBEPcBBUTcBBUXcBBUcBBUPcBBURX
  A071 aYI SYLLABLE BBURcBBYTcBBYXcBBYcBBYPcNBITcNBIXcNBIcNBIPcNBIEXcNBIEcNBIEPcNBATcNBAXcNBAcNBAP
  A081 aYI SYLLABLE NBOTcNBOXcNBOcNBOPcNBUTcNBUXcNBUcNBUPcNBURXcNBURcNBYTcNBYXcNBYcNBYPcNBYRXcNBYR
  A091 aYI SYLLABLE HMITcHMIXcHMIcHMIPcHMIEXcHMIEcHMIEPcHMATcHMAXcHMAcHMAPcHMUOXcHMUOcHMUOPcHMOT
  A0A0 aYI SYLLABLE HMOXcHMOcHMOPcHMUTcHMUXcHMUcHMUPcHMURXcHMURcHMYXcHMYcHMYPcHMYRXcHMYRcMITcMIX
  A0B0 aYI SYLLABLE MIcMIPcMIEXcMIEcMIEPcMATcMAXcMAcMAPcMUOTcMUOXcMUOcMUOPcMOTcMOXcMOcMOPcMEXcME
  A0C3 aYI SYLLABLE MUTcMUXcMUcMUPcMURXcMURcMYTcMYXcMYcMYPcFITcFIXcFIcFIPcFATcFAXcFAcFAPcFOXcFO
  A0D7 aYI SYLLABLE FOPcFUTcFUXcFUcFUPcFURXcFURcFYTcFYXcFYcFYPcVITcVIXcVIcVIPcVIETcVIEXcVIEcVIEP
  A0EA aYI SYLLABLE VATcVAXcVAcVAPcVOTcVOXcVOcVOPcVEXcVEPcVUTcVUXcVUcVUPcVURXcVURcVYTcVYXcVYcVYP
  A0FE aYI SYLLABLE VYRXcVYRcDITcDIXcDIcDIPcDIEXcDIEcDIEPcDATcDAXcDAcDAPcDUOXcDUOcDOTcDOXcDOcDOP
  A111 aYI SYLLABLE DEXcDEcDEPcDUTcDUXcDUcDUPcDURXcDURcTITcTIXcTIcTIPcTIEXcTIEcTIEPcTATcTAXcTAcTAP
  A125 aYI SYLLABLE TUOTcTUOXcTUOcTUOPcTOTcTOXcTOcTOPcTEXcTEcTEPcTUTcTUXcTUcTUPcTURXcTURcDDITcDDIX
  A138 aYI SYLLABLE DDIcDDIPcDDIEXcDDIEcDDIEPcDDATcDDAXcDDAcDDAPcDDUOXcDDUOcDDUOPcDDOTcDDOXcDDO
  A147 aYI SYLLABLE DDOPcDDEXcDDEcDDEPcDDUTcDDUXcDDUcDDUPcDDURXcDDURcNDITcNDIXcNDIcNDIPcNDIEXcNDIE
  A157 aYI SYLLABLE NDATcNDAXcNDAcNDAPcNDOTcNDOXcNDOcNDOPcNDEXcNDEcNDEPcNDUTcNDUXcNDUcNDUPcNDURX
  A167 aYI SYLLABLE NDURcHNITcHNIXcHNIcHNIPcHNIETcHNIEXcHNIEcHNIEPcHNATcHNAXcHNAcHNAPcHNUOXcHNUO
  A176 aYI SYLLABLE HNOTcHNOXcHNOPcHNEXcHNEcHNEPcHNUTcNITcNIXcNIcNIPcNIEXcNIEcNIEPcNAXcNAcNAPcNUOX
  A188 aYI SYLLABLE NUOcNUOPcNOTcNOXcNOcNOPcNEXcNEcNEPcNUTcNUXcNUcNUPcNURXcNURcHLITcHLIXcHLIcHLIP
  A19B aYI SYLLABLE HLIEXcHLIEcHLIEPcHLATcHLAXcHLAcHLAPcHLUOXcHLUOcHLUOPcHLOXcHLOcHLOPcHLEXcHLE
  A1AA aYI SYLLABLE HLEPcHLUTcHLUXcHLUcHLUPcHLURXcHLURcHLYTcHLYXcHLYcHLYPcHLYRXcHLYRcLITcLIXcLI
  A1BA aYI SYLLABLE LIPcLIETcLIEXcLIEcLIEPcLATcLAXcLAcLAPcLUOTcLUOXcLUOcLUOPcLOTcLOXcLOcLOPcLEXcLE
  A1CD aYI SYLLABLE LEPcLUTcLUXcLUcLUPcLURXcLURcLYTcLYXcLYcLYPcLYRXcLYRcGITcGIXcGIcGIPcGIETcGIEX
  A1E0 aYI SYLLABLE GIEcGIEPcGATcGAXcGAcGAPcGUOTcGUOXcGUOcGUOPcGOTcGOXcGOcGOPcGETcGEXcGEcGEPcGUT
  A1F3 aYI SYLLABLE GUXcGUcGUPcGURXcGURcKITcKIXcKIcKIPcKIEXcKIEcKIEPcKATcKAXcKAcKAPcKUOXcKUOcKUOP
  A206 aYI SYLLABLE KOTcKOXcKOcKOPcKETcKEXcKEcKEPcKUTcKUXcKUcKUPcKURXcKURcGGITcGGIXcGGIcGGIEXcGGIE
  A219 aYI SYLLABLE GGIEPcGGATcGGAXcGGAcGGAPcGGUOTcGGUOXcGGUOcGGUOPcGGOTcGGOXcGGOcGGOPcGGETcGGEX
  A228 aYI SYLLABLE GGEcGGEPcGGUTcGGUXcGGUcGGUPcGGURXcGGURcMGIEXcMGIEcMGATcMGAXcMGAcMGAPcMGUOX
  A237 aYI SYLLABLE MGUOcMGUOPcMGOTcMGOXcMGOcMGOPcMGEXcMGEcMGEPcMGUTcMGUXcMGUcMGUPcMGURXcMGURcHXIT
  A247 aYI SYLLABLE HXIXcHXIcHXIPcHXIETcHXIEXcHXIEcHXIEPcHXATcHXAXcHXAcHXAPcHXUOTcHXUOXcHXUOcHXUOP
  A256 aYI SYLLABLE HXOTcHXOXcHXOcHXOPcHXEXcHXEcHXEPcNGIEXcNGIEcNGIEPcNGATcNGAXcNGAcNGAPcNGUOT
  A265 aYI SYLLABLE NGUOXcNGUOcNGOTcNGOXcNGOcNGOPcNGEXcNGEcNGEPcHITcHIEXcHIEcHATcHAXcHAcHAPcHUOT
  A276 aYI SYLLABLE HUOXcHUOcHUOPcHOTcHOXcHOcHOPcHEXcHEcHEPcWATcWAXcWAcWAPcWUOXcWUOcWUOPcWOXcWO
  A289 aYI SYLLABLE WOPcWEXcWEcWEPcZITcZIXcZIcZIPcZIEXcZIEcZIEPcZATcZAXcZAcZAPcZUOXcZUOcZUOPcZOT
  A29C aYI SYLLABLE ZOXcZOcZOPcZEXcZEcZEPcZUTcZUXcZUcZUPcZURXcZURcZYTcZYXcZYcZYPcZYRXcZYRcCITcCIX
  A2B0 aYI SYLLABLE CIcCIPcCIETcCIEXcCIEcCIEPcCATcCAXcCAcCAPcCUOXcCUOcCUOPcCOTcCOXcCOcCOPcCEXcCE
  A2C3 aYI SYLLABLE CEPcCUTcCUXcCUcCUPcCURXcCURcCYTcCYXcCYcCYPcCYRXcCYRcZZITcZZIXcZZIcZZIPcZZIET
  A2D5 aYI SYLLABLE ZZIEXcZZIEcZZIEPcZZATcZZAXcZZAcZZAPcZZOXcZZOcZZOPcZZEXcZZEcZZEPcZZUXcZZUcZZUP
  A2E5 aYI SYLLABLE ZZURXcZZURcZZYTcZZYXcZZYcZZYPcZZYRXcZZYRcNZITcNZIXcNZIcNZIPcNZIEXcNZIEcNZIEP
  A2F4 aYI SYLLABLE NZATcNZAXcNZAcNZAPcNZUOXcNZUOcNZOXcNZOPcNZEXcNZEcNZUXcNZUcNZUPcNZURXcNZURcNZYT
  A304 aYI SYLLABLE NZYXcNZYcNZYPcNZYRXcNZYRcSITcSIXcSIcSIPcSIEXcSIEcSIEPcSATcSAXcSAcSAPcSUOXcSUO
  A316 aYI SYLLABLE SUOPcSOTcSOXcSOcSOPcSEXcSEcSEPcSUTcSUXcSUcSUPcSURXcSURcSYTcSYXcSYcSYPcSYRXcSYR
  A32A aYI SYLLABLE SSITcSSIXcSSIcSSIPcSSIEXcSSIEcSSIEPcSSATcSSAXcSSAcSSAPcSSOTcSSOXcSSOcSSOPcSSEX
  A33A aYI SYLLABLE SSEcSSEPcSSUTcSSUXcSSUcSSUPcSSYTcSSYXcSSYcSSYPcSSYRXcSSYRcZHATcZHAXcZHAcZHAP
  A34A aYI SYLLABLE ZHUOXcZHUOcZHUOPcZHOTcZHOXcZHOcZHOPcZHETcZHEXcZHEcZHEPcZHUTcZHUXcZHUcZHUP
  A359 aYI SYLLABLE ZHURXcZHURcZHYTcZHYXcZHYcZHYPcZHYRXcZHYRcCHATcCHAXcCHAcCHAPcCHUOTcCHUOXcCHUO
  A368 aYI SYLLABLE CHUOPcCHOTcCHOXcCHOcCHOPcCHETcCHEXcCHEcCHEPcCHUXcCHUcCHUPcCHURXcCHURcCHYTcCHYX
  A378 aYI SYLLABLE CHYcCHYPcCHYRXcCHYRcRRAXcRRAcRRUOXcRRUOcRROTcRROXcRROcRROPcRRETcRREXcRREcRREP
  A388 aYI SYLLABLE RRUTcRRUXcRRUcRRUPcRRURXcRRURcRRYTcRRYXcRRYcRRYPcRRYRXcRRYRcNRATcNRAXcNRAcNRAP
  A398 aYI SYLLABLE NROXcNROcNROPcNRETcNREXcNREcNREPcNRUTcNRUXcNRUcNRUPcNRURXcNRURcNRYTcNRYXcNRY
  A3A8 aYI SYLLABLE NRYPcNRYRXcNRYRcSHATcSHAXcSHAcSHAPcSHUOXcSHUOcSHUOPcSHOTcSHOXcSHOcSHOPcSHET
  A3B7 aYI SYLLABLE SHEXcSHEcSHEPcSHUTcSHUXcSHUcSHUPcSHURXcSHURcSHYTcSHYXcSHYcSHYPcSHYRXcSHYRcRAT
  A3C7 aYI SYLLABLE RAXcRAcRAPcRUOXcRUOcRUOPcROTcROXcROcROPcREXcREcREPcRUTcRUXcRUcRUPcRURXcRURcRYT
  A3DB aYI SYLLABLE RYXcRYcRYPcRYRXcRYRcJITcJIXcJIcJIPcJIETcJIEXcJIEcJIEPcJUOTcJUOXcJUOcJUOPcJOT
  A3ED aYI SYLLABLE JOXcJOcJOPcJUTcJUXcJUcJUPcJURXcJURcJYTcJYXcJYcJYPcJYRXcJYRcQITcQIXcQIcQIPcQIET
  A401 aYI SYLLABLE QIEXcQIEcQIEPcQUOTcQUOXcQUOcQUOPcQOTcQOXcQOcQOPcQUTcQUXcQUcQUPcQURXcQURcQYT
  A413 aYI SYLLABLE QYXcQYcQYPcQYRXcQYRcJJITcJJIXcJJIcJJIPcJJIETcJJIEXcJJIEcJJIEPcJJUOXcJJUOcJJUOP
  A423 aYI SYLLABLE JJOTcJJOXcJJOcJJOPcJJUTcJJUXcJJUcJJUPcJJURXcJJURcJJYTcJJYXcJJYcJJYPcNJITcNJIX
  A433 aYI SYLLABLE NJIcNJIPcNJIETcNJIEXcNJIEcNJIEPcNJUOXcNJUOcNJOTcNJOXcNJOcNJOPcNJUXcNJUcNJUP
  A442 aYI SYLLABLE NJURXcNJURcNJYTcNJYXcNJYcNJYPcNJYRXcNJYRcNYITcNYIXcNYIcNYIPcNYIETcNYIEXcNYIE
  A451 aYI SYLLABLE NYIEPcNYUOXcNYUOcNYUOPcNYOTcNYOXcNYOcNYOPcNYUTcNYUXcNYUcNYUPcXITcXIXcXIcXIP
  A461 aYI SYLLABLE XIETcXIEXcXIEcXIEPcXUOXcXUOcXOTcXOXcXOcXOPcXYTcXYXcXYcXYPcXYRXcXYRcYITcYIXcYI
  A474 aYI SYLLABLE YIPcYIETcYIEXcYIEcYIEPcYUOTcYUOXcYUOcYUOPcYOTcYOXcYOcYOPcYUTcYUXcYUcYUPcYURX
  A486 aYI SYLLABLE YURcYYTcYYXcYYcYYPcYYRXcYYR
  A490 aYI RADICAL QOTcLIcKITcNYIPcCYPcSSIcGGOPcGEPcMIcHXITcLYRcBBUTcMOPcYOcPUTcHXUOcTATcGAcZUP
  A4A3 aYI RADICAL CYTcDDURcBURcGGUOcNYOPcTUcOPcJJUTcZOTcPYTcHMOcYITcVURcSHYcVEPcZAcJOcNZUPcJJY
  A4B6 aYI RADICAL GOTcJJIEcWOcDUcSHURcLIEcCYcCUOPcCIPcHXOPcSHATcZURcSHOPcCHEcZZIETcNBIEcKE
  A4D0 aLISU LETTER BAcPAcPHAcDAcTAcTHAcGAcKAcKHAcJAcCAcCHAcDZAcTSAcTSHAcMAcNAcLAcSAcZHAcZAcNGAcHA
  A4E7 aLISU LETTER XAcHHAcFAcWAcSHAcYAcGHAcAcAEcEcEUcIcOcUcUEcUHcOEcTONE MYA TIdNA POdMYA CYAeBO
  A4FC aLISU LETTER TONE MYA NAeJEUbPUNCTUATION COMMAcFULL STOPaVAI SYLLABLE EEcEENcHEEcWEEcWEEN
  A505 aVAI SYLLABLE PEEcBHEEcBEEcMBEEcKPEEcMGBEEcGBEEcFEEcVEEcTEEcTHEEcDHEEcDHHEEcLEEcREEcDEE
  A515 aVAI SYLLABLE NDEEcSEEcSHEEcZEEcZHEEcCEEcJEEcNJEEcYEEcKEEcNGGEEcGEEcMEEcNEEcNYEEcIcINcHI
  A527 aVAI SYLLABLE HINcWIcWINcPIcBHIcBIcMBIcKPIcMGBIcGBIcFIcVIcTIcTHIcDHIcDHHIcLIcRIcDIcNDIcSI
  A53C aVAI SYLLABLE SHIcZIcZHIcCIcJIcNJIcYIcKIcNGGIcGIcMIcNIcNYIcAcANcNGANcHAcHANcWAcWANcPAcBHA
  A552 aVAI SYLLABLE BAcMBAcKPAcKPANcMGBAcGBAcFAcVAcTAcTHAcDHAcDHHAcLAcRAcDAcNDAcSAcSHAcZAcZHAcCA
  A567 aVAI SYLLABLE JAcNJAcYAcKAcKANcNGGAcGAcMAcNAcNYAcOOcOONcHOOcWOOcWOONcPOOcBHOOcBOOcMBOOcKPOO
  A57B aVAI SYLLABLE MGBOOcGBOOcFOOcVOOcTOOcTHOOcDHOOcDHHOOcLOOcROOcDOOcNDOOcSOOcSHOOcZOOcZHOOcCOO
  A58C aVAI SYLLABLE JOOcNJOOcYOOcKOOcNGGOOcGOOcMOOcNOOcNYOOcUcUNcHUcHUNcWUcWUNcPUcBHUcBUcMBUcKPU
  A5A0 aVAI SYLLABLE MGBUcGBUcFUcVUcTUcTHUcDHUcDHHUcLUcRUcDUcNDUcSUcSHUcZUcZHUcCUcJUcNJUcYUcKU
  A5B5 aVAI SYLLABLE NGGUcGUcMUcNUcNYUcOcONcNGONcHOcHONcWOcWONcPOcBHOcBOcMBOcKPOcMGBOcGBOcGBONcFO
  A5CA aVAI SYLLABLE VOcTOcTHOcDHOcDHHOcLOcROcDOcNDOcSOcSHOcZOcZHOcCOcJOcNJOcYOcKOcNGGOcGOcMOcNO
  A5E0 aVAI SYLLABLE NYOcEcENcNGENcHEcHENcWEcWENcPEcBHEcBEcMBEcKPEcKPENcMGBEcGBEcGBENcFEcVEcTEcTHE
  A5F5 aVAI SYLLABLE DHEcDHHEcLEcREcDEcNDEcSEcSHEcZEcZHEcCEcJEcNJEcYEcKEcNGGEcNGGENcGEcGENcMEcNE
  A60A aVAI SYLLABLE NYEcNGcLENGTHENERbCOMMAbFULL STOPbQUESTION MARKbSYLLABLE NDOLE FAdKAdSOO
  A613 aVAI SYMBOL FEENGcKEENGcTINGcNIIcBANGcFAAcTAAcDANGcDOONGcKUNGcTONGcDO-OcJONGbDIGIT ZEROcONE
  A622 aVAI DIGIT TWOcTHREEcFOURcFIVEcSIXcSEVENcEIGHTcNINEbSYLLABLE NDOLE MAdDO
  A640 aCYRILLIC CAPITAL LETTER ZEMLYAbSMALL LETTER ZEMLYAbCAPITAL LETTER DZELObSMALL LETTER DZELO
  A644 aCYRILLIC CAPITAL LETTER REVERSED DZEbSMALL LETTER REVERSED DZEbCAPITAL LETTER IOTA
  A647 aCYRILLIC SMALL LETTER IOTAbCAPITAL LETTER DJERVbSMALL LETTER DJERV
  A64A aCYRILLIC CAPITAL LETTER MONOGRAPH UKbSMALL LETTER MONOGRAPH UKbCAPITAL LETTER BROAD OMEGA
  A64D aCYRILLIC SMALL LETTER BROAD OMEGAbCAPITAL LETTER NEUTRAL YERbSMALL LETTER NEUTRAL YER
  A650 aCYRILLIC CAPITAL LETTER YERU WITH BACK YERbSMALL LETTER YERU WITH BACK YER
  A652 aCYRILLIC CAPITAL LETTER IOTIFIED YATbSMALL LETTER IOTIFIED YATbCAPITAL LETTER REVERSED YU
  A655 aCYRILLIC SMALL LETTER REVERSED YUbCAPITAL LETTER IOTIFIED AbSMALL LETTER IOTIFIED A
  A658 aCYRILLIC CAPITAL LETTER CLOSED LITTLE YUSbSMALL LETTER CLOSED LITTLE YUS
  A65A aCYRILLIC CAPITAL LETTER BLENDED YUSbSMALL LETTER BLENDED YUS
  A65C aCYRILLIC CAPITAL LETTER IOTIFIED CLOSED LITTLE YUSbSMALL LETTER IOTIFIED CLOSED LITTLE YUS
  A65E aCYRILLIC CAPITAL LETTER YNbSMALL LETTER YNbCAPITAL LETTER REVERSED TSE
  A661 aCYRILLIC SMALL LETTER REVERSED TSEbCAPITAL LETTER SOFT DEbSMALL LETTER SOFT DE
  A664 aCYRILLIC CAPITAL LETTER SOFT ELbSMALL LETTER SOFT ELbCAPITAL LETTER SOFT EM
  A667 aCYRILLIC SMALL LETTER SOFT EMbCAPITAL LETTER MONOCULAR ObSMALL LETTER MONOCULAR O
  A66A aCYRILLIC CAPITAL LETTER BINOCULAR ObSMALL LETTER BINOCULAR O
  A66C aCYRILLIC CAPITAL LETTER DOUBLE MONOCULAR ObSMALL LETTER DOUBLE MONOCULAR O
  A66E aCYRILLIC LETTER MULTIOCULAR OaCOMBINING CYRILLIC VZMETcTEN MILLIONS SIGN
  A671 aCOMBINING CYRILLIC HUNDRED MILLIONS SIGNcTHOUSAND MILLIONS SIGNaSLAVONIC ASTERISK
  A674 aCOMBINING CYRILLIC LETTER UKRAINIAN IEdIdYIdUdHARD SIGNdYERUdSOFT SIGNdOMEGAcKAVYKA
  A67D aCOMBINING CYRILLIC PAYEROKaCYRILLIC KAVYKAbPAYEROKbCAPITAL LETTER DWEbSMALL LETTER DWE
  A682 aCYRILLIC CAPITAL LETTER DZWEbSMALL LETTER DZWEbCAPITAL LETTER ZHWEbSMALL LETTER ZHWE
  A686 aCYRILLIC CAPITAL LETTER CCHEbSMALL LETTER CCHEbCAPITAL LETTER DZZEbSMALL LETTER DZZE
  A68A aCYRILLIC CAPITAL LETTER TE WITH MIDDLE HOOKbSMALL LETTER TE WITH MIDDLE HOOK
  A68C aCYRILLIC CAPITAL LETTER TWEbSMALL LETTER TWEbCAPITAL LETTER TSWEbSMALL LETTER TSWE
  A690 aCYRILLIC CAPITAL LETTER TSSEbSMALL LETTER TSSEbCAPITAL LETTER TCHEbSMALL LETTER TCHE
  A694 aCYRILLIC CAPITAL LETTER HWEbSMALL LETTER HWEbCAPITAL LETTER SHWEbSMALL LETTER SHWE
  A698 aCYRILLIC CAPITAL LETTER DOUBLE ObSMALL LETTER DOUBLE ObCAPITAL LETTER CROSSED O
  A69B aCYRILLIC SMALL LETTER CROSSED OaMODIFIER LETTER CYRILLIC HARD SIGNdSOFT SIGN
  A69E aCOMBINING CYRILLIC LETTER EFdIOTIFIED EaBAMUM LETTER AcKAcUcKUcEEcREEcTAEcOcNYIcIcLAcPA
  A6AC aBAMUM LETTER RIIcRIEEcLEEEEcMEEEEcTAAcNDAAcNJAEMcMcSUUcMUcSHIIcSIcSHEUXcSEUXcKYEEcKETcNUAE
  A6BD aBAMUM LETTER NUcNJUAEcYOQcSHUcYUQcYAcNSHAcKEUXcPEUXcNJEEcNTEEcPUEcWUEcPEEcFEEcRUcLUcMIcNI
  A6D0 aBAMUM LETTER REUXcRAEcKENcNGKWAENcNGGAcNGAcSHOcPUAEcFUcFOMcWAcNAcLIcPIcLOQcKOcMBENcRENcMEN
  A6E3 aBAMUM LETTER MAcTIcKIcMOcMBAAcTETcKPAcTENcNTUUcSAMBAcFAAMAEcKOVUUcKOGHOM
  A6F0 aBAMUM COMBINING MARK KOQNDONdTUKWENTISbNJAEMLIbFULL STOPbCOLONbCOMMAbSEMICOLON
  A6F7 aBAMUM QUESTION MARK
  A700 aMODIFIER LETTER CHINESE TONE YIN PINGeYANG PINGeYIN SHANGeYANG SHANGeYIN QUeYANG QUeYIN RU
  A707 aMODIFIER LETTER CHINESE TONE YANG RUcEXTRA-HIGH DOTTED TONE BARcHIGH DOTTED TONE BAR
  A70A aMODIFIER LETTER MID DOTTED TONE BARcLOW DOTTED TONE BARcEXTRA-LOW DOTTED TONE BAR
  A70D aMODIFIER LETTER EXTRA-HIGH DOTTED LEFT-STEM TONE BARcHIGH DOTTED LEFT-STEM TONE BAR
  A70F aMODIFIER LETTER MID DOTTED LEFT-STEM TONE BARcLOW DOTTED LEFT-STEM TONE BAR
  A711 aMODIFIER LETTER EXTRA-LOW DOTTED LEFT-STEM TONE BARcEXTRA-HIGH LEFT-STEM TONE BAR
  A713 aMODIFIER LETTER HIGH LEFT-STEM TONE BARcMID LEFT-STEM TONE BARcLOW LEFT-STEM TONE BAR
  A716 aMODIFIER LETTER EXTRA-LOW LEFT-STEM TONE BARcDOT VERTICAL BARdSLASHdHORIZONTAL BAR
  A71A aMODIFIER LETTER LOWER RIGHT CORNER ANGLEcRAISED UP ARROWdDOWN ARROWdEXCLAMATION MARK
  A71E aMODIFIER LETTER RAISED INVERTED EXCLAMATION MARKcLOW INVERTED EXCLAMATION MARK
  A720 aMODIFIER LETTER STRESS AND HIGH TONEeLOW TONEaLATIN CAPITAL LETTER EGYPTOLOGICAL ALEF
  A723 aLATIN SMALL LETTER EGYPTOLOGICAL ALEFbCAPITAL LETTER EGYPTOLOGICAL AIN
  A725 aLATIN SMALL LETTER EGYPTOLOGICAL AINbCAPITAL LETTER HENGbSMALL LETTER HENG
  A728 aLATIN CAPITAL LETTER TZbSMALL LETTER TZbCAPITAL LETTER TRESILLObSMALL LETTER TRESILLO
  A72C aLATIN CAPITAL LETTER CUATRILLObSMALL LETTER CUATRILLObCAPITAL LETTER CUATRILLO WITH COMMA
  A72F aLATIN SMALL LETTER CUATRILLO WITH COMMAbLETTER SMALL CAPITAL FeSbCAPITAL LETTER AA
  A733 aLATIN SMALL LETTER AAbCAPITAL LETTER AObSMALL LETTER AObCAPITAL LETTER AUbSMALL LETTER AU
  A738 aLATIN CAPITAL LETTER AVbSMALL LETTER AVbCAPITAL LETTER AV WITH HORIZONTAL BAR
  A73B aLATIN SMALL LETTER AV WITH HORIZONTAL BARbCAPITAL LETTER AYbSMALL LETTER AY
  A73E aLATIN CAPITAL LETTER REVERSED C WITH DOTbSMALL LETTER REVERSED C WITH DOT
  A740 aLATIN CAPITAL LETTER K WITH STROKEbSMALL LETTER K WITH STROKE
  A742 aLATIN CAPITAL LETTER K WITH DIAGONAL STROKEbSMALL LETTER K WITH DIAGONAL STROKE
  A744 aLATIN CAPITAL LETTER K WITH STROKE AND DIAGONAL STROKE
  A745 aLATIN SMALL LETTER K WITH STROKE AND DIAGONAL STROKEbCAPITAL LETTER BROKEN L
  A747 aLATIN SMALL LETTER BROKEN LbCAPITAL LETTER L WITH HIGH STROKE
  A749 aLATIN SMALL LETTER L WITH HIGH STROKEbCAPITAL LETTER O WITH LONG STROKE OVERLAY
  A74B aLATIN SMALL LETTER O WITH LONG STROKE OVERLAYbCAPITAL LETTER O WITH LOOP
  A74D aLATIN SMALL LETTER O WITH LOOPbCAPITAL LETTER OObSMALL LETTER OO
  A750 aLATIN CAPITAL LETTER P WITH STROKE THROUGH DESCENDER
  A751 aLATIN SMALL LETTER P WITH STROKE THROUGH DESCENDERbCAPITAL LETTER P WITH FLOURISH
  A753 aLATIN SMALL LETTER P WITH FLOURISHbCAPITAL LETTER P WITH SQUIRREL TAIL
  A755 aLATIN SMALL LETTER P WITH SQUIRREL TAILbCAPITAL LETTER Q WITH STROKE THROUGH DESCENDER
  A757 aLATIN SMALL LETTER Q WITH STROKE THROUGH DESCENDERbCAPITAL LETTER Q WITH DIAGONAL STROKE
  A759 aLATIN SMALL LETTER Q WITH DIAGONAL STROKEbCAPITAL LETTER R ROTUNDAbSMALL LETTER R ROTUNDA
  A75C aLATIN CAPITAL LETTER RUM ROTUNDAbSMALL LETTER RUM ROTUNDA
  A75E aLATIN CAPITAL LETTER V WITH DIAGONAL STROKEbSMALL LETTER V WITH DIAGONAL STROKE
  A760 aLATIN CAPITAL LETTER VYbSMALL LETTER VYbCAPITAL LETTER VISIGOTHIC Z
  A763 aLATIN SMALL LETTER VISIGOTHIC ZbCAPITAL LETTER THORN WITH STROKE
  A765 aLATIN SMALL LETTER THORN WITH STROKEbCAPITAL LETTER THORN WITH STROKE THROUGH DESCENDER
  A767 aLATIN SMALL LETTER THORN WITH STROKE THROUGH DESCENDERbCAPITAL LETTER VEND
  A769 aLATIN SMALL LETTER VENDbCAPITAL LETTER ETbSMALL LETTER ETbCAPITAL LETTER IS
  A76D aLATIN SMALL LETTER ISbCAPITAL LETTER CONbSMALL LETTER CONaMODIFIER LETTER US
  A771 aLATIN SMALL LETTER DUMdLUMdMUMdNUMdRUMbLETTER SMALL CAPITAL RUMbSMALL LETTER TUMdUM
  A779 aLATIN CAPITAL LETTER INSULAR DbSMALL LETTER INSULAR DbCAPITAL LETTER INSULAR F
  A77C aLATIN SMALL LETTER INSULAR FbCAPITAL LETTER INSULAR GdTURNED INSULAR G
  A77F aLATIN SMALL LETTER TURNED INSULAR GbCAPITAL LETTER TURNED LbSMALL LETTER TURNED L
  A782 aLATIN CAPITAL LETTER INSULAR RbSMALL LETTER INSULAR RbCAPITAL LETTER INSULAR S
  A785 aLATIN SMALL LETTER INSULAR SbCAPITAL LETTER INSULAR TbSMALL LETTER INSULAR T
  A788 aMODIFIER LETTER LOW CIRCUMFLEX ACCENTcCOLONcSHORT EQUALS SIGN
  A78B aLATIN CAPITAL LETTER SALTILLObSMALL LETTER SALTILLObCAPITAL LETTER TURNED H
  A78E aLATIN SMALL LETTER L WITH RETROFLEX HOOK AND BELTbLETTER SINOLOGICAL DOT
  A790 aLATIN CAPITAL LETTER N WITH DESCENDERbSMALL LETTER N WITH DESCENDER
  A792 aLATIN CAPITAL LETTER C WITH BARbSMALL LETTER C WITH BARfPALATAL HOOKdH WITH PALATAL HOOK
  A796 aLATIN CAPITAL LETTER B WITH FLOURISHbSMALL LETTER B WITH FLOURISH
  A798 aLATIN CAPITAL LETTER F WITH STROKEbSMALL LETTER F WITH STROKEbCAPITAL LETTER VOLAPUK AE
  A79B aLATIN SMALL LETTER VOLAPUK AEbCAPITAL LETTER VOLAPUK OEbSMALL LETTER VOLAPUK OE
  A79E aLATIN CAPITAL LETTER VOLAPUK UEbSMALL LETTER VOLAPUK UE
  A7A0 aLATIN CAPITAL LETTER G WITH OBLIQUE STROKEbSMALL LETTER G WITH OBLIQUE STROKE
  A7A2 aLATIN CAPITAL LETTER K WITH OBLIQUE STROKEbSMALL LETTER K WITH OBLIQUE STROKE
  A7A4 aLATIN CAPITAL LETTER N WITH OBLIQUE STROKEbSMALL LETTER N WITH OBLIQUE STROKE
  A7A6 aLATIN CAPITAL LETTER R WITH OBLIQUE STROKEbSMALL LETTER R WITH OBLIQUE STROKE
  A7A8 aLATIN CAPITAL LETTER S WITH OBLIQUE STROKEbSMALL LETTER S WITH OBLIQUE STROKE
  A7AA aLATIN CAPITAL LETTER H WITH HOOKdREVERSED OPEN EdSCRIPT GdL WITH BELTdSMALL CAPITAL I
  A7AF aLATIN LETTER SMALL CAPITAL QbCAPITAL LETTER TURNED KeTdJ WITH CROSSED-TAILdCHIdBETA
  A7B5 aLATIN SMALL LETTER BETAbCAPITAL LETTER OMEGAbSMALL LETTER OMEGA
  A7B8 aLATIN CAPITAL LETTER U WITH STROKEbSMALL LETTER U WITH STROKEbCAPITAL LETTER GLOTTAL A
  A7BB aLATIN SMALL LETTER GLOTTAL AbCAPITAL LETTER GLOTTAL IbSMALL LETTER GLOTTAL I
  A7BE aLATIN CAPITAL LETTER GLOTTAL UbSMALL LETTER GLOTTAL UbCAPITAL LETTER OLD POLISH O
  A7C1 aLATIN SMALL LETTER OLD POLISH ObCAPITAL LETTER ANGLICANA WbSMALL LETTER ANGLICANA W
  A7C4 aLATIN CAPITAL LETTER C WITH PALATAL HOOKdS WITH HOOKdZ WITH PALATAL HOOK
  A7C7 aLATIN CAPITAL LETTER D WITH SHORT STROKE OVERLAYbSMALL LETTER D WITH SHORT STROKE OVERLAY
  A7C9 aLATIN CAPITAL LETTER S WITH SHORT STROKE OVERLAYbSMALL LETTER S WITH SHORT STROKE OVERLAY
  A7D0 aLATIN CAPITAL LETTER CLOSED INSULAR GbSMALL LETTER CLOSED INSULAR G
  A7D3 aLATIN SMALL LETTER DOUBLE THORN
  A7D5 aLATIN SMALL LETTER DOUBLE WYNNbCAPITAL LETTER MIDDLE SCOTS SbSMALL LETTER MIDDLE SCOTS S
  A7D8 aLATIN CAPITAL LETTER SIGMOID SbSMALL LETTER SIGMOID S
  A7F2 aMODIFIER LETTER CAPITAL CdFdQaLATIN CAPITAL LETTER REVERSED HALF H
  A7F6 aLATIN SMALL LETTER REVERSED HALF HbEPIGRAPHIC LETTER SIDEWAYS I
  A7F8 aMODIFIER LETTER CAPITAL H WITH STROKEcSMALL LIGATURE OE
  A7FA aLATIN LETTER SMALL CAPITAL TURNED MbEPIGRAPHIC LETTER REVERSED FePdINVERTED MdI LONGA
  A7FF aLATIN EPIGRAPHIC LETTER ARCHAIC MaSYLOTI NAGRI LETTER AdIcSIGN DVISVARAcLETTER UdEdO
  A806 aSYLOTI NAGRI SIGN HASANTAcLETTER KOdKHOdGOdGHOcSIGN ANUSVARAcLETTER COdCHOdJOdJHOdTTOdTTHO
  A812 aSYLOTI NAGRI LETTER DDOdDDHOdTOdTHOdDOdDHOdNOdPOdPHOdBOdBHOdMOdROdLOdRROdSOdHO
  A823 aSYLOTI NAGRI VOWEL SIGN AeIeUeEeOOcPOETRY MARK-1dMARK-2dMARK-3dMARK-4
  A82C aSYLOTI NAGRI SIGN ALTERNATE HASANTA
  A830 aNORTH INDIC FRACTION ONE QUARTEReHALFdTHREE QUARTERSdONE SIXTEENTHeEIGHTHdTHREE SIXTEENTHS
  A836 aNORTH INDIC QUARTER MARKcPLACEHOLDER MARKcRUPEE MARKcQUANTITY MARK
  A840 aPHAGS-PA LETTER KAcKHAcGAcNGAcCAcCHAcJAcNYAcTAcTHAcDAcNAcPAcPHAcBAcMAcTSAcTSHAcDZAcWAcZHA
  A855 aPHAGS-PA LETTER ZAcSMALL AcYAcRAcLAcSHAcSAcHAcAcIcUcEcOcQAcXAcFAcGGAcEE
  A867 aPHAGS-PA SUBJOINED LETTER WAdYAbLETTER TTAcTTHAcDDAcNNAcALTERNATE YAcVOICELESS SHA
  A86F aPHAGS-PA LETTER VOICED HAcASPIRATED FAbSUBJOINED LETTER RAbSUPERFIXED LETTER RA
  A873 aPHAGS-PA LETTER CANDRABINDUbSINGLE HEAD MARKbDOUBLE HEAD MARKbMARK SHADcDOUBLE SHAD
  A880 aSAURASHTRA SIGN ANUSVARAcVISARGAbLETTER AcAAcIcIIcUcUUcVOCALIC RdRRdLdLLcEcEEcAIcOcOOcAU
  A892 aSAURASHTRA LETTER KAcKHAcGAcGHAcNGAcCAcCHAcJAcJHAcNYAcTTAcTTHAcDDAcDDHAcNNAcTAcTHAcDAcDHA
  A8A5 aSAURASHTRA LETTER NAcPAcPHAcBAcBHAcMAcYAcRAcLAcVAcSHAcSSAcSAcHAcLLAbCONSONANT SIGN HAARU
  A8B5 aSAURASHTRA VOWEL SIGN AAdIdIIdUdUUdVOCALIC ReRReLeLLdEdEEdAIdOdOOdAUbSIGN VIRAMA
  A8C5 aSAURASHTRA SIGN CANDRABINDU
  A8CE aSAURASHTRA DANDAbDOUBLE DANDAbDIGIT ZEROcONEcTWOcTHREEcFOURcFIVEcSIXcSEVENcEIGHTcNINE
  A8E0 aCOMBINING DEVANAGARI DIGIT ZEROdONEdTWOdTHREEdFOURdFIVEdSIXdSEVENdEIGHTdNINEcLETTER AdUdKA
  A8ED aCOMBINING DEVANAGARI LETTER NAdPAdRAdVIcSIGN AVAGRAHAaDEVANAGARI SIGN SPACING CANDRABINDU
  A8F3 aDEVANAGARI SIGN CANDRABINDU VIRAMAcDOUBLE CANDRABINDU VIRAMAcCANDRABINDU TWOdTHREE
  A8F7 aDEVANAGARI SIGN CANDRABINDU AVAGRAHAcPUSHPIKAbGAP FILLERbCARETbHEADSTROKEbSIGN SIDDHAM
  A8FD aDEVANAGARI JAIN OMbLETTER AYbVOWEL SIGN AYaKAYAH LI DIGIT ZEROdONEdTWOdTHREEdFOURdFIVEdSIX
  A907 aKAYAH LI DIGIT SEVENdEIGHTdNINEcLETTER KAdKHAdGAdNGAdSAdSHAdZAdNYAdTAdHTAdNAdPAdPHAdMAdDA
  A919 aKAYAH LI LETTER BAdRAdYAdLAdWAdTHAdHAdVAdCAdAdOEdIdOOcVOWEL UEdEdUdEEdOcTONE PLOPHUdCALYA
  A92D aKAYAH LI TONE CALYA PLOPHUcSIGN CWIdSHYAaREJANG LETTER KAcGAcNGAcTAcDAcNAcPAcBAcMAcCAcJA
  A93B aREJANG LETTER NYAcSAcRAcLAcYAcWAcHAcMBAcNGGAcNDAcNYJAcAbVOWEL SIGN IdUdEdAIdOdAUdEUdEA
  A94F aREJANG CONSONANT SIGN NGdNdRdHbVIRAMA
  A95F aREJANG SECTION MARKaHANGUL CHOSEONG TIKEUT-MIEUMcTIKEUT-PIEUPcTIKEUT-SIOScTIKEUT-CIEUC
  A964 aHANGUL CHOSEONG RIEUL-KIYEOKcRIEUL-SSANGKIYEOKcRIEUL-TIKEUTcRIEUL-SSANGTIKEUTcRIEUL-MIEUM
  A969 aHANGUL CHOSEONG RIEUL-PIEUPcRIEUL-SSANGPIEUPcRIEUL-KAPYEOUNPIEUPcRIEUL-SIOScRIEUL-CIEUC
  A96E aHANGUL CHOSEONG RIEUL-KHIEUKHcMIEUM-KIYEOKcMIEUM-TIKEUTcMIEUM-SIOScPIEUP-SIOS-THIEUTH
  A973 aHANGUL CHOSEONG PIEUP-KHIEUKHcPIEUP-HIEUHcSSANGSIOS-PIEUPcIEUNG-RIEULcIEUNG-HIEUH
  A978 aHANGUL CHOSEONG SSANGCIEUC-HIEUHcSSANGTHIEUTHcPHIEUPH-HIEUHcHIEUH-SIOScSSANGYEORINHIEUH
  A980 aJAVANESE SIGN PANYANGGAcCECAKcLAYARcWIGNYANbLETTER AcI KAWIcIcIIcUcPA CEREKcNGA LELET
  A98B aJAVANESE LETTER NGA LELET RASWADIcEcAIcOcKAdSASAKdMURDAcGAdMURDAcNGAcCAdMURDAcJAcNYA MURDA
  A999 aJAVANESE LETTER JA MAHAPRANAcNYAcTTAdMAHAPRANAcDDAdMAHAPRANAcNA MURDAcTAdMURDAcDA
  A9A3 aJAVANESE LETTER DA MAHAPRANAcNAcPAdMURDAcBAdMURDAcMAcYAcRAdAGUNGcLAcWAcSA MURDAdMAHAPRANA
  A9B1 aJAVANESE LETTER SAcHAbSIGN CECAK TELUbVOWEL SIGN TARUNGdTOLONGdWULUeMELIKdSUKUeMENDUT
  A9BA aJAVANESE VOWEL SIGN TALINGdDIRGA MUREdPEPETbCONSONANT SIGN KERETdPENGKALdCAKRAbPANGKON
  A9C1 aJAVANESE LEFT RERENGGANbRIGHT RERENGGANbPADA ANDAPcMADYAcLUHURcWINDUcPANGKATcLINGSAcLUNGSI
  A9CA aJAVANESE PADA ADEGdADEGcPISELEHbTURNED PADA PISELEH
  A9CF aJAVANESE PANGRANGKEPbDIGIT ZEROcONEcTWOcTHREEcFOURcFIVEcSIXcSEVENcEIGHTcNINE
  A9DE aJAVANESE PADA TIRTA TUMETEScISEN-ISENaMYANMAR LETTER SHAN GHAdCHAdJHAdNNAdBHA
  A9E5 aMYANMAR SIGN SHAN SAWbMODIFIER LETTER SHAN REDUPLICATIONbLETTER TAI LAING NYAeFAeGAeGHAeJA
  A9EC aMYANMAR LETTER TAI LAING JHAeDDAeDDHAeNNAbTAI LAING DIGIT ZEROeONEeTWOeTHREEeFOUReFIVEeSIX
  A9F7 aMYANMAR TAI LAING DIGIT SEVENeEIGHTeNINEbLETTER TAI LAING LLAeDAeDHAeBAeBHA
  AA00 aCHAM LETTER AcIcUcEcAIcOcKAcKHAcGAcGHAcNGUEcNGAcCHAcCHHAcJAcJHAcNHUEcNHAcNHJAcTAcTHAcDA
  AA16 aCHAM LETTER DHAcNUEcNAcDDAcPAcPPAcPHAcBAcBHAcMUEcMAcBBAcYAcRAcLAcVAcSSAcSAcHA
  AA29 aCHAM VOWEL SIGN AAdIdIIdEIdUdOEdOdAIdAUdUEbCONSONANT SIGN YAdRAdLAdWA
  AA40 aCHAM LETTER FINAL KdGdNGbCONSONANT SIGN FINAL NGbLETTER FINAL CHdTdNdPdYdRdLdSS
  AA4C aCHAM CONSONANT SIGN FINAL MeH
  AA50 aCHAM DIGIT ZEROcONEcTWOcTHREEcFOURcFIVEcSIXcSEVENcEIGHTcNINE
  AA5C aCHAM PUNCTUATION SPIRALcDANDAcDOUBLE DANDAcTRIPLE DANDAaMYANMAR LETTER KHAMTI GAdCAdCHAdJA
  AA64 aMYANMAR LETTER KHAMTI JHAdNYAdTTAdTTHAdDDAdDDHAdDHAdNAdSAdHAdHHAdFA
  AA70 aMYANMAR MODIFIER LETTER KHAMTI REDUPLICATIONbLETTER KHAMTI XAdZAdRAbLOGOGRAM KHAMTI OAYdQN
  AA76 aMYANMAR LOGOGRAM KHAMTI HMbSYMBOL AITON EXCLAMATIONdONEdTWObLETTER AITON RA
  AA7B aMYANMAR SIGN PAO KAREN TONEcTAI LAING TONE-2eTONE-5bLETTER SHWE PALAUNG CHAeSHA
  AA80 aTAI VIET LETTER LOW KOdHIGH KOdLOW KHOdHIGH KHOdLOW KHHOdHIGH KHHOdLOW GOdHIGH GOdLOW NGO
  AA89 aTAI VIET LETTER HIGH NGOdLOW COdHIGH COdLOW CHOdHIGH CHOdLOW SOdHIGH SOdLOW NYOdHIGH NYO
  AA92 aTAI VIET LETTER LOW DOdHIGH DOdLOW TOdHIGH TOdLOW THOdHIGH THOdLOW NOdHIGH NOdLOW BO
  AA9B aTAI VIET LETTER HIGH BOdLOW POdHIGH POdLOW PHOdHIGH PHOdLOW FOdHIGH FOdLOW MOdHIGH MO
  AAA4 aTAI VIET LETTER LOW YOdHIGH YOdLOW ROdHIGH ROdLOW LOdHIGH LOdLOW VOdHIGH VOdLOW HOdHIGH HO
  AAAE aTAI VIET LETTER LOW OdHIGH OcMAI KANGcVOWEL AAdIdUEdUdEdOcMAI KHITcVOWEL IAdUEAdUAdAUEdAY
  AABD aTAI VIET VOWEL ANdAMcTONE MAI EKeNUENGeTHOeSONG
  AADB aTAI VIET SYMBOL KONdNUENGdSAMdHO HOIdKOI KOIaMEETEI MAYEK LETTER EdOdCHAdNYAdTTAdTTHAdDDA
  AAE7 aMEETEI MAYEK LETTER DDHAdNNAdSHAdSSAcVOWEL SIGN IIeUUeAAIeAUeAAUcCHEIKHANcAHANG KHUDAM
  AAF2 aMEETEI MAYEK ANJIcSYLLABLE REPETITION MARKcWORD REPETITION MARKcVOWEL SIGN VISARGAcVIRAMA
  AB01 aETHIOPIC SYLLABLE TTHUcTTHIcTTHAAcTTHEEcTTHEcTTHO
  AB09 aETHIOPIC SYLLABLE DDHUcDDHIcDDHAAcDDHEEcDDHEcDDHO
  AB11 aETHIOPIC SYLLABLE DZUcDZIcDZAAcDZEEcDZEcDZO
  AB20 aETHIOPIC SYLLABLE CCHHAcCCHHUcCCHHIcCCHHAAcCCHHEEcCCHHEcCCHHO
  AB28 aETHIOPIC SYLLABLE BBAcBBUcBBIcBBAAcBBEEcBBEcBBO
  AB30 aLATIN SMALL LETTER BARRED ALPHAdA REVERSED-SCHWAdBLACKLETTER EdBARRED EdE WITH FLOURISH
  AB35 aLATIN SMALL LETTER LENIS FdSCRIPT G WITH CROSSED-TAILdL WITH INVERTED LAZY S
  AB38 aLATIN SMALL LETTER L WITH DOUBLE MIDDLE TILDEfMIDDLE RINGdM WITH CROSSED-TAIL
  AB3B aLATIN SMALL LETTER N WITH CROSSED-TAILdENG WITH CROSSED-TAILdBLACKLETTER OfWITH STROKE
  AB3F aLATIN SMALL LETTER OPEN O WITH STROKEdINVERTED OEdTURNED OE WITH STROKEgHORIZONTAL STROKE
  AB43 aLATIN SMALL LETTER TURNED O OPEN-OgWITH STROKEdSTIRRUP R
  AB46 aLATIN LETTER SMALL CAPITAL R WITH RIGHT LEGbSMALL LETTER R WITHOUT HANDLEdDOUBLE R
  AB49 aLATIN SMALL LETTER R WITH CROSSED-TAILdDOUBLE R WITH CROSSED-TAILdSCRIPT RfWITH RING
  AB4D aLATIN SMALL LETTER BASELINE ESHdU WITH SHORT RIGHT LEGeBAR WITH SHORT RIGHT LEGdUI
  AB51 aLATIN SMALL LETTER TURNED UIdU WITH LEFT HOOKdCHIeWITH LOW RIGHT RINGgLEFT SERIF
  AB56 aLATIN SMALL LETTER X WITH LOW RIGHT RINGfLONG LEFT LEGiAND LOW RIGHT RINGiWITH SERIF
  AB5A aLATIN SMALL LETTER Y WITH SHORT RIGHT LEGaMODIFIER BREVE WITH INVERTED BREVE
  AB5C aMODIFIER LETTER SMALL HENGdL WITH INVERTED LAZY SfMIDDLE TILDEdU WITH LEFT HOOK
  AB60 aLATIN SMALL LETTER SAKHA YATdIOTIFIED EdOPEN OEdUOdINVERTED ALPHA
  AB65 aGREEK LETTER SMALL CAPITAL OMEGAaLATIN SMALL LETTER DZ DIGRAPH WITH RETROFLEX HOOK
  AB67 aLATIN SMALL LETTER TS DIGRAPH WITH RETROFLEX HOOKdTURNED R WITH MIDDLE TILDE
  AB69 aMODIFIER LETTER SMALL TURNED WcLEFT TACKcRIGHT TACK
  AB70 aCHEROKEE SMALL LETTER AdEdIdOdUdVdGAdKAdGEdGIdGOdGUdGVdHAdHEdHIdHOdHUdHVdLAdLEdLIdLOdLUdLV
  AB89 aCHEROKEE SMALL LETTER MAdMEdMIdMOdMUdNAdHNAdNAHdNEdNIdNOdNUdNVdQUAdQUEdQUIdQUOdQUUdQUVdSA
  AB9D aCHEROKEE SMALL LETTER SdSEdSIdSOdSUdSVdDAdTAdDEdTEdDIdTIdDOdDUdDVdDLAdTLAdTLEdTLIdTLOdTLU
  ABB2 aCHEROKEE SMALL LETTER TLVdTSAdTSEdTSIdTSOdTSUdTSVdWAdWEdWIdWOdWUdWVdYA
  ABC0 aMEETEI MAYEK LETTER KOKdSAMdLAIdMITdPAdNAdCHILdTILdKHOUdNGOUdTHOUdWAIdYANGdHUKdUNdIdPHAM
  ABD1 aMEETEI MAYEK LETTER ATIYAdGOKdJHAMdRAIdBAdJILdDILdGHOUdDHOUdBHAMdKOK LONSUMdLAI LONSUM
  ABDD aMEETEI MAYEK LETTER MIT LONSUMdPA LONSUMdNA LONSUMdTIL LONSUMdNGOU LONSUMdI LONSUM
  ABE3 aMEETEI MAYEK VOWEL SIGN ONAPeINAPeANAPeYENAPeSOUNAPeUNAPeCHEINAPeNUNGcCHEIKHEIcLUM IYEK
  ABED aMEETEI MAYEK APUN IYEK
  ABF0 aMEETEI MAYEK DIGIT ZEROdONEdTWOdTHREEdFOURdFIVEdSIXdSEVENdEIGHTdNINE
  D7B0 aHANGUL JUNGSEONG O-YEOcO-O-IcYO-AcYO-AEcYO-EOcU-YEOcU-I-IcYU-AEcYU-OcEU-AcEU-EOcEU-EcEU-O
  D7BD aHANGUL JUNGSEONG I-YA-OcI-YAEcI-YEOcI-YEcI-O-IcI-YOcI-YUcI-IcARAEA-AcARAEA-E
  D7CB aHANGUL JONGSEONG NIEUN-RIEULcNIEUN-CHIEUCHcSSANGTIKEUTcSSANGTIKEUT-PIEUPcTIKEUT-PIEUP
  D7D0 aHANGUL JONGSEONG TIKEUT-SIOScTIKEUT-SIOS-KIYEOKcTIKEUT-CIEUCcTIKEUT-CHIEUCHcTIKEUT-THIEUTH
  D7D5 aHANGUL JONGSEONG RIEUL-SSANGKIYEOKcRIEUL-KIYEOK-HIEUHcSSANGRIEUL-KHIEUKHcRIEUL-MIEUM-HIEUH
  D7D9 aHANGUL JONGSEONG RIEUL-PIEUP-TIKEUTcRIEUL-PIEUP-PHIEUPHcRIEUL-YESIEUNG
  D7DC aHANGUL JONGSEONG RIEUL-YEORINHIEUH-HIEUHcKAPYEOUNRIEULcMIEUM-NIEUNcMIEUM-SSANGNIEUN
  D7E0 aHANGUL JONGSEONG SSANGMIEUMcMIEUM-PIEUP-SIOScMIEUM-CIEUCcPIEUP-TIKEUTcPIEUP-RIEUL-PHIEUPH
  D7E5 aHANGUL JONGSEONG PIEUP-MIEUMcSSANGPIEUPcPIEUP-SIOS-TIKEUTcPIEUP-CIEUCcPIEUP-CHIEUCH
  D7EA aHANGUL JONGSEONG SIOS-MIEUMcSIOS-KAPYEOUNPIEUPcSSANGSIOS-KIYEOKcSSANGSIOS-TIKEUT
  D7EE aHANGUL JONGSEONG SIOS-PANSIOScSIOS-CIEUCcSIOS-CHIEUCHcSIOS-THIEUTHcSIOS-HIEUH
  D7F3 aHANGUL JONGSEONG PANSIOS-PIEUPcPANSIOS-KAPYEOUNPIEUPcYESIEUNG-MIEUMcYESIEUNG-HIEUH
  D7F7 aHANGUL JONGSEONG CIEUC-PIEUPcCIEUC-SSANGPIEUPcSSANGCIEUCcPHIEUPH-SIOScPHIEUPH-THIEUTH
  FB00 aLATIN SMALL LIGATURE FFdFIdFLdFFIdFFLdLONG S TdST
  FB13 aARMENIAN SMALL LIGATURE MEN NOWeECHeINIdVEW NOWdMEN XEH
  FB1D aHEBREW LETTER YOD WITH HIRIQbPOINT JUDEO-SPANISH VARIKAbLIGATURE YIDDISH YOD YOD PATAH
  FB20 aHEBREW LETTER ALTERNATIVE AYINcWIDE ALEFdDALETdHEdKAFdLAMEDdFINAL MEMdRESHdTAV
  FB29 aHEBREW LETTER ALTERNATIVE PLUS SIGNcSHIN WITH SHIN DOTeSIN DOTeDAGESH AND SHIN DOTgSIN DOT
  FB2E aHEBREW LETTER ALEF WITH PATAHeQAMATSeMAPIQcBET WITH DAGESHcGIMEL WITH DAGESH
  FB33 aHEBREW LETTER DALET WITH DAGESHcHE WITH MAPIQcVAV WITH DAGESHcZAYIN WITH DAGESH
  FB38 aHEBREW LETTER TET WITH DAGESHcYOD WITH DAGESHcFINAL KAF WITH DAGESHcKAF WITH DAGESH
  FB3C aHEBREW LETTER LAMED WITH DAGESH
  FB3E aHEBREW LETTER MEM WITH DAGESH
  FB40 aHEBREW LETTER NUN WITH DAGESHcSAMEKH WITH DAGESH
  FB43 aHEBREW LETTER FINAL PE WITH DAGESHcPE WITH DAGESH
  FB46 aHEBREW LETTER TSADI WITH DAGESHcQOF WITH DAGESHcRESH WITH DAGESHcSHIN WITH DAGESH
  FB4A aHEBREW LETTER TAV WITH DAGESHcVAV WITH HOLAMcBET WITH RAFEcKAF WITH RAFEcPE WITH RAFE
  FB4F aHEBREW LIGATURE ALEF LAMEDaARABIC LETTER ALEF WASLA ISOLATED FORMeFINAL FORM
  FB52 aARABIC LETTER BEEH ISOLATED FORMdFINAL FORMdINITIAL FORMdMEDIAL FORMcPEH ISOLATED FORM
  FB57 aARABIC LETTER PEH FINAL FORMdINITIAL FORMdMEDIAL FORMcBEHEH ISOLATED FORMdFINAL FORM
  FB5C aARABIC LETTER BEHEH INITIAL FORMdMEDIAL FORMcTTEHEH ISOLATED FORMdFINAL FORMdINITIAL FORM
  FB61 aARABIC LETTER TTEHEH MEDIAL FORMcTEHEH ISOLATED FORMdFINAL FORMdINITIAL FORMdMEDIAL FORM
  FB66 aARABIC LETTER TTEH ISOLATED FORMdFINAL FORMdINITIAL FORMdMEDIAL FORMcVEH ISOLATED FORM
  FB6B aARABIC LETTER VEH FINAL FORMdINITIAL FORMdMEDIAL FORMcPEHEH ISOLATED FORMdFINAL FORM
  FB70 aARABIC LETTER PEHEH INITIAL FORMdMEDIAL FORMcDYEH ISOLATED FORMdFINAL FORMdINITIAL FORM
  FB75 aARABIC LETTER DYEH MEDIAL FORMcNYEH ISOLATED FORMdFINAL FORMdINITIAL FORMdMEDIAL FORM
  FB7A aARABIC LETTER TCHEH ISOLATED FORMdFINAL FORMdINITIAL FORMdMEDIAL FORM
  FB7E aARABIC LETTER TCHEHEH ISOLATED FORMdFINAL FORMdINITIAL FORMdMEDIAL FORM
  FB82 aARABIC LETTER DDAHAL ISOLATED FORMdFINAL FORMcDAHAL ISOLATED FORMdFINAL FORM
  FB86 aARABIC LETTER DUL ISOLATED FORMdFINAL FORMcDDAL ISOLATED FORMdFINAL FORMcJEH ISOLATED FORM
  FB8B aARABIC LETTER JEH FINAL FORMcRREH ISOLATED FORMdFINAL FORMcKEHEH ISOLATED FORMdFINAL FORM
  FB90 aARABIC LETTER KEHEH INITIAL FORMdMEDIAL FORMcGAF ISOLATED FORMdFINAL FORMdINITIAL FORM
  FB95 aARABIC LETTER GAF MEDIAL FORMcGUEH ISOLATED FORMdFINAL FORMdINITIAL FORMdMEDIAL FORM
  FB9A aARABIC LETTER NGOEH ISOLATED FORMdFINAL FORMdINITIAL FORMdMEDIAL FORM
  FB9E aARABIC LETTER NOON GHUNNA ISOLATED FORMeFINAL FORMcRNOON ISOLATED FORMdFINAL FORM
  FBA2 aARABIC LETTER RNOON INITIAL FORMdMEDIAL FORMcHEH WITH YEH ABOVE ISOLATED FORMgFINAL FORM
  FBA6 aARABIC LETTER HEH GOAL ISOLATED FORMeFINAL FORMeINITIAL FORMeMEDIAL FORM
  FBAA aARABIC LETTER HEH DOACHASHMEE ISOLATED FORMeFINAL FORMeINITIAL FORMeMEDIAL FORM
  FBAE aARABIC LETTER YEH BARREE ISOLATED FORMeFINAL FORMeWITH HAMZA ABOVE ISOLATED FORM
  FBB1 aARABIC LETTER YEH BARREE WITH HAMZA ABOVE FINAL FORMbSYMBOL DOT ABOVEdBELOWcTWO DOTS ABOVE
  FBB5 aARABIC SYMBOL TWO DOTS BELOWcTHREE DOTS ABOVEeBELOWePOINTING DOWNWARDS ABOVEgBELOW
  FBBA aARABIC SYMBOL FOUR DOTS ABOVEeBELOWcDOUBLE VERTICAL BAR BELOWcTWO DOTS VERTICALLY ABOVE
  FBBE aARABIC SYMBOL TWO DOTS VERTICALLY BELOWcRINGcSMALL TAH ABOVEeBELOWcWASLA ABOVE
  FBD3 aARABIC LETTER NG ISOLATED FORMdFINAL FORMdINITIAL FORMdMEDIAL FORMcU ISOLATED FORM
  FBD8 aARABIC LETTER U FINAL FORMcOE ISOLATED FORMdFINAL FORMcYU ISOLATED FORMdFINAL FORM
  FBDD aARABIC LETTER U WITH HAMZA ABOVE ISOLATED FORMcVE ISOLATED FORMdFINAL FORM
  FBE0 aARABIC LETTER KIRGHIZ OE ISOLATED FORMeFINAL FORMdYU ISOLATED FORMeFINAL FORM
  FBE4 aARABIC LETTER E ISOLATED FORMdFINAL FORMdINITIAL FORMdMEDIAL FORM
  FBE8 aARABIC LETTER UIGHUR KAZAKH KIRGHIZ ALEF MAKSURA INITIAL FORMhMEDIAL FORM
  FBEA aARABIC LIGATURE YEH WITH HAMZA ABOVE WITH ALEF ISOLATED FORMiFINAL FORMhAE ISOLATED FORM
  FBED aARABIC LIGATURE YEH WITH HAMZA ABOVE WITH AE FINAL FORMhWAW ISOLATED FORMiFINAL FORM
  FBF0 aARABIC LIGATURE YEH WITH HAMZA ABOVE WITH U ISOLATED FORMiFINAL FORMhOE ISOLATED FORM
  FBF3 aARABIC LIGATURE YEH WITH HAMZA ABOVE WITH OE FINAL FORMhYU ISOLATED FORMiFINAL FORM
  FBF6 aARABIC LIGATURE YEH WITH HAMZA ABOVE WITH E ISOLATED FORMiFINAL FORMiINITIAL FORM
  FBF9 aARABIC LIGATURE UIGHUR KIRGHIZ YEH WITH HAMZA ABOVE WITH ALEF MAKSURA ISOLATED FORM
  FBFA aARABIC LIGATURE UIGHUR KIRGHIZ YEH WITH HAMZA ABOVE WITH ALEF MAKSURA FINAL FORM
  FBFB aARABIC LIGATURE UIGHUR KIRGHIZ YEH WITH HAMZA ABOVE WITH ALEF MAKSURA INITIAL FORM
  FBFC aARABIC LETTER FARSI YEH ISOLATED FORMeFINAL FORMeINITIAL FORMeMEDIAL FORM
  FC00 aARABIC LIGATURE YEH WITH HAMZA ABOVE WITH JEEM ISOLATED FORMhHAH ISOLATED FORM
  FC02 aARABIC LIGATURE YEH WITH HAMZA ABOVE WITH MEEM ISOLATED FORMhALEF MAKSURA ISOLATED FORM
  FC04 aARABIC LIGATURE YEH WITH HAMZA ABOVE WITH YEH ISOLATED FORMcBEH WITH JEEM ISOLATED FORM
  FC06 aARABIC LIGATURE BEH WITH HAH ISOLATED FORMeKHAH ISOLATED FORMeMEEM ISOLATED FORM
  FC09 aARABIC LIGATURE BEH WITH ALEF MAKSURA ISOLATED FORMeYEH ISOLATED FORM
  FC0B aARABIC LIGATURE TEH WITH JEEM ISOLATED FORMeHAH ISOLATED FORMeKHAH ISOLATED FORM
  FC0E aARABIC LIGATURE TEH WITH MEEM ISOLATED FORMeALEF MAKSURA ISOLATED FORMeYEH ISOLATED FORM
  FC11 aARABIC LIGATURE THEH WITH JEEM ISOLATED FORMeMEEM ISOLATED FORMeALEF MAKSURA ISOLATED FORM
  FC14 aARABIC LIGATURE THEH WITH YEH ISOLATED FORMcJEEM WITH HAH ISOLATED FORMeMEEM ISOLATED FORM
  FC17 aARABIC LIGATURE HAH WITH JEEM ISOLATED FORMeMEEM ISOLATED FORM
  FC19 aARABIC LIGATURE KHAH WITH JEEM ISOLATED FORMeHAH ISOLATED FORMeMEEM ISOLATED FORM
  FC1C aARABIC LIGATURE SEEN WITH JEEM ISOLATED FORMeHAH ISOLATED FORMeKHAH ISOLATED FORM
  FC1F aARABIC LIGATURE SEEN WITH MEEM ISOLATED FORMcSAD WITH HAH ISOLATED FORMeMEEM ISOLATED FORM
  FC22 aARABIC LIGATURE DAD WITH JEEM ISOLATED FORMeHAH ISOLATED FORMeKHAH ISOLATED FORM
  FC25 aARABIC LIGATURE DAD WITH MEEM ISOLATED FORMcTAH WITH HAH ISOLATED FORMeMEEM ISOLATED FORM
  FC28 aARABIC LIGATURE ZAH WITH MEEM ISOLATED FORMcAIN WITH JEEM ISOLATED FORMeMEEM ISOLATED FORM
  FC2B aARABIC LIGATURE GHAIN WITH JEEM ISOLATED FORMeMEEM ISOLATED FORM
  FC2D aARABIC LIGATURE FEH WITH JEEM ISOLATED FORMeHAH ISOLATED FORMeKHAH ISOLATED FORM
  FC30 aARABIC LIGATURE FEH WITH MEEM ISOLATED FORMeALEF MAKSURA ISOLATED FORMeYEH ISOLATED FORM
  FC33 aARABIC LIGATURE QAF WITH HAH ISOLATED FORMeMEEM ISOLATED FORMeALEF MAKSURA ISOLATED FORM
  FC36 aARABIC LIGATURE QAF WITH YEH ISOLATED FORMcKAF WITH ALEF ISOLATED FORMeJEEM ISOLATED FORM
  FC39 aARABIC LIGATURE KAF WITH HAH ISOLATED FORMeKHAH ISOLATED FORMeLAM ISOLATED FORM
  FC3C aARABIC LIGATURE KAF WITH MEEM ISOLATED FORMeALEF MAKSURA ISOLATED FORMeYEH ISOLATED FORM
  FC3F aARABIC LIGATURE LAM WITH JEEM ISOLATED FORMeHAH ISOLATED FORMeKHAH ISOLATED FORM
  FC42 aARABIC LIGATURE LAM WITH MEEM ISOLATED FORMeALEF MAKSURA ISOLATED FORMeYEH ISOLATED FORM
  FC45 aARABIC LIGATURE MEEM WITH JEEM ISOLATED FORMeHAH ISOLATED FORMeKHAH ISOLATED FORM
  FC48 aARABIC LIGATURE MEEM WITH MEEM ISOLATED FORMeALEF MAKSURA ISOLATED FORMeYEH ISOLATED FORM
  FC4B aARABIC LIGATURE NOON WITH JEEM ISOLATED FORMeHAH ISOLATED FORMeKHAH ISOLATED FORM
  FC4E aARABIC LIGATURE NOON WITH MEEM ISOLATED FORMeALEF MAKSURA ISOLATED FORMeYEH ISOLATED FORM
  FC51 aARABIC LIGATURE HEH WITH JEEM ISOLATED FORMeMEEM ISOLATED FORMeALEF MAKSURA ISOLATED FORM
  FC54 aARABIC LIGATURE HEH WITH YEH ISOLATED FORMcYEH WITH JEEM ISOLATED FORMeHAH ISOLATED FORM
  FC57 aARABIC LIGATURE YEH WITH KHAH ISOLATED FORMeMEEM ISOLATED FORMeALEF MAKSURA ISOLATED FORM
  FC5A aARABIC LIGATURE YEH WITH YEH ISOLATED FORMcTHAL WITH SUPERSCRIPT ALEF ISOLATED FORM
  FC5C aARABIC LIGATURE REH WITH SUPERSCRIPT ALEF ISOLATED FORM
  FC5D aARABIC LIGATURE ALEF MAKSURA WITH SUPERSCRIPT ALEF ISOLATED FORM
  FC5E aARABIC LIGATURE SHADDA WITH DAMMATAN ISOLATED FORMeKASRATAN ISOLATED FORM
  FC60 aARABIC LIGATURE SHADDA WITH FATHA ISOLATED FORMeDAMMA ISOLATED FORMeKASRA ISOLATED FORM
  FC63 aARABIC LIGATURE SHADDA WITH SUPERSCRIPT ALEF ISOLATED FORM
  FC64 aARABIC LIGATURE YEH WITH HAMZA ABOVE WITH REH FINAL FORMhZAIN FINAL FORMhMEEM FINAL FORM
  FC67 aARABIC LIGATURE YEH WITH HAMZA ABOVE WITH NOON FINAL FORMhALEF MAKSURA FINAL FORM
  FC69 aARABIC LIGATURE YEH WITH HAMZA ABOVE WITH YEH FINAL FORMcBEH WITH REH FINAL FORM
  FC6B aARABIC LIGATURE BEH WITH ZAIN FINAL FORMeMEEM FINAL FORMeNOON FINAL FORM
  FC6E aARABIC LIGATURE BEH WITH ALEF MAKSURA FINAL FORMeYEH FINAL FORMcTEH WITH REH FINAL FORM
  FC71 aARABIC LIGATURE TEH WITH ZAIN FINAL FORMeMEEM FINAL FORMeNOON FINAL FORM
  FC74 aARABIC LIGATURE TEH WITH ALEF MAKSURA FINAL FORMeYEH FINAL FORMcTHEH WITH REH FINAL FORM
  FC77 aARABIC LIGATURE THEH WITH ZAIN FINAL FORMeMEEM FINAL FORMeNOON FINAL FORM
  FC7A aARABIC LIGATURE THEH WITH ALEF MAKSURA FINAL FORMeYEH FINAL FORM
  FC7C aARABIC LIGATURE FEH WITH ALEF MAKSURA FINAL FORMeYEH FINAL FORM
  FC7E aARABIC LIGATURE QAF WITH ALEF MAKSURA FINAL FORMeYEH FINAL FORMcKAF WITH ALEF FINAL FORM
  FC81 aARABIC LIGATURE KAF WITH LAM FINAL FORMeMEEM FINAL FORMeALEF MAKSURA FINAL FORM
  FC84 aARABIC LIGATURE KAF WITH YEH FINAL FORMcLAM WITH MEEM FINAL FORMeALEF MAKSURA FINAL FORM
  FC87 aARABIC LIGATURE LAM WITH YEH FINAL FORMcMEEM WITH ALEF FINAL FORMeMEEM FINAL FORM
  FC8A aARABIC LIGATURE NOON WITH REH FINAL FORMeZAIN FINAL FORMeMEEM FINAL FORMeNOON FINAL FORM
  FC8E aARABIC LIGATURE NOON WITH ALEF MAKSURA FINAL FORMeYEH FINAL FORM
  FC90 aARABIC LIGATURE ALEF MAKSURA WITH SUPERSCRIPT ALEF FINAL FORMcYEH WITH REH FINAL FORM
  FC92 aARABIC LIGATURE YEH WITH ZAIN FINAL FORMeMEEM FINAL FORMeNOON FINAL FORM
  FC95 aARABIC LIGATURE YEH WITH ALEF MAKSURA FINAL FORMeYEH FINAL FORM
  FC97 aARABIC LIGATURE YEH WITH HAMZA ABOVE WITH JEEM INITIAL FORMhHAH INITIAL FORM
  FC99 aARABIC LIGATURE YEH WITH HAMZA ABOVE WITH KHAH INITIAL FORMhMEEM INITIAL FORM
  FC9B aARABIC LIGATURE YEH WITH HAMZA ABOVE WITH HEH INITIAL FORMcBEH WITH JEEM INITIAL FORM
  FC9D aARABIC LIGATURE BEH WITH HAH INITIAL FORMeKHAH INITIAL FORMeMEEM INITIAL FORM
  FCA0 aARABIC LIGATURE BEH WITH HEH INITIAL FORMcTEH WITH JEEM INITIAL FORMeHAH INITIAL FORM
  FCA3 aARABIC LIGATURE TEH WITH KHAH INITIAL FORMeMEEM INITIAL FORMeHEH INITIAL FORM
  FCA6 aARABIC LIGATURE THEH WITH MEEM INITIAL FORMcJEEM WITH HAH INITIAL FORMeMEEM INITIAL FORM
  FCA9 aARABIC LIGATURE HAH WITH JEEM INITIAL FORMeMEEM INITIAL FORMcKHAH WITH JEEM INITIAL FORM
  FCAC aARABIC LIGATURE KHAH WITH MEEM INITIAL FORMcSEEN WITH JEEM INITIAL FORMeHAH INITIAL FORM
  FCAF aARABIC LIGATURE SEEN WITH KHAH INITIAL FORMeMEEM INITIAL FORMcSAD WITH HAH INITIAL FORM
  FCB2 aARABIC LIGATURE SAD WITH KHAH INITIAL FORMeMEEM INITIAL FORMcDAD WITH JEEM INITIAL FORM
  FCB5 aARABIC LIGATURE DAD WITH HAH INITIAL FORMeKHAH INITIAL FORMeMEEM INITIAL FORM
  FCB8 aARABIC LIGATURE TAH WITH HAH INITIAL FORMcZAH WITH MEEM INITIAL FORM
  FCBA aARABIC LIGATURE AIN WITH JEEM INITIAL FORMeMEEM INITIAL FORMcGHAIN WITH JEEM INITIAL FORM
  FCBD aARABIC LIGATURE GHAIN WITH MEEM INITIAL FORMcFEH WITH JEEM INITIAL FORMeHAH INITIAL FORM
  FCC0 aARABIC LIGATURE FEH WITH KHAH INITIAL FORMeMEEM INITIAL FORMcQAF WITH HAH INITIAL FORM
  FCC3 aARABIC LIGATURE QAF WITH MEEM INITIAL FORMcKAF WITH JEEM INITIAL FORMeHAH INITIAL FORM
  FCC6 aARABIC LIGATURE KAF WITH KHAH INITIAL FORMeLAM INITIAL FORMeMEEM INITIAL FORM
  FCC9 aARABIC LIGATURE LAM WITH JEEM INITIAL FORMeHAH INITIAL FORMeKHAH INITIAL FORM
  FCCC aARABIC LIGATURE LAM WITH MEEM INITIAL FORMeHEH INITIAL FORMcMEEM WITH JEEM INITIAL FORM
  FCCF aARABIC LIGATURE MEEM WITH HAH INITIAL FORMeKHAH INITIAL FORMeMEEM INITIAL FORM
  FCD2 aARABIC LIGATURE NOON WITH JEEM INITIAL FORMeHAH INITIAL FORMeKHAH INITIAL FORM
  FCD5 aARABIC LIGATURE NOON WITH MEEM INITIAL FORMeHEH INITIAL FORMcHEH WITH JEEM INITIAL FORM
  FCD8 aARABIC LIGATURE HEH WITH MEEM INITIAL FORMeSUPERSCRIPT ALEF INITIAL FORM
  FCDA aARABIC LIGATURE YEH WITH JEEM INITIAL FORMeHAH INITIAL FORMeKHAH INITIAL FORM
  FCDD aARABIC LIGATURE YEH WITH MEEM INITIAL FORMeHEH INITIAL FORM
  FCDF aARABIC LIGATURE YEH WITH HAMZA ABOVE WITH MEEM MEDIAL FORMhHEH MEDIAL FORM
  FCE1 aARABIC LIGATURE BEH WITH MEEM MEDIAL FORMeHEH MEDIAL FORMcTEH WITH MEEM MEDIAL FORM
  FCE4 aARABIC LIGATURE TEH WITH HEH MEDIAL FORMcTHEH WITH MEEM MEDIAL FORMeHEH MEDIAL FORM
  FCE7 aARABIC LIGATURE SEEN WITH MEEM MEDIAL FORMeHEH MEDIAL FORMcSHEEN WITH MEEM MEDIAL FORM
  FCEA aARABIC LIGATURE SHEEN WITH HEH MEDIAL FORMcKAF WITH LAM MEDIAL FORMeMEEM MEDIAL FORM
  FCED aARABIC LIGATURE LAM WITH MEEM MEDIAL FORMcNOON WITH MEEM MEDIAL FORMeHEH MEDIAL FORM
  FCF0 aARABIC LIGATURE YEH WITH MEEM MEDIAL FORMeHEH MEDIAL FORMcSHADDA WITH FATHA MEDIAL FORM
  FCF3 aARABIC LIGATURE SHADDA WITH DAMMA MEDIAL FORMeKASRA MEDIAL FORM
  FCF5 aARABIC LIGATURE TAH WITH ALEF MAKSURA ISOLATED FORMeYEH ISOLATED FORM
  FCF7 aARABIC LIGATURE AIN WITH ALEF MAKSURA ISOLATED FORMeYEH ISOLATED FORM
  FCF9 aARABIC LIGATURE GHAIN WITH ALEF MAKSURA ISOLATED FORMeYEH ISOLATED FORM
  FCFB aARABIC LIGATURE SEEN WITH ALEF MAKSURA ISOLATED FORMeYEH ISOLATED FORM
  FCFD aARABIC LIGATURE SHEEN WITH ALEF MAKSURA ISOLATED FORMeYEH ISOLATED FORM
  FCFF aARABIC LIGATURE HAH WITH ALEF MAKSURA ISOLATED FORMeYEH ISOLATED FORM
  FD01 aARABIC LIGATURE JEEM WITH ALEF MAKSURA ISOLATED FORMeYEH ISOLATED FORM
  FD03 aARABIC LIGATURE KHAH WITH ALEF MAKSURA ISOLATED FORMeYEH ISOLATED FORM
  FD05 aARABIC LIGATURE SAD WITH ALEF MAKSURA ISOLATED FORMeYEH ISOLATED FORM
  FD07 aARABIC LIGATURE DAD WITH ALEF MAKSURA ISOLATED FORMeYEH ISOLATED FORM
  FD09 aARABIC LIGATURE SHEEN WITH JEEM ISOLATED FORMeHAH ISOLATED FORMeKHAH ISOLATED FORM
  FD0C aARABIC LIGATURE SHEEN WITH MEEM ISOLATED FORMeREH ISOLATED FORM
  FD0E aARABIC LIGATURE SEEN WITH REH ISOLATED FORMcSAD WITH REH ISOLATED FORM
  FD10 aARABIC LIGATURE DAD WITH REH ISOLATED FORMcTAH WITH ALEF MAKSURA FINAL FORMeYEH FINAL FORM
  FD13 aARABIC LIGATURE AIN WITH ALEF MAKSURA FINAL FORMeYEH FINAL FORM
  FD15 aARABIC LIGATURE GHAIN WITH ALEF MAKSURA FINAL FORMeYEH FINAL FORM
  FD17 aARABIC LIGATURE SEEN WITH ALEF MAKSURA FINAL FORMeYEH FINAL FORM
  FD19 aARABIC LIGATURE SHEEN WITH ALEF MAKSURA FINAL FORMeYEH FINAL FORM
  FD1B aARABIC LIGATURE HAH WITH ALEF MAKSURA FINAL FORMeYEH FINAL FORM
  FD1D aARABIC LIGATURE JEEM WITH ALEF MAKSURA FINAL FORMeYEH FINAL FORM
  FD1F aARABIC LIGATURE KHAH WITH ALEF MAKSURA FINAL FORMeYEH FINAL FORM
  FD21 aARABIC LIGATURE SAD WITH ALEF MAKSURA FINAL FORMeYEH FINAL FORM
  FD23 aARABIC LIGATURE DAD WITH ALEF MAKSURA FINAL FORMeYEH FINAL FORMcSHEEN WITH JEEM FINAL FORM
  FD26 aARABIC LIGATURE SHEEN WITH HAH FINAL FORMeKHAH FINAL FORMeMEEM FINAL FORMeREH FINAL FORM
  FD2A aARABIC LIGATURE SEEN WITH REH FINAL FORMcSAD WITH REH FINAL FORMcDAD WITH REH FINAL FORM
  FD2D aARABIC LIGATURE SHEEN WITH JEEM INITIAL FORMeHAH INITIAL FORMeKHAH INITIAL FORM
  FD30 aARABIC LIGATURE SHEEN WITH MEEM INITIAL FORMcSEEN WITH HEH INITIAL FORM
  FD32 aARABIC LIGATURE SHEEN WITH HEH INITIAL FORMcTAH WITH MEEM INITIAL FORM
  FD34 aARABIC LIGATURE SEEN WITH JEEM MEDIAL FORMeHAH MEDIAL FORMeKHAH MEDIAL FORM
  FD37 aARABIC LIGATURE SHEEN WITH JEEM MEDIAL FORMeHAH MEDIAL FORMeKHAH MEDIAL FORM
  FD3A aARABIC LIGATURE TAH WITH MEEM MEDIAL FORMcZAH WITH MEEM MEDIAL FORM
  FD3C aARABIC LIGATURE ALEF WITH FATHATAN FINAL FORMfISOLATED FORMaORNATE LEFT PARENTHESIS
  FD3F aORNATE RIGHT PARENTHESISaARABIC LIGATURE RAHIMAHU ALLAAHcRADI ALLAAHU ANHeANHAAeANHUM
  FD44 aARABIC LIGATURE RADI ALLAAHU ANHUMAAeANHUNNAcSALLALLAAHU ALAYHI WA-AALIHcALAYHI AS-SALAAM
  FD48 aARABIC LIGATURE ALAYHIM AS-SALAAMcALAYHIMAA AS-SALAAMcALAYHI AS-SALAATU WAS-SALAAM
  FD4B aARABIC LIGATURE QUDDISA SIRRAHcSALLALLAHU ALAYHI WAAALIHEE WA-SALLAMcALAYHAA AS-SALAAM
  FD4E aARABIC LIGATURE TABAARAKA WA-TAAALAAcRAHIMAHUM ALLAAHcTEH WITH JEEM WITH MEEM INITIAL FORM
  FD51 aARABIC LIGATURE TEH WITH HAH WITH JEEM FINAL FORMhINITIAL FORMgMEEM INITIAL FORM
  FD54 aARABIC LIGATURE TEH WITH KHAH WITH MEEM INITIAL FORMeMEEM WITH JEEM INITIAL FORM
  FD56 aARABIC LIGATURE TEH WITH MEEM WITH HAH INITIAL FORMgKHAH INITIAL FORM
  FD58 aARABIC LIGATURE JEEM WITH MEEM WITH HAH FINAL FORMhINITIAL FORM
  FD5A aARABIC LIGATURE HAH WITH MEEM WITH YEH FINAL FORMgALEF MAKSURA FINAL FORM
  FD5C aARABIC LIGATURE SEEN WITH HAH WITH JEEM INITIAL FORMeJEEM WITH HAH INITIAL FORM
  FD5E aARABIC LIGATURE SEEN WITH JEEM WITH ALEF MAKSURA FINAL FORMeMEEM WITH HAH FINAL FORM
  FD60 aARABIC LIGATURE SEEN WITH MEEM WITH HAH INITIAL FORMgJEEM INITIAL FORMgMEEM FINAL FORM
  FD63 aARABIC LIGATURE SEEN WITH MEEM WITH MEEM INITIAL FORMcSAD WITH HAH WITH HAH FINAL FORM
  FD65 aARABIC LIGATURE SAD WITH HAH WITH HAH INITIAL FORMeMEEM WITH MEEM FINAL FORM
  FD67 aARABIC LIGATURE SHEEN WITH HAH WITH MEEM FINAL FORMhINITIAL FORMeJEEM WITH YEH FINAL FORM
  FD6A aARABIC LIGATURE SHEEN WITH MEEM WITH KHAH FINAL FORMhINITIAL FORMgMEEM FINAL FORM
  FD6D aARABIC LIGATURE SHEEN WITH MEEM WITH MEEM INITIAL FORM
  FD6E aARABIC LIGATURE DAD WITH HAH WITH ALEF MAKSURA FINAL FORMeKHAH WITH MEEM FINAL FORM
  FD70 aARABIC LIGATURE DAD WITH KHAH WITH MEEM INITIAL FORMcTAH WITH MEEM WITH HAH FINAL FORM
  FD72 aARABIC LIGATURE TAH WITH MEEM WITH HAH INITIAL FORMgMEEM INITIAL FORMgYEH FINAL FORM
  FD75 aARABIC LIGATURE AIN WITH JEEM WITH MEEM FINAL FORMeMEEM WITH MEEM FINAL FORMhINITIAL FORM
  FD78 aARABIC LIGATURE AIN WITH MEEM WITH ALEF MAKSURA FINAL FORM
  FD79 aARABIC LIGATURE GHAIN WITH MEEM WITH MEEM FINAL FORMgYEH FINAL FORM
  FD7B aARABIC LIGATURE GHAIN WITH MEEM WITH ALEF MAKSURA FINAL FORM
  FD7C aARABIC LIGATURE FEH WITH KHAH WITH MEEM FINAL FORMhINITIAL FORM
  FD7E aARABIC LIGATURE QAF WITH MEEM WITH HAH FINAL FORMgMEEM FINAL FORM
  FD80 aARABIC LIGATURE LAM WITH HAH WITH MEEM FINAL FORMgYEH FINAL FORMgALEF MAKSURA FINAL FORM
  FD83 aARABIC LIGATURE LAM WITH JEEM WITH JEEM INITIAL FORMhFINAL FORMeKHAH WITH MEEM FINAL FORM
  FD86 aARABIC LIGATURE LAM WITH KHAH WITH MEEM INITIAL FORMeMEEM WITH HAH FINAL FORMhINITIAL FORM
  FD89 aARABIC LIGATURE MEEM WITH HAH WITH JEEM INITIAL FORMgMEEM INITIAL FORMgYEH FINAL FORM
  FD8C aARABIC LIGATURE MEEM WITH JEEM WITH HAH INITIAL FORMgMEEM INITIAL FORM
  FD8E aARABIC LIGATURE MEEM WITH KHAH WITH JEEM INITIAL FORMgMEEM INITIAL FORM
  FD92 aARABIC LIGATURE MEEM WITH JEEM WITH KHAH INITIAL FORMcHEH WITH MEEM WITH JEEM INITIAL FORM
  FD94 aARABIC LIGATURE HEH WITH MEEM WITH MEEM INITIAL FORMcNOON WITH HAH WITH MEEM INITIAL FORM
  FD96 aARABIC LIGATURE NOON WITH HAH WITH ALEF MAKSURA FINAL FORMeJEEM WITH MEEM FINAL FORM
  FD98 aARABIC LIGATURE NOON WITH JEEM WITH MEEM INITIAL FORMgALEF MAKSURA FINAL FORM
  FD9A aARABIC LIGATURE NOON WITH MEEM WITH YEH FINAL FORMgALEF MAKSURA FINAL FORM
  FD9C aARABIC LIGATURE YEH WITH MEEM WITH MEEM FINAL FORMhINITIAL FORM
  FD9E aARABIC LIGATURE BEH WITH KHAH WITH YEH FINAL FORMcTEH WITH JEEM WITH YEH FINAL FORM
  FDA0 aARABIC LIGATURE TEH WITH JEEM WITH ALEF MAKSURA FINAL FORMeKHAH WITH YEH FINAL FORM
  FDA2 aARABIC LIGATURE TEH WITH KHAH WITH ALEF MAKSURA FINAL FORMeMEEM WITH YEH FINAL FORM
  FDA4 aARABIC LIGATURE TEH WITH MEEM WITH ALEF MAKSURA FINAL FORM
  FDA5 aARABIC LIGATURE JEEM WITH MEEM WITH YEH FINAL FORMeHAH WITH ALEF MAKSURA FINAL FORM
  FDA7 aARABIC LIGATURE JEEM WITH MEEM WITH ALEF MAKSURA FINAL FORM
  FDA8 aARABIC LIGATURE SEEN WITH KHAH WITH ALEF MAKSURA FINAL FORM
  FDA9 aARABIC LIGATURE SAD WITH HAH WITH YEH FINAL FORMcSHEEN WITH HAH WITH YEH FINAL FORM
  FDAB aARABIC LIGATURE DAD WITH HAH WITH YEH FINAL FORMcLAM WITH JEEM WITH YEH FINAL FORM
  FDAD aARABIC LIGATURE LAM WITH MEEM WITH YEH FINAL FORMcYEH WITH HAH WITH YEH FINAL FORM
  FDAF aARABIC LIGATURE YEH WITH JEEM WITH YEH FINAL FORMeMEEM WITH YEH FINAL FORM
  FDB1 aARABIC LIGATURE MEEM WITH MEEM WITH YEH FINAL FORMcQAF WITH MEEM WITH YEH FINAL FORM
  FDB3 aARABIC LIGATURE NOON WITH HAH WITH YEH FINAL FORMcQAF WITH MEEM WITH HAH INITIAL FORM
  FDB5 aARABIC LIGATURE LAM WITH HAH WITH MEEM INITIAL FORMcAIN WITH MEEM WITH YEH FINAL FORM
  FDB7 aARABIC LIGATURE KAF WITH MEEM WITH YEH FINAL FORMcNOON WITH JEEM WITH HAH INITIAL FORM
  FDB9 aARABIC LIGATURE MEEM WITH KHAH WITH YEH FINAL FORMcLAM WITH JEEM WITH MEEM INITIAL FORM
  FDBB aARABIC LIGATURE KAF WITH MEEM WITH MEEM FINAL FORMcLAM WITH JEEM WITH MEEM FINAL FORM
  FDBD aARABIC LIGATURE NOON WITH JEEM WITH HAH FINAL FORMcJEEM WITH HAH WITH YEH FINAL FORM
  FDBF aARABIC LIGATURE HAH WITH JEEM WITH YEH FINAL FORMcMEEM WITH JEEM WITH YEH FINAL FORM
  FDC1 aARABIC LIGATURE FEH WITH MEEM WITH YEH FINAL FORMcBEH WITH HAH WITH YEH FINAL FORM
  FDC3 aARABIC LIGATURE KAF WITH MEEM WITH MEEM INITIAL FORMcAIN WITH JEEM WITH MEEM INITIAL FORM
  FDC5 aARABIC LIGATURE SAD WITH MEEM WITH MEEM INITIAL FORMcSEEN WITH KHAH WITH YEH FINAL FORM
  FDC7 aARABIC LIGATURE NOON WITH JEEM WITH YEH FINAL FORM
  FDCF aARABIC LIGATURE SALAAMUHU ALAYNAA
  FDF0 aARABIC LIGATURE SALLA USED AS KORANIC STOP SIGN ISOLATED FORM
  FDF1 aARABIC LIGATURE QALA USED AS KORANIC STOP SIGN ISOLATED FORMcALLAH ISOLATED FORM
  FDF3 aARABIC LIGATURE AKBAR ISOLATED FORMcMOHAMMAD ISOLATED FORMcSALAM ISOLATED FORM
  FDF6 aARABIC LIGATURE RASOUL ISOLATED FORMcALAYHE ISOLATED FORMcWASALLAM ISOLATED FORM
  FDF9 aARABIC LIGATURE SALLA ISOLATED FORMcSALLALLAHOU ALAYHE WASALLAMcJALLAJALALOUHOUaRIAL SIGN
  FDFD aARABIC LIGATURE BISMILLAH AR-RAHMAN AR-RAHEEMcSUBHAANAHU WA TAAALAAcAZZA WA JALL
  FE00 aVARIATION SELECTOR-1bSELECTOR-2bSELECTOR-3bSELECTOR-4bSELECTOR-5bSELECTOR-6bSELECTOR-7
  FE07 aVARIATION SELECTOR-8bSELECTOR-9bSELECTOR-10bSELECTOR-11bSELECTOR-12bSELECTOR-13
  FE0D aVARIATION SELECTOR-14bSELECTOR-15bSELECTOR-16aPRESENTATION FORM FOR VERTICAL COMMA
  FE11 aPRESENTATION FORM FOR VERTICAL IDEOGRAPHIC COMMAfFULL STOPeCOLONeSEMICOLON
  FE15 aPRESENTATION FORM FOR VERTICAL EXCLAMATION MARKeQUESTION MARK
  FE17 aPRESENTATION FORM FOR VERTICAL LEFT WHITE LENTICULAR BRACKET
  FE18 aPRESENTATION FORM FOR VERTICAL RIGHT WHITE LENTICULAR BRAKCETeHORIZONTAL ELLIPSIS
  FE20 aCOMBINING LIGATURE LEFT HALFcRIGHT HALFbDOUBLE TILDE LEFT HALFdRIGHT HALFbMACRON LEFT HALF
  FE25 aCOMBINING MACRON RIGHT HALFbCONJOINING MACRONbLIGATURE LEFT HALF BELOWcRIGHT HALF BELOW
  FE29 aCOMBINING TILDE LEFT HALF BELOWcRIGHT HALF BELOWbMACRON LEFT HALF BELOWcRIGHT HALF BELOW
  FE2D aCOMBINING CONJOINING MACRON BELOWbCYRILLIC TITLO LEFT HALFdRIGHT HALF
  FE30 aPRESENTATION FORM FOR VERTICAL TWO DOT LEADEReEM DASHeEN DASHeLOW LINEeWAVY LOW LINE
  FE35 aPRESENTATION FORM FOR VERTICAL LEFT PARENTHESISeRIGHT PARENTHESISeLEFT CURLY BRACKET
  FE38 aPRESENTATION FORM FOR VERTICAL RIGHT CURLY BRACKETeLEFT TORTOISE SHELL BRACKET
  FE3A aPRESENTATION FORM FOR VERTICAL RIGHT TORTOISE SHELL BRACKETeLEFT BLACK LENTICULAR BRACKET
  FE3C aPRESENTATION FORM FOR VERTICAL RIGHT BLACK LENTICULAR BRACKETeLEFT DOUBLE ANGLE BRACKET
  FE3E aPRESENTATION FORM FOR VERTICAL RIGHT DOUBLE ANGLE BRACKETeLEFT ANGLE BRACKET
  FE40 aPRESENTATION FORM FOR VERTICAL RIGHT ANGLE BRACKETeLEFT CORNER BRACKET
  FE42 aPRESENTATION FORM FOR VERTICAL RIGHT CORNER BRACKETeLEFT WHITE CORNER BRACKET
  FE44 aPRESENTATION FORM FOR VERTICAL RIGHT WHITE CORNER BRACKETaSESAME DOTaWHITE SESAME DOT
  FE47 aPRESENTATION FORM FOR VERTICAL LEFT SQUARE BRACKETeRIGHT SQUARE BRACKETaDASHED OVERLINE
  FE4A aCENTRELINE OVERLINEaWAVY OVERLINEaDOUBLE WAVY OVERLINEaDASHED LOW LINEaCENTRELINE LOW LINE
  FE4F aWAVY LOW LINEaSMALL COMMAbIDEOGRAPHIC COMMAbFULL STOP
  FE54 aSMALL SEMICOLONbCOLONbQUESTION MARKbEXCLAMATION MARKbEM DASHbLEFT PARENTHESIS
  FE5A aSMALL RIGHT PARENTHESISbLEFT CURLY BRACKETbRIGHT CURLY BRACKETbLEFT TORTOISE SHELL BRACKET
  FE5E aSMALL RIGHT TORTOISE SHELL BRACKETbNUMBER SIGNbAMPERSANDbASTERISKbPLUS SIGNbHYPHEN-MINUS
  FE64 aSMALL LESS-THAN SIGNbGREATER-THAN SIGNbEQUALS SIGN
  FE68 aSMALL REVERSE SOLIDUSbDOLLAR SIGNbPERCENT SIGNbCOMMERCIAL AT
  FE70 aARABIC FATHATAN ISOLATED FORMbTATWEEL WITH FATHATAN ABOVEbDAMMATAN ISOLATED FORM
  FE73 aARABIC TAIL FRAGMENTbKASRATAN ISOLATED FORM
  FE76 aARABIC FATHA ISOLATED FORMcMEDIAL FORMbDAMMA ISOLATED FORMcMEDIAL FORMbKASRA ISOLATED FORM
  FE7B aARABIC KASRA MEDIAL FORMbSHADDA ISOLATED FORMcMEDIAL FORMbSUKUN ISOLATED FORMcMEDIAL FORM
  FE80 aARABIC LETTER HAMZA ISOLATED FORMcALEF WITH MADDA ABOVE ISOLATED FORMgFINAL FORM
  FE83 aARABIC LETTER ALEF WITH HAMZA ABOVE ISOLATED FORMgFINAL FORM
  FE85 aARABIC LETTER WAW WITH HAMZA ABOVE ISOLATED FORMgFINAL FORM
  FE87 aARABIC LETTER ALEF WITH HAMZA BELOW ISOLATED FORMgFINAL FORM
  FE89 aARABIC LETTER YEH WITH HAMZA ABOVE ISOLATED FORMgFINAL FORMgINITIAL FORMgMEDIAL FORM
  FE8D aARABIC LETTER ALEF ISOLATED FORMdFINAL FORMcBEH ISOLATED FORMdFINAL FORMdINITIAL FORM
  FE92 aARABIC LETTER BEH MEDIAL FORMcTEH MARBUTA ISOLATED FORMeFINAL FORMdISOLATED FORM
  FE96 aARABIC LETTER TEH FINAL FORMdINITIAL FORMdMEDIAL FORMcTHEH ISOLATED FORMdFINAL FORM
  FE9B aARABIC LETTER THEH INITIAL FORMdMEDIAL FORMcJEEM ISOLATED FORMdFINAL FORMdINITIAL FORM
  FEA0 aARABIC LETTER JEEM MEDIAL FORMcHAH ISOLATED FORMdFINAL FORMdINITIAL FORMdMEDIAL FORM
  FEA5 aARABIC LETTER KHAH ISOLATED FORMdFINAL FORMdINITIAL FORMdMEDIAL FORMcDAL ISOLATED FORM
  FEAA aARABIC LETTER DAL FINAL FORMcTHAL ISOLATED FORMdFINAL FORMcREH ISOLATED FORMdFINAL FORM
  FEAF aARABIC LETTER ZAIN ISOLATED FORMdFINAL FORMcSEEN ISOLATED FORMdFINAL FORMdINITIAL FORM
  FEB4 aARABIC LETTER SEEN MEDIAL FORMcSHEEN ISOLATED FORMdFINAL FORMdINITIAL FORMdMEDIAL FORM
  FEB9 aARABIC LETTER SAD ISOLATED FORMdFINAL FORMdINITIAL FORMdMEDIAL FORMcDAD ISOLATED FORM
  FEBE aARABIC LETTER DAD FINAL FORMdINITIAL FORMdMEDIAL FORMcTAH ISOLATED FORMdFINAL FORM
  FEC3 aARABIC LETTER TAH INITIAL FORMdMEDIAL FORMcZAH ISOLATED FORMdFINAL FORMdINITIAL FORM
  FEC8 aARABIC LETTER ZAH MEDIAL FORMcAIN ISOLATED FORMdFINAL FORMdINITIAL FORMdMEDIAL FORM
  FECD aARABIC LETTER GHAIN ISOLATED FORMdFINAL FORMdINITIAL FORMdMEDIAL FORMcFEH ISOLATED FORM
  FED2 aARABIC LETTER FEH FINAL FORMdINITIAL FORMdMEDIAL FORMcQAF ISOLATED FORMdFINAL FORM
  FED7 aARABIC LETTER QAF INITIAL FORMdMEDIAL FORMcKAF ISOLATED FORMdFINAL FORMdINITIAL FORM
  FEDC aARABIC LETTER KAF MEDIAL FORMcLAM ISOLATED FORMdFINAL FORMdINITIAL FORMdMEDIAL FORM
  FEE1 aARABIC LETTER MEEM ISOLATED FORMdFINAL FORMdINITIAL FORMdMEDIAL FORMcNOON ISOLATED FORM
  FEE6 aARABIC LETTER NOON FINAL FORMdINITIAL FORMdMEDIAL FORMcHEH ISOLATED FORMdFINAL FORM
  FEEB aARABIC LETTER HEH INITIAL FORMdMEDIAL FORMcWAW ISOLATED FORMdFINAL FORM
  FEEF aARABIC LETTER ALEF MAKSURA ISOLATED FORMeFINAL FORMcYEH ISOLATED FORMdFINAL FORM
  FEF3 aARABIC LETTER YEH INITIAL FORMdMEDIAL FORM
  FEF5 aARABIC LIGATURE LAM WITH ALEF WITH MADDA ABOVE ISOLATED FORMiFINAL FORM
  FEF7 aARABIC LIGATURE LAM WITH ALEF WITH HAMZA ABOVE ISOLATED FORMiFINAL FORM
  FEF9 aARABIC LIGATURE LAM WITH ALEF WITH HAMZA BELOW ISOLATED FORMiFINAL FORMfISOLATED FORM
  FEFC aARABIC LIGATURE LAM WITH ALEF FINAL FORM
  FEFF aZERO WIDTH NO-BREAK SPACE
  FF01 aFULLWIDTH EXCLAMATION MARKbQUOTATION MARKbNUMBER SIGNbDOLLAR SIGNbPERCENT SIGNbAMPERSAND
  FF07 aFULLWIDTH APOSTROPHEbLEFT PARENTHESISbRIGHT PARENTHESISbASTERISKbPLUS SIGNbCOMMA
  FF0D aFULLWIDTH HYPHEN-MINUSbFULL STOPbSOLIDUSbDIGIT ZEROcONEcTWOcTHREEcFOURcFIVEcSIXcSEVEN
  FF18 aFULLWIDTH DIGIT EIGHTcNINEbCOLONbSEMICOLONbLESS-THAN SIGNbEQUALS SIGNbGREATER-THAN SIGN
  FF1F aFULLWIDTH QUESTION MARKbCOMMERCIAL ATbLATIN CAPITAL LETTER AeBeCeDeEeFeGeHeIeJeKeLeMeNeOeP
  FF31 aFULLWIDTH LATIN CAPITAL LETTER QeReSeTeUeVeWeXeYeZbLEFT SQUARE BRACKETbREVERSE SOLIDUS
  FF3D aFULLWIDTH RIGHT SQUARE BRACKETbCIRCUMFLEX ACCENTbLOW LINEbGRAVE ACCENT
  FF41 aFULLWIDTH LATIN SMALL LETTER AeBeCeDeEeFeGeHeIeJeKeLeMeNeOePeQeReSeTeUeVeWeXeYeZ
  FF5B aFULLWIDTH LEFT CURLY BRACKETbVERTICAL LINEbRIGHT CURLY BRACKETbTILDE
  FF5F aFULLWIDTH LEFT WHITE PARENTHESISbRIGHT WHITE PARENTHESISaHALFWIDTH IDEOGRAPHIC FULL STOP
  FF62 aHALFWIDTH LEFT CORNER BRACKETbRIGHT CORNER BRACKETbIDEOGRAPHIC COMMAbKATAKANA MIDDLE DOT
  FF66 aHALFWIDTH KATAKANA LETTER WOdSMALL AeIeUeEeOeYAeYUeYOeTU
  FF70 aHALFWIDTH KATAKANA-HIRAGANA PROLONGED SOUND MARKbKATAKANA LETTER AdIdUdEdOdKAdKIdKUdKEdKO
  FF7B aHALFWIDTH KATAKANA LETTER SAdSIdSUdSEdSOdTAdTIdTUdTEdTOdNAdNIdNUdNEdNOdHAdHIdHUdHEdHOdMA
  FF90 aHALFWIDTH KATAKANA LETTER MIdMUdMEdMOdYAdYUdYOdRAdRIdRUdREdROdWAdNcVOICED SOUND MARK
  FF9F aHALFWIDTH KATAKANA SEMI-VOICED SOUND MARKbHANGUL FILLERcLETTER KIYEOKdSSANGKIYEOK
  FFA3 aHALFWIDTH HANGUL LETTER KIYEOK-SIOSdNIEUNdNIEUN-CIEUCdNIEUN-HIEUHdTIKEUTdSSANGTIKEUTdRIEUL
  FFAA aHALFWIDTH HANGUL LETTER RIEUL-KIYEOKdRIEUL-MIEUMdRIEUL-PIEUPdRIEUL-SIOSdRIEUL-THIEUTH
  FFAF aHALFWIDTH HANGUL LETTER RIEUL-PHIEUPHdRIEUL-HIEUHdMIEUMdPIEUPdSSANGPIEUPdPIEUP-SIOSdSIOS
  FFB6 aHALFWIDTH HANGUL LETTER SSANGSIOSdIEUNGdCIEUCdSSANGCIEUCdCHIEUCHdKHIEUKHdTHIEUTHdPHIEUPH
  FFBE aHALFWIDTH HANGUL LETTER HIEUH
  FFC2 aHALFWIDTH HANGUL LETTER AdAEdYAdYAEdEOdE
  FFCA aHALFWIDTH HANGUL LETTER YEOdYEdOdWAdWAEdOE
  FFD2 aHALFWIDTH HANGUL LETTER YOdUdWEOdWEdWIdYU
  FFDA aHALFWIDTH HANGUL LETTER EUdYIdI
  FFE0 aFULLWIDTH CENT SIGNbPOUND SIGNbNOT SIGNbMACRONbBROKEN BARbYEN SIGNbWON SIGN
  FFE8 aHALFWIDTH FORMS LIGHT VERTICALbLEFTWARDS ARROWbUPWARDS ARROWbRIGHTWARDS ARROW
  FFEC aHALFWIDTH DOWNWARDS ARROWbBLACK SQUAREbWHITE CIRCLE
  FFF9 aINTERLINEAR ANNOTATION ANCHORcSEPARATORcTERMINATORaOBJECT REPLACEMENT CHARACTER
  FFFD aREPLACEMENT CHARACTER
  10000 aLINEAR B SYLLABLE B008 AdB038 EdB028 IdB061 OdB010 UdB001 DAdB045 DEdB007 DIdB014 DO
  10009 aLINEAR B SYLLABLE B051 DUdB057 JAdB046 JE
  1000D aLINEAR B SYLLABLE B036 JOdB065 JUdB077 KAdB044 KEdB067 KIdB070 KOdB081 KUdB080 MAdB013 ME
  10016 aLINEAR B SYLLABLE B073 MIdB015 MOdB023 MUdB006 NAdB024 NEdB030 NIdB052 NOdB055 NUdB003 PA
  1001F aLINEAR B SYLLABLE B072 PEdB039 PIdB011 POdB050 PUdB016 QAdB078 QEdB021 QIdB032 QO
  10028 aLINEAR B SYLLABLE B060 RAdB027 REdB053 RIdB002 ROdB026 RUdB031 SAdB009 SEdB041 SIdB012 SO
  10031 aLINEAR B SYLLABLE B058 SUdB059 TAdB004 TEdB037 TIdB005 TOdB069 TUdB054 WAdB075 WEdB040 WI
  1003A aLINEAR B SYLLABLE B042 WO
  1003C aLINEAR B SYLLABLE B017 ZAdB074 ZE
  1003F aLINEAR B SYLLABLE B020 ZOdB025 A2dB043 A3dB085 AUdB071 DWEdB090 DWOdB048 NWAdB029 PU2
  10047 aLINEAR B SYLLABLE B062 PTEdB076 RA2dB033 RA3dB068 RO2dB066 TA2dB087 TWEdB091 TWO
  10050 aLINEAR B SYMBOL B018dB019dB022dB034dB047dB049dB056dB063dB064dB079dB082dB083dB086dB089
  10080 aLINEAR B IDEOGRAM B100 MANdB102 WOMANdB104 DEERdB105 EQUIDdB105F MAREdB105M STALLION
  10086 aLINEAR B IDEOGRAM B106F EWEdB106M RAMdB107F SHE-GOATdB107M HE-GOATdB108F SOWdB108M BOAR
  1008C aLINEAR B IDEOGRAM B109F COWdB109M BULLdB120 WHEATdB121 BARLEYdB122 OLIVEdB123 SPICE
  10092 aLINEAR B IDEOGRAM B125 CYPERUScMONOGRAM B127 KAPOdB128 KANAKOcIDEOGRAM B130 OILdB131 WINE
  10097 aLINEAR B IDEOGRAM B132cMONOGRAM B133 AREPAdB135 MERIcIDEOGRAM B140 BRONZEdB141 GOLDdB142
  1009D aLINEAR B IDEOGRAM B145 WOOLdB146dB150dB151 HORNdB152dB153dB154cMONOGRAM B156 TURO2
  100A5 aLINEAR B IDEOGRAM B157dB158dB159 CLOTHdB160dB161dB162 GARMENTdB163 ARMOURdB164dB165dB166
  100AF aLINEAR B IDEOGRAM B167dB168dB169dB170dB171dB172dB173 MONTHdB174dB176 TREEdB177dB178dB179
  100BB aLINEAR B IDEOGRAM B180dB181dB182dB183dB184dB185dB189dB190dB191 HELMETdB220 FOOTSTOOL
  100C5 aLINEAR B IDEOGRAM B225 BATHTUBdB230 SPEARdB231 ARROWdB232dB233 SWORDdB234dB236
  100CC aLINEAR B IDEOGRAM B240 WHEELED CHARIOTdB241 CHARIOTdB242 CHARIOT FRAMEdB243 WHEELdB245
  100D1 aLINEAR B IDEOGRAM B246cMONOGRAM B247 DIPTEcIDEOGRAM B248dB249dB251dB252dB253dB254 DART
  100D9 aLINEAR B IDEOGRAM B255dB256dB257dB258dB259dVESSEL B155eB200eB201eB202eB203eB204eB205eB206
  100E6 aLINEAR B IDEOGRAM VESSEL B207eB208eB209eB210eB211eB212eB213eB214eB215eB216eB217eB218eB219
  100F3 aLINEAR B IDEOGRAM VESSEL B221eB222eB226eB227eB228eB229eB250eB305
  10100 aAEGEAN WORD SEPARATOR LINEdDOTbCHECK MARK
  10107 aAEGEAN NUMBER ONEcTWOcTHREEcFOURcFIVEcSIXcSEVENcEIGHTcNINEcTENcTWENTYcTHIRTYcFORTYcFIFTY
  10115 aAEGEAN NUMBER SIXTYcSEVENTYcEIGHTYcNINETYcONE HUNDREDcTWO HUNDREDcTHREE HUNDRED
  1011C aAEGEAN NUMBER FOUR HUNDREDcFIVE HUNDREDcSIX HUNDREDcSEVEN HUNDREDcEIGHT HUNDRED
  10121 aAEGEAN NUMBER NINE HUNDREDcONE THOUSANDcTWO THOUSANDcTHREE THOUSANDcFOUR THOUSAND
  10126 aAEGEAN NUMBER FIVE THOUSANDcSIX THOUSANDcSEVEN THOUSANDcEIGHT THOUSANDcNINE THOUSAND
  1012B aAEGEAN NUMBER TEN THOUSANDcTWENTY THOUSANDcTHIRTY THOUSANDcFORTY THOUSANDcFIFTY THOUSAND
  10130 aAEGEAN NUMBER SIXTY THOUSANDcSEVENTY THOUSANDcEIGHTY THOUSANDcNINETY THOUSAND
  10137 aAEGEAN WEIGHT BASE UNITcFIRST SUBUNITcSECOND SUBUNITcTHIRD SUBUNITcFOURTH SUBUNIT
  1013C aAEGEAN DRY MEASURE FIRST SUBUNITbLIQUID MEASURE FIRST SUBUNITbMEASURE SECOND SUBUNIT
  1013F aAEGEAN MEASURE THIRD SUBUNITaGREEK ACROPHONIC ATTIC ONE QUARTEReHALFeDRACHMAdFIVEdFIFTY
  10145 aGREEK ACROPHONIC ATTIC FIVE HUNDREDeTHOUSANDdFIFTY THOUSANDdFIVE TALENTSdTEN TALENTS
  1014A aGREEK ACROPHONIC ATTIC FIFTY TALENTSdONE HUNDRED TALENTSdFIVE HUNDRED TALENTS
  1014D aGREEK ACROPHONIC ATTIC ONE THOUSAND TALENTSdFIVE THOUSAND TALENTSeSTATERSdTEN STATERS
  10151 aGREEK ACROPHONIC ATTIC FIFTY STATERSdONE HUNDRED STATERSdFIVE HUNDRED STATERS
  10154 aGREEK ACROPHONIC ATTIC ONE THOUSAND STATERSdTEN THOUSAND STATERSdFIFTY THOUSAND STATERS
  10157 aGREEK ACROPHONIC ATTIC TEN MNAScHERAEUM ONE PLETHRONcTHESPIAN ONEcHERMIONIAN ONE
  1015B aGREEK ACROPHONIC EPIDAUREAN TWOcTHESPIAN TWOcCYRENAIC TWO DRACHMAS
  1015E aGREEK ACROPHONIC EPIDAUREAN TWO DRACHMAScTROEZENIAN FIVEdTENeALTERNATE FORM
  10162 aGREEK ACROPHONIC HERMIONIAN TENcMESSENIAN TENcTHESPIAN TENdTHIRTYcTROEZENIAN FIFTY
  10167 aGREEK ACROPHONIC TROEZENIAN FIFTY ALTERNATE FORMcHERMIONIAN FIFTYcTHESPIAN FIFTY
  1016A aGREEK ACROPHONIC THESPIAN ONE HUNDREDdTHREE HUNDREDcEPIDAUREAN FIVE HUNDRED
  1016D aGREEK ACROPHONIC TROEZENIAN FIVE HUNDREDcTHESPIAN FIVE HUNDREDcCARYSTIAN FIVE HUNDRED
  10170 aGREEK ACROPHONIC NAXIAN FIVE HUNDREDcTHESPIAN ONE THOUSANDdFIVE THOUSAND
  10173 aGREEK ACROPHONIC DELPHIC FIVE MNAScSTRATIAN FIFTY MNASbONE HALF SIGNeALTERNATE FORM
  10177 aGREEK TWO THIRDS SIGNbTHREE QUARTERS SIGNbYEAR SIGNbTALENT SIGNbDRACHMA SIGNbOBOL SIGN
  1017D aGREEK TWO OBOLS SIGNbTHREE OBOLS SIGNbFOUR OBOLS SIGNbFIVE OBOLS SIGNbMETRETES SIGN
  10182 aGREEK KYATHOS BASE SIGNbLITRA SIGNbOUNKIA SIGNbXESTES SIGNbARTABE SIGNbAROURA SIGN
  10188 aGREEK GRAMMA SIGNbTRYBLION BASE SIGNbZERO SIGNbONE QUARTER SIGNbSINUSOID SIGN
  1018D aGREEK INDICTION SIGNaNOMISMA SIGN
  10190 aROMAN SEXTANS SIGNbUNCIA SIGNbSEMUNCIA SIGNbSEXTULA SIGNbDIMIDIA SEXTULA SIGN
  10195 aROMAN SILIQUA SIGNbDENARIUS SIGNbQUINARIUS SIGNbSESTERTIUS SIGNbDUPONDIUS SIGNbAS SIGN
  1019B aROMAN CENTURIAL SIGNaASCIA SYMBOL
  101A0 aGREEK SYMBOL TAU RHO
  101D0 aPHAISTOS DISC SIGN PEDESTRIANdPLUMED HEADdTATTOOED HEADdCAPTIVEdCHILDdWOMANdHELMET
  101D7 aPHAISTOS DISC SIGN GAUNTLETdTIARAdARROWdBOWdSHIELDdCLUBdMANACLESdMATTOCKdSAWdLID
  101E1 aPHAISTOS DISC SIGN BOOMERANGdCARPENTRY PLANEdDOLIUMdCOMBdSLINGdCOLUMNdBEEHIVEdSHIPdHORN
  101EA aPHAISTOS DISC SIGN HIDEdBULLS LEGdCATdRAMdEAGLEdDOVEdTUNNYdBEEdPLANE TREEdVINEdPAPYRUS
  101F5 aPHAISTOS DISC SIGN ROSETTEdLILYdOX BACKdFLUTEdGRATERdSTRAINERdSMALL AXEdWAVY BAND
  101FD aPHAISTOS DISC SIGN COMBINING OBLIQUE STROKE
  10280 aLYCIAN LETTER AcEcBcBHcGcDcIcWcZcTHcJcKcQcLcMcNcMMcNNcUcPcKKcRcScTcTTcANcENcHcX
  102A0 aCARIAN LETTER AcP2cDcLcUUUcRcLDcA2cQcBcMcOcD2cTcSHcSH2cScC-18cUcNNcXcNcTT2cPcSScIcEcUUUU
  102BC aCARIAN LETTER KcK2cNDcUUcGcG2cSTcST2cNGcIIcC-39cTTcUUU2cRRcMBcMB2cMB3cMB4cLD2cE2cUUU3
  102E0 aCOPTIC EPACT THOUSANDS MARKcDIGIT ONEdTWOdTHREEdFOURdFIVEdSIXdSEVENdEIGHTdNINEcNUMBER TEN
  102EB aCOPTIC EPACT NUMBER TWENTYdTHIRTYdFORTYdFIFTYdSIXTYdSEVENTYdEIGHTYdNINETYdONE HUNDRED
  102F4 aCOPTIC EPACT NUMBER TWO HUNDREDdTHREE HUNDREDdFOUR HUNDREDdFIVE HUNDREDdSIX HUNDRED
  102F9 aCOPTIC EPACT NUMBER SEVEN HUNDREDdEIGHT HUNDREDdNINE HUNDRED
  10300 aOLD ITALIC LETTER AdBEdKEdDEdEdVEdZEdHEdTHEdIdKAdELdEMdENdESHdOdPEdSHEdKUdERdESdTEdUdEKS
  10318 aOLD ITALIC LETTER PHEdKHEdEFdERSdCHEdIIdUUdESScNUMERAL ONEdFIVEdTENdFIFTY
  1032D aOLD ITALIC LETTER YEdNORTHERN TSEdSOUTHERN TSEaGOTHIC LETTER AHSAcBAIRKANcGIBAcDAGS
  10334 aGOTHIC LETTER AIHVUScQAIRTHRAcIUJAcHAGLcTHIUTHcEIScKUSMAcLAGUScMANNAcNAUTHScJERcURUS
  10340 aGOTHIC LETTER PAIRTHRAcNINETYcRAIDAcSAUILcTEIWScWINJAcFAIHUcIGGWScHWAIRcOTHAL
  1034A aGOTHIC LETTER NINE HUNDRED
  10350 aOLD PERMIC LETTER ANdBURdGAIdDOIdEdZHOIdDZHOIdZATAdDZITAdIdKOKEdLEIdMENOEdNENOEdVOOIdPEEI
  10360 aOLD PERMIC LETTER REIdSIIdTAIdUdCHERYdSHOOIdSHCHOOIdYRYdYERUdOdOOdEFdHAdTSIUdVERdYERdYERI
  10371 aOLD PERMIC LETTER YATdIEdYUdYAdIAaCOMBINING OLD PERMIC LETTER ANeDOIeZATAeNENOEeSII
  10380 aUGARITIC LETTER ALPAcBETAcGAMLAcKHAcDELTAcHOcWOcZETAcHOTAcTETcYODcKAFcSHINcLAMDAcMEMcDHAL
  10390 aUGARITIC LETTER NUNcZUcSAMKAcAINcPUcSADEcQOPAcRASHAcTHANNAcGHAINcTOcIcUcSSU
  1039F aUGARITIC WORD DIVIDERaOLD PERSIAN SIGN AdIdUdKAdKUdGAdGUdXAdCAdJAdJIdTAdTUdDAdDIdDUdTHA
  103B1 aOLD PERSIAN SIGN PAdBAdFAdNAdNUdMAdMIdMUdYAdVAdVIdRAdRUdLAdSAdZAdSHAdSSAdHA
  103C8 aOLD PERSIAN SIGN AURAMAZDAAdAURAMAZDAA-2dAURAMAZDAAHAdXSHAAYATHIYAdDAHYAAUSHdDAHYAAUSH-2
  103CE aOLD PERSIAN SIGN BAGAdBUUMISHcWORD DIVIDERcNUMBER ONEdTWOdTENdTWENTYdHUNDRED
  10400 aDESERET CAPITAL LETTER LONG IeEeAeAHeOeOOdSHORT IeEeAeAHeOeOOdAYdOWdWUdYEEdHdPEEdBEEdTEE
  10414 aDESERET CAPITAL LETTER DEEdCHEEdJEEdKAYdGAYdEFdVEEdETHdTHEEdESdZEEdESHdZHEEdERdELdEMdEN
  10425 aDESERET CAPITAL LETTER ENGdOIdEWbSMALL LETTER LONG IeEeAeAHeOeOOdSHORT IeEeAeAHeOeOOdAY
  10435 aDESERET SMALL LETTER OWdWUdYEEdHdPEEdBEEdTEEdDEEdCHEEdJEEdKAYdGAYdEFdVEEdETHdTHEEdESdZEE
  10447 aDESERET SMALL LETTER ESHdZHEEdERdELdEMdENdENGdOIdEWaSHAVIAN LETTER PEEPcTOTcKICKcFEE
  10454 aSHAVIAN LETTER THIGHcSOcSUREcCHURCHcYEAcHUNGcBIBcDEADcGAGcVOWcTHEYcZOOcMEASUREcJUDGEcWOE
  10463 aSHAVIAN LETTER HA-HAcLOLLcMIMEcIFcEGGcASHcADOcONcWOOLcOUTcAHcROARcNUNcEATcAGEcICEcUPcOAK
  10475 aSHAVIAN LETTER OOZEcOILcAWEcAREcORcAIRcERRcARRAYcEARcIANcYEWaOSMANYA LETTER ALEFcBAcTAcJA
  10484 aOSMANYA LETTER XAcKHAcDEELcRAcSAcSHIINcDHAcCAYNcGAcFAcQAAFcKAAFcLAANcMIINcNUUNcWAWcHAcYA
  10496 aOSMANYA LETTER AcEcIcOcUcAAcEEcOO
  104A0 aOSMANYA DIGIT ZEROcONEcTWOcTHREEcFOURcFIVEcSIXcSEVENcEIGHTcNINE
  104B0 aOSAGE CAPITAL LETTER AdAIdAINdAHdBRAdCHAdEHCHAdEdEINdHAdHYAdIdKAdEHKAdKYAdLAdMAdNAdOdOIN
  104C4 aOSAGE CAPITAL LETTER PAdEHPAdSAdSHAdTAdEHTAdTSAdEHTSAdTSHAdDHAdUdWAdKHAdGHAdZAdZHA
  104D8 aOSAGE SMALL LETTER AdAIdAINdAHdBRAdCHAdEHCHAdEdEINdHAdHYAdIdKAdEHKAdKYAdLAdMAdNAdOdOINdPA
  104ED aOSAGE SMALL LETTER EHPAdSAdSHAdTAdEHTAdTSAdEHTSAdTSHAdDHAdUdWAdKHAdGHAdZAdZHA
  10500 aELBASAN LETTER AcBEcCEcCHEcDEcNDEcDHEcEIcEcFEcGEcGJEcHEcIcJEcKEcLEcLLEcMEcNEcNAcNJEcOcPE
  10518 aELBASAN LETTER QEcREcRREcSEcSHEcTEcTHEcUcVEcXEcYcZEcZHEcGHEcGHAMMAcKHE
  10530 aCAUCASIAN ALBANIAN LETTER ALTdBETdGIMdDATdEBdZARLdEYNdZHILdTASdCHAdYOWDdZHAdIRBdSHAdLAN
  1053F aCAUCASIAN ALBANIAN LETTER INYAdXEYNdDYANdCARdJHOXdKARdLYITdHEYTdQAYdAORdCHOYdCHIdCYAYdMAQ
  1054D aCAUCASIAN ALBANIAN LETTER QARdNOWCdDZYAYdSHAKdJAYNdONdTYAYdFAMdDZAYdCHATdPENdGHEYSdRAT
  1055A aCAUCASIAN ALBANIAN LETTER SEYKdVEYZdTIWRdSHOYdIWNdCYAWdCAYNdYAYDdPIWRdKIW
  1056F aCAUCASIAN ALBANIAN CITATION MARKaVITHKUQI CAPITAL LETTER AdBBEdBEdCEdCHEdDEdDHEdEIdEdFE
  1057A aVITHKUQI CAPITAL LETTER GA
  1057C aVITHKUQI CAPITAL LETTER HAdHHAdIdIJEdJEdKAdLAdLLAdMEdNEdNJEdOdPEdQAdRE
  1058C aVITHKUQI CAPITAL LETTER SEdSHEdTEdTHEdUdVEdXE
  10594 aVITHKUQI CAPITAL LETTER YdZE
  10597 aVITHKUQI SMALL LETTER AdBBEdBEdCEdCHEdDEdDHEdEIdEdFEdGA
  105A3 aVITHKUQI SMALL LETTER HAdHHAdIdIJEdJEdKAdLAdLLAdMEdNEdNJEdOdPEdQAdRE
  105B3 aVITHKUQI SMALL LETTER SEdSHEdTEdTHEdUdVEdXE
  105BB aVITHKUQI SMALL LETTER YdZE
  10600 aLINEAR A SIGN AB001dAB002dAB003dAB004dAB005dAB006dAB007dAB008dAB009dAB010dAB011dAB013
  1060C aLINEAR A SIGN AB016dAB017dAB020dAB021dAB021FdAB021MdAB022dAB022FdAB022MdAB023dAB023M
  10617 aLINEAR A SIGN AB024dAB026dAB027dAB028dA028BdAB029dAB030dAB031dAB034dAB037dAB038dAB039
  10623 aLINEAR A SIGN AB040dAB041dAB044dAB045dAB046dAB047dAB048dAB049dAB050dAB051dAB053dAB054
  1062F aLINEAR A SIGN AB055dAB056dAB057dAB058dAB059dAB060dAB061dAB065dAB066dAB067dAB069dAB070
  1063B aLINEAR A SIGN AB073dAB074dAB076dAB077dAB078dAB079dAB080dAB081dAB082dAB085dAB086dAB087
  10647 aLINEAR A SIGN A100-102dAB118dAB120dA120BdAB122dAB123dAB131AdAB131BdA131CdAB164dAB171
  10652 aLINEAR A SIGN AB180dAB188dAB191dA301dA302dA303dA304dA305dA306dA307dA308dA309AdA309BdA309C
  10660 aLINEAR A SIGN A310dA311dA312dA313AdA313BdA313CdA314dA315dA316dA317dA318dA319dA320dA321
  1066E aLINEAR A SIGN A322dA323dA324dA325dA326dA327dA328dA329dA330dA331dA332dA333dA334dA335dA336
  1067D aLINEAR A SIGN A337dA338dA339dA340dA341dA342dA343dA344dA345dA346dA347dA348dA349dA350dA351
  1068C aLINEAR A SIGN A352dA353dA354dA355dA356dA357dA358dA359dA360dA361dA362dA363dA364dA365dA366
  1069B aLINEAR A SIGN A367dA368dA369dA370dA371dA400-VASdA401-VASdA402-VASdA403-VASdA404-VAS
  106A5 aLINEAR A SIGN A405-VASdA406-VASdA407-VASdA408-VASdA409-VASdA410-VASdA411-VASdA412-VAS
  106AD aLINEAR A SIGN A413-VASdA414-VASdA415-VASdA416-VASdA417-VASdA418-VASdA501dA502dA503dA504
  106B7 aLINEAR A SIGN A505dA506dA508dA509dA510dA511dA512dA513dA515dA516dA520dA521dA523dA524dA525
  106C6 aLINEAR A SIGN A526dA527dA528dA529dA530dA531dA532dA534dA535dA536dA537dA538dA539dA540dA541
  106D5 aLINEAR A SIGN A542dA545dA547dA548dA549dA550dA551dA552dA553dA554dA555dA556dA557dA559dA563
  106E4 aLINEAR A SIGN A564dA565dA566dA568dA569dA570dA571dA572dA573dA574dA575dA576dA577dA578dA579
  106F3 aLINEAR A SIGN A580dA581dA582dA583dA584dA585dA586dA587dA588dA589dA591dA592dA594dA595dA596
  10702 aLINEAR A SIGN A598dA600dA601dA602dA603dA604dA606dA608dA609dA610dA611dA612dA613dA614dA615
  10711 aLINEAR A SIGN A616dA617dA618dA619dA620dA621dA622dA623dA624dA626dA627dA628dA629dA634dA637
  10720 aLINEAR A SIGN A638dA640dA642dA643dA644dA645dA646dA648dA649dA651dA652dA653dA654dA655dA656
  1072F aLINEAR A SIGN A657dA658dA659dA660dA661dA662dA663dA664
  10740 aLINEAR A SIGN A701 AdA702 BdA703 DdA704 EdA705 FdA706 HdA707 JdA708 KdA709 LdA709-2 L2
  1074A aLINEAR A SIGN A709-3 L3dA709-4 L4dA709-6 L6dA710 WdA711 XdA712 YdA713 OMEGAdA714 ABB
  10752 aLINEAR A SIGN A715 BBdA717 DDdA726 EYYYdA732 JE
  10760 aLINEAR A SIGN A800dA801dA802dA803dA804dA805dA806dA807
  10780 aMODIFIER LETTER SMALL CAPITAL AAcSUPERSCRIPT TRIANGULAR COLONdHALF TRIANGULAR COLON
  10783 aMODIFIER LETTER SMALL AEdCAPITAL BdB WITH HOOK
  10787 aMODIFIER LETTER SMALL DZ DIGRAPHfWITH RETROFLEX HOOKgCURLdDEZH DIGRAPHdD WITH TAILfHOOK
  1078D aMODIFIER LETTER SMALL D WITH HOOK AND TAILdREVERSED EdCLOSED REVERSED OPEN EdFENG DIGRAPH
  10791 aMODIFIER LETTER SMALL RAMS HORNdCAPITAL GdG WITH HOOKdCAPITAL G WITH HOOKdH WITH STROKE
  10796 aMODIFIER LETTER SMALL CAPITAL HdHENG WITH HOOKdDOTLESS J WITH STROKE AND HOOKdLS DIGRAPH
  1079A aMODIFIER LETTER SMALL LZ DIGRAPHdL WITH BELTdCAPITAL L WITH BELT
  1079D aMODIFIER LETTER SMALL L WITH RETROFLEX HOOK AND BELTdLEZHeWITH RETROFLEX HOOKdTURNED Y
  107A1 aMODIFIER LETTER SMALL TURNED Y WITH BELTdO WITH STROKEdCAPITAL OEdCLOSED OMEGAdQ
  107A6 aMODIFIER LETTER SMALL TURNED R WITH LONG LEGiAND RETROFLEX HOOKdR WITH TAILfFISHHOOK
  107AA aMODIFIER LETTER SMALL CAPITAL RdTC DIGRAPH WITH CURLdTS DIGRAPHfWITH RETROFLEX HOOK
  107AE aMODIFIER LETTER SMALL TESH DIGRAPHdT WITH RETROFLEX HOOKdV WITH RIGHT HOOK
  107B2 aMODIFIER LETTER SMALL CAPITAL YcGLOTTAL STOP WITH STROKE
  107B4 aMODIFIER LETTER REVERSED GLOTTAL STOP WITH STROKEcBILABIAL CLICKcDENTAL CLICK
  107B7 aMODIFIER LETTER LATERAL CLICKcALVEOLAR CLICKcRETROFLEX CLICK WITH RETROFLEX HOOK
  107BA aMODIFIER LETTER SMALL S WITH CURL
  10800 aCYPRIOT SYLLABLE AcEcIcOcUcJA
  10808 aCYPRIOT SYLLABLE JO
  1080A aCYPRIOT SYLLABLE KAcKEcKIcKOcKUcLAcLEcLIcLOcLUcMAcMEcMIcMOcMUcNAcNEcNIcNOcNUcPAcPEcPIcPO
  10822 aCYPRIOT SYLLABLE PUcRAcREcRIcROcRUcSAcSEcSIcSOcSUcTAcTEcTIcTOcTUcWAcWEcWIcWO
  10837 aCYPRIOT SYLLABLE XAcXE
  1083C aCYPRIOT SYLLABLE ZA
  1083F aCYPRIOT SYLLABLE ZOaIMPERIAL ARAMAIC LETTER ALEPHdBETHdGIMELdDALETHdHEdWAWdZAYINdHETH
  10848 aIMPERIAL ARAMAIC LETTER TETHdYODHdKAPHdLAMEDHdMEMdNUNdSAMEKHdAYINdPEdSADHEdQOPHdRESHdSHIN
  10855 aIMPERIAL ARAMAIC LETTER TAW
  10857 aIMPERIAL ARAMAIC SECTION SIGNcNUMBER ONEdTWOdTHREEdTENdTWENTYdONE HUNDREDeTHOUSAND
  1085F aIMPERIAL ARAMAIC NUMBER TEN THOUSANDaPALMYRENE LETTER ALEPHcBETHcGIMELcDALETHcHEcWAW
  10866 aPALMYRENE LETTER ZAYINcHETHcTETHcYODHcKAPHcLAMEDHcMEMcFINAL NUNcNUNcSAMEKHcAYINcPEcSADHE
  10873 aPALMYRENE LETTER QOPHcRESHcSHINcTAWbLEFT-POINTING FLEURONbRIGHT-POINTING FLEURON
  10879 aPALMYRENE NUMBER ONEcTWOcTHREEcFOURcFIVEcTENcTWENTYaNABATAEAN LETTER FINAL ALEPHcALEPH
  10882 aNABATAEAN LETTER FINAL BETHcBETHcGIMELcDALETHcFINAL HEcHEcWAWcZAYINcHETHcTETHcFINAL YODH
  1088D aNABATAEAN LETTER YODHcFINAL KAPHcKAPHcFINAL LAMEDHcLAMEDHcFINAL MEMcMEMcFINAL NUNcNUN
  10896 aNABATAEAN LETTER SAMEKHcAYINcPEcSADHEcQOPHcRESHcFINAL SHINcSHINcTAW
  108A7 aNABATAEAN NUMBER ONEcTWOcTHREEcFOURbCRUCIFORM NUMBER FOURbNUMBER FIVEcTENcTWENTY
  108AF aNABATAEAN NUMBER ONE HUNDRED
  108E0 aHATRAN LETTER ALEPHcBETHcGIMELcDALETH-RESHcHEcWAWcZAYNcHETHcTETHcYODHcKAPHcLAMEDHcMEMcNUN
  108EE aHATRAN LETTER SAMEKHcAYNcPEcSADHEcQOPH
  108F4 aHATRAN LETTER SHINcTAW
  108FB aHATRAN NUMBER ONEcFIVEcTENcTWENTYcONE HUNDREDaPHOENICIAN LETTER ALFcBETcGAMLcDELTcHEcWAU
  10906 aPHOENICIAN LETTER ZAIcHETcTETcYODcKAFcLAMDcMEMcNUNcSEMKcAINcPEcSADEcQOFcROSHcSHINcTAU
  10916 aPHOENICIAN NUMBER ONEcTENcTWENTYcONE HUNDREDcTWOcTHREE
  1091F aPHOENICIAN WORD SEPARATORaLYDIAN LETTER AcBcGcDcEcVcIcYcKcLcMcNcOcRcSScTcUcFcQcScTTcANcEN
  10937 aLYDIAN LETTER LYcNNcC
  1093F aLYDIAN TRIANGULAR MARK
  10980 aMEROITIC HIEROGLYPHIC LETTER AdEdIdOdYAdWAdBAdBA-2dPAdMAdNAdNA-2dNEdNE-2dRAdRA-2dLAdKHA
  10992 aMEROITIC HIEROGLYPHIC LETTER HHAdSAdSA-2dSEdKAdQAdTAdTA-2dTEdTE-2dTOdDAcSYMBOL VIDJ
  1099F aMEROITIC HIEROGLYPHIC SYMBOL VIDJ-2bCURSIVE LETTER AdEdIdOdYAdWAdBAdPAdMAdNAdNEdRAdLAdKHA
  109AE aMEROITIC CURSIVE LETTER HHAdSAdARCHAIC SAdSEdKAdQAdTAdTEdTOdDA
  109BC aMEROITIC CURSIVE FRACTION ELEVEN TWELFTHSdONE HALFcLOGOGRAM RMTdIMNcNUMBER ONEdTWOdTHREE
  109C3 aMEROITIC CURSIVE NUMBER FOURdFIVEdSIXdSEVENdEIGHTdNINEdTENdTWENTYdTHIRTYdFORTYdFIFTY
  109CE aMEROITIC CURSIVE NUMBER SIXTYdSEVENTY
  109D2 aMEROITIC CURSIVE NUMBER ONE HUNDREDdTWO HUNDREDdTHREE HUNDREDdFOUR HUNDREDdFIVE HUNDRED
  109D7 aMEROITIC CURSIVE NUMBER SIX HUNDREDdSEVEN HUNDREDdEIGHT HUNDREDdNINE HUNDREDdONE THOUSAND
  109DC aMEROITIC CURSIVE NUMBER TWO THOUSANDdTHREE THOUSANDdFOUR THOUSANDdFIVE THOUSAND
  109E0 aMEROITIC CURSIVE NUMBER SIX THOUSANDdSEVEN THOUSANDdEIGHT THOUSANDdNINE THOUSAND
  109E4 aMEROITIC CURSIVE NUMBER TEN THOUSANDdTWENTY THOUSANDdTHIRTY THOUSANDdFORTY THOUSAND
  109E8 aMEROITIC CURSIVE NUMBER FIFTY THOUSANDdSIXTY THOUSANDdSEVENTY THOUSANDdEIGHTY THOUSAND
  109EC aMEROITIC CURSIVE NUMBER NINETY THOUSANDdONE HUNDRED THOUSANDdTWO HUNDRED THOUSAND
  109EF aMEROITIC CURSIVE NUMBER THREE HUNDRED THOUSANDdFOUR HUNDRED THOUSAND
  109F1 aMEROITIC CURSIVE NUMBER FIVE HUNDRED THOUSANDdSIX HUNDRED THOUSANDdSEVEN HUNDRED THOUSAND
  109F4 aMEROITIC CURSIVE NUMBER EIGHT HUNDRED THOUSANDdNINE HUNDRED THOUSANDcFRACTION ONE TWELFTH
  109F7 aMEROITIC CURSIVE FRACTION TWO TWELFTHSdTHREE TWELFTHSdFOUR TWELFTHSdFIVE TWELFTHS
  109FB aMEROITIC CURSIVE FRACTION SIX TWELFTHSdSEVEN TWELFTHSdEIGHT TWELFTHSdNINE TWELFTHS
  109FF aMEROITIC CURSIVE FRACTION TEN TWELFTHSaKHAROSHTHI LETTER AbVOWEL SIGN IdUdVOCALIC R
  10A05 aKHAROSHTHI VOWEL SIGN EdO
  10A0C aKHAROSHTHI VOWEL LENGTH MARKbSIGN DOUBLE RING BELOWcANUSVARAcVISARGAbLETTER KAcKHAcGAcGHA
  10A15 aKHAROSHTHI LETTER CAcCHAcJA
  10A19 aKHAROSHTHI LETTER NYAcTTAcTTHAcDDAcDDHAcNNAcTAcTHAcDAcDHAcNAcPAcPHAcBAcBHAcMAcYAcRAcLAcVA
  10A2D aKHAROSHTHI LETTER SHAcSSAcSAcZAcHAcKKAcTTTHAcTTTAcVHA
  10A38 aKHAROSHTHI SIGN BAR ABOVEcCAUDAcDOT BELOW
  10A3F aKHAROSHTHI VIRAMAbDIGIT ONEcTWOcTHREEcFOURbNUMBER TENcTWENTYcONE HUNDREDdTHOUSAND
  10A48 aKHAROSHTHI FRACTION ONE HALF
  10A50 aKHAROSHTHI PUNCTUATION DOTcSMALL CIRCLEcCIRCLEcCRESCENT BARcMANGALAMcLOTUScDANDA
  10A57 aKHAROSHTHI PUNCTUATION DOUBLE DANDAcLINES
  10A60 aOLD SOUTH ARABIAN LETTER HEeLAMEDHeHETHeMEMeQOPHeWAWeSHINeRESHeBETHeTAWeSATeKAPHeNUN
  10A6D aOLD SOUTH ARABIAN LETTER KHETHeSADHEeSAMEKHeFEeALEFeAYNeDHADHEeGIMELeDALETHeGHAYNeTETH
  10A78 aOLD SOUTH ARABIAN LETTER ZAYNeDHALETHeYODHeTHAWeTHETHdNUMBER ONEeFIFTYdNUMERIC INDICATOR
  10A80 aOLD NORTH ARABIAN LETTER HEHeLAMeHAHeMEEMeQAFeWAWeES-2eREHeBEHeTEHeES-1eKAFeNOONeKHAHeSAD
  10A8F aOLD NORTH ARABIAN LETTER ES-3eFEHeALEFeAINeDADeGEEMeDALeGHAINeTAHeZAINeTHALeYEHeTHEHeZAH
  10A9D aOLD NORTH ARABIAN NUMBER ONEeTENeTWENTY
  10AC0 aMANICHAEAN LETTER ALEPHcBETHcBHETHcGIMELcGHIMELcDALETHcHEcWAWbSIGN UDbLETTER ZAYINcZHAYIN
  10ACB aMANICHAEAN LETTER JAYINcJHAYINcHETHcTETHcYODHcKAPHcXAPHcKHAPHcLAMEDHcDHAMEDHcTHAMEDHcMEM
  10AD7 aMANICHAEAN LETTER NUNcSAMEKHcAYINcAAYINcPEcFEcSADHEcQOPHcXOPHcQHOPHcRESHcSHINcSSHINcTAW
  10AE5 aMANICHAEAN ABBREVIATION MARK ABOVEdBELOW
  10AEB aMANICHAEAN NUMBER ONEcFIVEcTENcTWENTYcONE HUNDREDbPUNCTUATION STARcFLEURON
  10AF2 aMANICHAEAN PUNCTUATION DOUBLE DOT WITHIN DOTcDOT WITHIN DOTcDOTcTWO DOTScLINE FILLER
  10B00 aAVESTAN LETTER AcAAcAOcAAOcANcAANcAEcAEEcEcEEcOcOOcIcIIcUcUUcKEcXEcXYEcXVEcGEcGGEcGHEcCE
  10B18 aAVESTAN LETTER JEcTEcTHEcDEcDHEcTTEcPEcFEcBEcBHEcNGEcNGYEcNGVEcNEcNYEcNNEcMEcHMEcYYEcYE
  10B2C aAVESTAN LETTER VEcREcLEcSEcZEcSHEcZHEcSHYEcSSHEcHE
  10B39 aAVESTAN ABBREVIATION MARKaTINY TWO DOTS OVER ONE DOT PUNCTUATION
  10B3B aSMALL TWO DOTS OVER ONE DOT PUNCTUATIONaLARGE TWO DOTS OVER ONE DOT PUNCTUATION
  10B3D aLARGE ONE DOT OVER TWO DOTS PUNCTUATIONbTWO RINGS OVER ONE RING PUNCTUATION
  10B3F aLARGE ONE RING OVER TWO RINGS PUNCTUATIONaINSCRIPTIONAL PARTHIAN LETTER ALEPHdBETHdGIMEL
  10B43 aINSCRIPTIONAL PARTHIAN LETTER DALETHdHEdWAWdZAYINdHETHdTETHdYODHdKAPHdLAMEDHdMEMdNUN
  10B4E aINSCRIPTIONAL PARTHIAN LETTER SAMEKHdAYINdPEdSADHEdQOPHdRESHdSHINdTAW
  10B58 aINSCRIPTIONAL PARTHIAN NUMBER ONEdTWOdTHREEdFOURdTENdTWENTYdONE HUNDREDeTHOUSAND
  10B60 aINSCRIPTIONAL PAHLAVI LETTER ALEPHdBETHdGIMELdDALETHdHEdWAW-AYIN-RESHdZAYINdHETHdTETH
  10B69 aINSCRIPTIONAL PAHLAVI LETTER YODHdKAPHdLAMEDHdMEM-QOPHdNUNdSAMEKHdPEdSADHEdSHINdTAW
  10B78 aINSCRIPTIONAL PAHLAVI NUMBER ONEdTWOdTHREEdFOURdTENdTWENTYdONE HUNDREDeTHOUSAND
  10B80 aPSALTER PAHLAVI LETTER ALEPHdBETHdGIMELdDALETHdHEdWAW-AYIN-RESHdZAYINdHETHdYODHdKAPH
  10B8A aPSALTER PAHLAVI LETTER LAMEDHdMEM-QOPHdNUNdSAMEKHdPEdSADHEdSHINdTAW
  10B99 aPSALTER PAHLAVI SECTION MARKcTURNED SECTION MARKcFOUR DOTS WITH CROSSfDOT
  10BA9 aPSALTER PAHLAVI NUMBER ONEdTWOdTHREEdFOURdTENdTWENTYdONE HUNDRED
  10C00 aOLD TURKIC LETTER ORKHON AdYENISEI AeAEdORKHON IdYENISEI IeEdORKHON OeOEdYENISEI OE
  10C09 aOLD TURKIC LETTER ORKHON ABdYENISEI ABdORKHON AEBdYENISEI AEBdORKHON AGdYENISEI AG
  10C0F aOLD TURKIC LETTER ORKHON AEGdYENISEI AEGdORKHON ADdYENISEI ADdORKHON AEDeEZdYENISEI EZ
  10C16 aOLD TURKIC LETTER ORKHON AYdYENISEI AYdORKHON AEYdYENISEI AEYdORKHON AEKdYENISEI AEK
  10C1C aOLD TURKIC LETTER ORKHON OEKdYENISEI OEKdORKHON ALdYENISEI ALdORKHON AELeELTeEMeANeAEN
  10C25 aOLD TURKIC LETTER YENISEI AENdORKHON ENTdYENISEI ENTdORKHON ENCdYENISEI ENCdORKHON ENY
  10C2B aOLD TURKIC LETTER YENISEI ENYeANGdORKHON ENGdYENISEI AENGdORKHON EPeOPeICeECdYENISEI EC
  10C34 aOLD TURKIC LETTER ORKHON AQdYENISEI AQdORKHON IQdYENISEI IQdORKHON OQdYENISEI OQ
  10C3A aOLD TURKIC LETTER ORKHON ARdYENISEI ARdORKHON AEReASeAESeASHdYENISEI ASHdORKHON ESH
  10C42 aOLD TURKIC LETTER YENISEI ESHdORKHON ATdYENISEI ATdORKHON AETdYENISEI AETdORKHON OTeBASH
  10C80 aOLD HUNGARIAN CAPITAL LETTER AeAAeEBeAMBeECeENCeECSeEDeANDeEeCLOSE EeEEeEFeEGeEGYeEHeIeII
  10C92 aOLD HUNGARIAN CAPITAL LETTER EJeEKeAKeUNKeELeELYeEMeENeENYeOeOOeNIKOLSBURG OE
  10C9E aOLD HUNGARIAN CAPITAL LETTER RUDIMENTA OEeOEEeEPeEMPeEReSHORT EReESeESZeETeENTeETYeECHeU
  10CAB aOLD HUNGARIAN CAPITAL LETTER UUeNIKOLSBURG UEeRUDIMENTA UEeEVeEZeEZSeENT-SHAPED SIGNeUS
  10CC0 aOLD HUNGARIAN SMALL LETTER AeAAeEBeAMBeECeENCeECSeEDeANDeEeCLOSE EeEEeEFeEGeEGYeEHeIeII
  10CD2 aOLD HUNGARIAN SMALL LETTER EJeEKeAKeUNKeELeELYeEMeENeENYeOeOOeNIKOLSBURG OEeRUDIMENTA OE
  10CDF aOLD HUNGARIAN SMALL LETTER OEEeEPeEMPeEReSHORT EReESeESZeETeENTeETYeECHeUeUU
  10CEC aOLD HUNGARIAN SMALL LETTER NIKOLSBURG UEeRUDIMENTA UEeEVeEZeEZSeENT-SHAPED SIGNeUS
  10CFA aOLD HUNGARIAN NUMBER ONEdFIVEdTENdFIFTYdONE HUNDREDeTHOUSANDaHANIFI ROHINGYA LETTER AdBA
  10D02 aHANIFI ROHINGYA LETTER PAdTAdTTAdJAdCAdHAdKHAdFAdDAdDDAdRAdRRAdZAdSAdSHAdKAdGAdLAdMAdNA
  10D16 aHANIFI ROHINGYA LETTER WAdKINNA WAdYAdKINNA YAdNGAdNYAdVAcVOWEL AdIdUdEdOcMARK SAKIN
  10D23 aHANIFI ROHINGYA MARK NA KHONNAcSIGN HARBAHAYdTAHALAdTANAdTASSI
  10D30 aHANIFI ROHINGYA DIGIT ZEROdONEdTWOdTHREEdFOURdFIVEdSIXdSEVENdEIGHTdNINE
  10E60 aRUMI DIGIT ONEcTWOcTHREEcFOURcFIVEcSIXcSEVENcEIGHTcNINEbNUMBER TENcTWENTYcTHIRTYcFORTY
  10E6D aRUMI NUMBER FIFTYcSIXTYcSEVENTYcEIGHTYcNINETYcONE HUNDREDcTWO HUNDREDcTHREE HUNDRED
  10E75 aRUMI NUMBER FOUR HUNDREDcFIVE HUNDREDcSIX HUNDREDcSEVEN HUNDREDcEIGHT HUNDRED
  10E7A aRUMI NUMBER NINE HUNDREDbFRACTION ONE HALFdQUARTERdTHIRDcTWO THIRDS
  10E80 aYEZIDI LETTER ELIFcBEcPEcPHEcTHEcSEcCIMcCHIMcCHHIMcHHAcXAcDALcZALcRAcRHAcZAcJAcSINcSHIN
  10E93 aYEZIDI LETTER SADcDADcTAcZEcEYNcXHEYNcFAcVAdALTERNATE FORMcQAFcKAFcKHAFcGAFcLAMcMIMcNUN
  10EA3 aYEZIDI LETTER UMcWAWcOWcEWcHAYcYOTcET
  10EAB aYEZIDI COMBINING HAMZA MARKcMADDA MARKbHYPHENATION MARK
  10EB0 aYEZIDI LETTER LAM WITH DOT ABOVEcYOT WITH CIRCUMFLEX ABOVE
  10F00 aOLD SOGDIAN LETTER ALEPHdFINAL ALEPHdBETHdFINAL BETHdGIMELdHEdFINAL HEdWAWdZAYINdHETH
  10F0A aOLD SOGDIAN LETTER YODHdKAPHdLAMEDHdMEMdNUNdFINAL NUNfWITH VERTICAL TAILdSAMEKHdAYIN
  10F13 aOLD SOGDIAN LETTER ALTERNATE AYINdPEdSADHEdFINAL SADHEfWITH VERTICAL TAIL
  10F18 aOLD SOGDIAN LETTER RESH-AYIN-DALETHdSHINdTAWdFINAL TAWfWITH VERTICAL TAILcNUMBER ONEdTWO
  10F1F aOLD SOGDIAN NUMBER THREEdFOURdFIVEdTENdTWENTYdTHIRTYdONE HUNDREDcFRACTION ONE HALF
  10F27 aOLD SOGDIAN LIGATURE AYIN-DALETH
  10F30 aSOGDIAN LETTER ALEPHcBETHcGIMELcHEcWAWcZAYINcHETHcYODHcKAPHcLAMEDHcMEMcNUNcSAMEKHcAYINcPE
  10F3F aSOGDIAN LETTER SADHEcRESH-AYINcSHINcTAWcFETHcLESHbINDEPENDENT SHINbCOMBINING DOT BELOW
  10F47 aSOGDIAN COMBINING TWO DOTS BELOWcDOT ABOVEcTWO DOTS ABOVEcCURVE ABOVEdBELOWcHOOK ABOVE
  10F4D aSOGDIAN COMBINING HOOK BELOWcLONG HOOK BELOWcRESH BELOWcSTROKE BELOWbNUMBER ONEcTEN
  10F53 aSOGDIAN NUMBER TWENTYcONE HUNDREDbPUNCTUATION TWO VERTICAL BARSfWITH DOTScCIRCLE WITH DOT
  10F58 aSOGDIAN PUNCTUATION TWO CIRCLES WITH DOTScHALF CIRCLE WITH DOT
  10F70 aOLD UYGHUR LETTER ALEPHdBETHdGIMEL-HETHdWAWdZAYINdFINAL HETHdYODHdKAPHdLAMEDHdMEMdNUN
  10F7B aOLD UYGHUR LETTER SAMEKHdPEdSADHEdRESHdSHINdTAWdLESHcCOMBINING DOT ABOVEeBELOW
  10F84 aOLD UYGHUR COMBINING TWO DOTS ABOVEfBELOWcPUNCTUATION BARdTWO BARSeDOTSdFOUR DOTS
  10FB0 aCHORASMIAN LETTER ALEPHcSMALL ALEPHcBETHcGIMELcDALETHcHEcWAWcCURLED WAWcZAYINcHETHcYODH
  10FBB aCHORASMIAN LETTER KAPHcLAMEDHcMEMcNUNcSAMEKHcAYINcPEcRESHcSHINcTAWbNUMBER ONEcTWOcTHREE
  10FC8 aCHORASMIAN NUMBER FOURcTENcTWENTYcONE HUNDRED
  10FE0 aELYMAIC LETTER ALEPHcBETHcGIMELcDALETHcHEcWAWcZAYINcHETHcTETHcYODHcKAPHcLAMEDHcMEMcNUN
  10FEE aELYMAIC LETTER SAMEKHcAYINcPEcSADHEcQOPHcRESHcSHINcTAWbLIGATURE ZAYIN-YODH
  11000 aBRAHMI SIGN CANDRABINDUcANUSVARAcVISARGAcJIHVAMULIYAcUPADHMANIYAbLETTER AcAAcIcIIcUcUU
  1100B aBRAHMI LETTER VOCALIC RdRRdLdLLcEcAIcOcAUcKAcKHAcGAcGHAcNGAcCAcCHAcJAcJHAcNYAcTTAcTTHA
  1101F aBRAHMI LETTER DDAcDDHAcNNAcTAcTHAcDAcDHAcNAcPAcPHAcBAcBHAcMAcYAcRAcLAcVAcSHAcSSAcSAcHA
  11034 aBRAHMI LETTER LLAcOLD TAMIL LLLAeRRAeNNNAbVOWEL SIGN AAdBHATTIPROLU AAdIdIIdUdUU
  1103E aBRAHMI VOWEL SIGN VOCALIC ReRReLeLLdEdAIdOdAUbVIRAMAbDANDAbDOUBLE DANDAbPUNCTUATION DOT
  1104A aBRAHMI PUNCTUATION DOUBLE DOTcLINEcCRESCENT BARcLOTUS
  11052 aBRAHMI NUMBER ONEcTWOcTHREEcFOURcFIVEcSIXcSEVENcEIGHTcNINEcTENcTWENTYcTHIRTYcFORTYcFIFTY
  11060 aBRAHMI NUMBER SIXTYcSEVENTYcEIGHTYcNINETYcONE HUNDREDdTHOUSANDbDIGIT ZEROcONEcTWOcTHREE
  1106A aBRAHMI DIGIT FOURcFIVEcSIXcSEVENcEIGHTcNINEbSIGN OLD TAMIL VIRAMA
  11071 aBRAHMI LETTER OLD TAMIL SHORT EfObVOWEL SIGN OLD TAMIL SHORT EgObLETTER OLD TAMIL LLA
  1107F aBRAHMI NUMBER JOINERaKAITHI SIGN CANDRABINDUcANUSVARAcVISARGAbLETTER AcAAcIcIIcUcUUcEcAI
  1108B aKAITHI LETTER OcAUcKAcKHAcGAcGHAcNGAcCAcCHAcJAcJHAcNYAcTTAcTTHAcDDAcDDDHAcDDHAcRHAcNNAcTA
  1109F aKAITHI LETTER THAcDAcDHAcNAcPAcPHAcBAcBHAcMAcYAcRAcLAcVAcSHAcSSAcSAcHAbVOWEL SIGN AAdIdII
  110B3 aKAITHI VOWEL SIGN UdUUdEdAIdOdAUbSIGN VIRAMAcNUKTAbABBREVIATION SIGNbENUMERATION SIGN
  110BD aKAITHI NUMBER SIGNbSECTION MARKbDOUBLE SECTION MARKbDANDAbDOUBLE DANDA
  110C2 aKAITHI VOWEL SIGN VOCALIC R
  110CD aKAITHI NUMBER SIGN ABOVE
  110D0 aSORA SOMPENG LETTER SAHdTAHdBAHdCAHdDAHdGAHdMAHdNGAHdLAHdNAHdVAHdPAHdYAHdRAHdHAHdKAHdJAH
  110E1 aSORA SOMPENG LETTER NYAHdAHdEEHdIHdUHdOHdEHdMAE
  110F0 aSORA SOMPENG DIGIT ZEROdONEdTWOdTHREEdFOURdFIVEdSIXdSEVENdEIGHTdNINE
  11100 aCHAKMA SIGN CANDRABINDUcANUSVARAcVISARGAbLETTER AAcIcUcEcKAAcKHAAcGAAcGHAAcNGAAcCAAcCHAA
  1110E aCHAKMA LETTER JAAcJHAAcNYAAcTTAAcTTHAAcDDAAcDDHAAcNNAAcTAAcTHAAcDAAcDHAAcNAAcPAAcPHAAcBAA
  1111E aCHAKMA LETTER BHAAcMAAcYYAAcYAAcRAAcLAAcWAAcSAAcHAAbVOWEL SIGN AdIdIIdUdUUdEdAIdOdAUdOI
  11131 aCHAKMA O MARKbAU MARKbVIRAMAbMAAYYAA
  11136 aCHAKMA DIGIT ZEROcONEcTWOcTHREEcFOURcFIVEcSIXcSEVENcEIGHTcNINEbSECTION MARKbDANDA
  11142 aCHAKMA DOUBLE DANDAbQUESTION MARKbLETTER LHAAbVOWEL SIGN AAdEIbLETTER VAA
  11150 aMAHAJANI LETTER AcIcUcEcOcKAcKHAcGAcGHAcCAcCHAcJAcJHAcNYAcTTAcTTHAcDDAcDDHAcNNAcTAcTHAcDA
  11166 aMAHAJANI LETTER DHAcNAcPAcPHAcBAcBHAcMAcRAcLAcVAcSAcHAcRRAbSIGN NUKTAbABBREVIATION SIGN
  11175 aMAHAJANI SECTION MARKbLIGATURE SHRI
  11180 aSHARADA SIGN CANDRABINDUcANUSVARAcVISARGAbLETTER AcAAcIcIIcUcUUcVOCALIC RdRRdLdLLcEcAIcO
  11190 aSHARADA LETTER AUcKAcKHAcGAcGHAcNGAcCAcCHAcJAcJHAcNYAcTTAcTTHAcDDAcDDHAcNNAcTAcTHAcDAcDHA
  111A4 aSHARADA LETTER NAcPAcPHAcBAcBHAcMAcYAcRAcLAcLLAcVAcSHAcSSAcSAcHAbVOWEL SIGN AAdIdIIdUdUU
  111B8 aSHARADA VOWEL SIGN VOCALIC ReRReLeLLdEdAIdOdAUbSIGN VIRAMAcAVAGRAHAcJIHVAMULIYA
  111C3 aSHARADA SIGN UPADHMANIYAbOMbDANDAbDOUBLE DANDAbABBREVIATION SIGNbSEPARATORbSANDHI MARK
  111CA aSHARADA SIGN NUKTAbVOWEL MODIFIER MARKbEXTRA SHORT VOWEL MARKbSUTRA MARK
  111CE aSHARADA VOWEL SIGN PRISHTHAMATRA EbSIGN INVERTED CANDRABINDUbDIGIT ZEROcONEcTWOcTHREE
  111D4 aSHARADA DIGIT FOURcFIVEcSIXcSEVENcEIGHTcNINEbEKAMbSIGN SIDDHAMbHEADSTROKE
  111DD aSHARADA CONTINUATION SIGNbSECTION MARK-1cMARK-2
  111E1 aSINHALA ARCHAIC DIGIT ONEdTWOdTHREEdFOURdFIVEdSIXdSEVENdEIGHTdNINEcNUMBER TENdTWENTY
  111EC aSINHALA ARCHAIC NUMBER THIRTYdFORTYdFIFTYdSIXTYdSEVENTYdEIGHTYdNINETYdONE HUNDRED
  111F4 aSINHALA ARCHAIC NUMBER ONE THOUSAND
  11200 aKHOJKI LETTER AcAAcIcUcEcAIcOcAUcKAcKHAcGAcGGAcGHAcNGAcCAcCHAcJAcJJA
  11213 aKHOJKI LETTER NYAcTTAcTTHAcDDAcDDHAcNNAcTAcTHAcDAcDDDAcDHAcNAcPAcPHAcBAcBBAcBHAcMAcYAcRA
  11227 aKHOJKI LETTER LAcVAcSAcHAcLLAbVOWEL SIGN AAdIdIIdUdEdAIdOdAUbSIGN ANUSVARAcVIRAMAcNUKTA
  11237 aKHOJKI SIGN SHADDAbDANDAbDOUBLE DANDAbWORD SEPARATORbSECTION MARKbDOUBLE SECTION MARK
  1123D aKHOJKI ABBREVIATION SIGNbSIGN SUKUN
  11280 aMULTANI LETTER AcIcUcEcKAcKHAcGA
  11288 aMULTANI LETTER GHA
  1128A aMULTANI LETTER CAcCHAcJAcJJA
  1128F aMULTANI LETTER NYAcTTAcTTHAcDDAcDDDAcDDHAcNNAcTAcTHAcDAcDHAcNAcPAcPHAcBA
  1129F aMULTANI LETTER BHAcMAcYAcRAcLAcVAcSAcHAcRRAcRHAbSECTION MARK
  112B0 aKHUDAWADI LETTER AcAAcIcIIcUcUUcEcAIcOcAUcKAcKHAcGAcGGAcGHAcNGAcCAcCHAcJAcJJAcJHAcNYAcTTA
  112C7 aKHUDAWADI LETTER TTHAcDDAcDDDAcRRAcDDHAcNNAcTAcTHAcDAcDHAcNAcPAcPHAcBAcBBAcBHAcMAcYAcRA
  112DA aKHUDAWADI LETTER LAcVAcSHAcSAcHAbSIGN ANUSVARAbVOWEL SIGN AAdIdIIdUdUUdEdAIdOdAU
  112E9 aKHUDAWADI SIGN NUKTAcVIRAMA
  112F0 aKHUDAWADI DIGIT ZEROcONEcTWOcTHREEcFOURcFIVEcSIXcSEVENcEIGHTcNINE
  11300 aGRANTHA SIGN COMBINING ANUSVARA ABOVEcCANDRABINDUcANUSVARAcVISARGA
  11305 aGRANTHA LETTER AcAAcIcIIcUcUUcVOCALIC RdL
  1130F aGRANTHA LETTER EEcAI
  11313 aGRANTHA LETTER OOcAUcKAcKHAcGAcGHAcNGAcCAcCHAcJAcJHAcNYAcTTAcTTHAcDDAcDDHAcNNAcTAcTHAcDA
  11327 aGRANTHA LETTER DHAcNA
  1132A aGRANTHA LETTER PAcPHAcBAcBHAcMAcYAcRA
  11332 aGRANTHA LETTER LAcLLA
  11335 aGRANTHA LETTER VAcSHAcSSAcSAcHA
  1133B aCOMBINING BINDU BELOWaGRANTHA SIGN NUKTAcAVAGRAHAbVOWEL SIGN AAdIdIIdUdUUdVOCALIC ReRR
  11347 aGRANTHA VOWEL SIGN EEdAI
  1134B aGRANTHA VOWEL SIGN OOdAUbSIGN VIRAMA
  11350 aGRANTHA OM
  11357 aGRANTHA AU LENGTH MARK
  1135D aGRANTHA SIGN PLUTAbLETTER VEDIC ANUSVARAdDOUBLE ANUSVARAcVOCALIC RRdLL
  11362 aGRANTHA VOWEL SIGN VOCALIC LeLL
  11366 aCOMBINING GRANTHA DIGIT ZEROdONEdTWOdTHREEdFOURdFIVEdSIX
  11370 aCOMBINING GRANTHA LETTER AdKAdNAdVIdPA
  11400 aNEWA LETTER AcAAcIcIIcUcUUcVOCALIC RdRRdLdLLcEcAIcOcAUcKAcKHAcGAcGHAcNGAcNGHAcCAcCHAcJA
  11417 aNEWA LETTER JHAcNYAcNYHAcTTAcTTHAcDDAcDDHAcNNAcTAcTHAcDAcDHAcNAcNHAcPAcPHAcBAcBHAcMAcMHA
  1142B aNEWA LETTER YAcRAcRHAcLAcLHAcWAcSHAcSSAcSAcHAbVOWEL SIGN AAdIdIIdUdUUdVOCALIC ReRReLeLLdE
  1143F aNEWA VOWEL SIGN AIdOdAUbSIGN VIRAMAcCANDRABINDUcANUSVARAcVISARGAcNUKTAcAVAGRAHA
  11448 aNEWA SIGN FINAL ANUSVARAbOMbSIDDHIbDANDAbDOUBLE DANDAbCOMMAbGAP FILLERbABBREVIATION SIGN
  11450 aNEWA DIGIT ZEROcONEcTWOcTHREEcFOURcFIVEcSIXcSEVENcEIGHTcNINEbDOUBLE COMMA
  1145B aNEWA PLACEHOLDER MARK
  1145D aNEWA INSERTION SIGNbSANDHI MARKbLETTER VEDIC ANUSVARAbSIGN JIHVAMULIYAcUPADHMANIYA
  11480 aTIRHUTA ANJIbLETTER AcAAcIcIIcUcUUcVOCALIC RdRRdLdLLcEcAIcOcAUcKAcKHAcGAcGHAcNGAcCAcCHA
  11496 aTIRHUTA LETTER JAcJHAcNYAcTTAcTTHAcDDAcDDHAcNNAcTAcTHAcDAcDHAcNAcPAcPHAcBAcBHAcMAcYAcRA
  114AA aTIRHUTA LETTER LAcVAcSHAcSSAcSAcHAbVOWEL SIGN AAdIdIIdUdUUdVOCALIC ReRReLeLLdEdSHORT EdAI
  114BC aTIRHUTA VOWEL SIGN OdSHORT OdAUbSIGN CANDRABINDUcANUSVARAcVISARGAcVIRAMAcNUKTAcAVAGRAHA
  114C5 aTIRHUTA GVANGbABBREVIATION SIGNbOM
  114D0 aTIRHUTA DIGIT ZEROcONEcTWOcTHREEcFOURcFIVEcSIXcSEVENcEIGHTcNINE
  11580 aSIDDHAM LETTER AcAAcIcIIcUcUUcVOCALIC RdRRdLdLLcEcAIcOcAUcKAcKHAcGAcGHAcNGAcCAcCHAcJAcJHA
  11597 aSIDDHAM LETTER NYAcTTAcTTHAcDDAcDDHAcNNAcTAcTHAcDAcDHAcNAcPAcPHAcBAcBHAcMAcYAcRAcLAcVA
  115AB aSIDDHAM LETTER SHAcSSAcSAcHAbVOWEL SIGN AAdIdIIdUdUUdVOCALIC ReRR
  115B8 aSIDDHAM VOWEL SIGN EdAIdOdAUbSIGN CANDRABINDUcANUSVARAcVISARGAcVIRAMAcNUKTAcSIDDHAMbDANDA
  115C3 aSIDDHAM DOUBLE DANDAbSEPARATOR DOTcBARbREPETITION MARK-1cMARK-2cMARK-3bEND OF TEXT MARK
  115CA aSIDDHAM SECTION MARK WITH TRIDENT AND U-SHAPED ORNAMENTSgDOTTED CRESCENTS
  115CC aSIDDHAM SECTION MARK WITH RAYS AND DOTTED CRESCENTShDOUBLE CRESCENTShTRIPLE CRESCENTS
  115CF aSIDDHAM SECTION MARK DOUBLE RINGfWITH RAYSdWITH DOUBLE CRESCENTSeTRIPLE CRESCENTS
  115D3 aSIDDHAM SECTION MARK WITH QUADRUPLE CRESCENTSeSEPTUPLE CRESCENTSeCIRCLES AND RAYS
  115D6 aSIDDHAM SECTION MARK WITH CIRCLES AND TWO ENCLOSURESgFOUR ENCLOSURES
  115D8 aSIDDHAM LETTER THREE-CIRCLE ALTERNATE IcTWO-CIRCLE ALTERNATE IeIIcALTERNATE U
  115DC aSIDDHAM VOWEL SIGN ALTERNATE UeUU
  11600 aMODI LETTER AcAAcIcIIcUcUUcVOCALIC RdRRdLdLLcEcAIcOcAUcKAcKHAcGAcGHAcNGAcCAcCHAcJAcJHA
  11617 aMODI LETTER NYAcTTAcTTHAcDDAcDDHAcNNAcTAcTHAcDAcDHAcNAcPAcPHAcBAcBHAcMAcYAcRAcLAcVAcSHA
  1162C aMODI LETTER SSAcSAcHAcLLAbVOWEL SIGN AAdIdIIdUdUUdVOCALIC ReRReLeLLdEdAIdOdAU
  1163D aMODI SIGN ANUSVARAcVISARGAcVIRAMAcARDHACANDRAbDANDAbDOUBLE DANDAbABBREVIATION SIGN
  11644 aMODI SIGN HUVA
  11650 aMODI DIGIT ZEROcONEcTWOcTHREEcFOURcFIVEcSIXcSEVENcEIGHTcNINE
  11660 aMONGOLIAN BIRGA WITH ORNAMENTbROTATED BIRGAbDOUBLE BIRGA WITH ORNAMENT
  11663 aMONGOLIAN TRIPLE BIRGA WITH ORNAMENTbBIRGA WITH DOUBLE ORNAMENT
  11665 aMONGOLIAN ROTATED BIRGA WITH ORNAMENTeDOUBLE ORNAMENTbINVERTED BIRGAdWITH DOUBLE ORNAMENT
  11669 aMONGOLIAN SWIRL BIRGAdWITH ORNAMENTeDOUBLE ORNAMENT
  1166C aMONGOLIAN TURNED SWIRL BIRGA WITH DOUBLE ORNAMENT
  11680 aTAKRI LETTER AcAAcIcIIcUcUUcEcAIcOcAUcKAcKHAcGAcGHAcNGAcCAcCHAcJAcJHAcNYAcTTAcTTHAcDDA
  11697 aTAKRI LETTER DDHAcNNAcTAcTHAcDAcDHAcNAcPAcPHAcBAcBHAcMAcYAcRAcLAcVAcSHAcSAcHAcRRA
  116AB aTAKRI SIGN ANUSVARAcVISARGAbVOWEL SIGN AAdIdIIdUdUUdEdAIdOdAUbSIGN VIRAMAcNUKTA
  116B8 aTAKRI LETTER ARCHAIC KHAbABBREVIATION SIGN
  116C0 aTAKRI DIGIT ZEROcONEcTWOcTHREEcFOURcFIVEcSIXcSEVENcEIGHTcNINE
  11700 aAHOM LETTER KAcKHAcNGAcNAcTAcALTERNATE TAcPAcPHAcBAcMAcJAcCHAcTHAcRAcLAcSAcNYAcHAcAcDA
  11714 aAHOM LETTER DHAcGAcALTERNATE GAcGHAcBHAcJHAcALTERNATE BA
  1171D aAHOM CONSONANT SIGN MEDIAL LAeRAeLIGATING RAbVOWEL SIGN AdAAdIdIIdUdUUdEdAWdOdAIdAM
  1172B aAHOM SIGN KILLER
  11730 aAHOM DIGIT ZEROcONEcTWOcTHREEcFOURcFIVEcSIXcSEVENcEIGHTcNINEbNUMBER TENcTWENTY
  1173C aAHOM SIGN SMALL SECTIONcSECTIONcRULAIbSYMBOL VIbLETTER CAcTTAcTTHAcDDAcDDHAcNNAcLLA
  11800 aDOGRA LETTER AcAAcIcIIcUcUUcEcAIcOcAUcKAcKHAcGAcGHAcNGAcCAcCHAcJAcJHAcNYAcTTAcTTHAcDDA
  11817 aDOGRA LETTER DDHAcNNAcTAcTHAcDAcDHAcNAcPAcPHAcBAcBHAcMAcYAcRAcLAcVAcSHAcSSAcSAcHAcRRA
  1182C aDOGRA VOWEL SIGN AAdIdIIdUdUUdVOCALIC ReRRdEdAIdOdAUbSIGN ANUSVARAcVISARGAcVIRAMAcNUKTA
  1183B aDOGRA ABBREVIATION SIGN
  118A0 aWARANG CITI CAPITAL LETTER NGAAeAeWIeYUeYAeYOeIIeUUeEeOeANGeGAeKOeENYeYUJeUCeENNeODDeTTE
  118B3 aWARANG CITI CAPITAL LETTER NUNGeDAeATeAMeBUePUeHIYOeHOLOeHORReHAReSSUUeSIIeVIYO
  118C0 aWARANG CITI SMALL LETTER NGAAeAeWIeYUeYAeYOeIIeUUeEeOeANGeGAeKOeENYeYUJeUCeENNeODDeTTE
  118D3 aWARANG CITI SMALL LETTER NUNGeDAeATeAMeBUePUeHIYOeHOLOeHORReHAReSSUUeSIIeVIYOcDIGIT ZERO
  118E1 aWARANG CITI DIGIT ONEdTWOdTHREEdFOURdFIVEdSIXdSEVENdEIGHTdNINEcNUMBER TENdTWENTYdTHIRTY
  118ED aWARANG CITI NUMBER FORTYdFIFTYdSIXTYdSEVENTYdEIGHTYdNINETY
  118FF aWARANG CITI OMaDIVES AKURU LETTER AdAAdIdIIdUdUUdE
  11909 aDIVES AKURU LETTER O
  1190C aDIVES AKURU LETTER KAdKHAdGAdGHAdNGAdCAdCHAdJA
  11915 aDIVES AKURU LETTER NYAdTTA
  11918 aDIVES AKURU LETTER DDAdDDHAdNNAdTAdTHAdDAdDHAdNAdPAdPHAdBAdBHAdMAdYAdYYAdRAdLAdVAdSHAdSSA
  1192C aDIVES AKURU LETTER SAdHAdLLAdZAcVOWEL SIGN AAeIeIIeUeUUeE
  11937 aDIVES AKURU VOWEL SIGN AIeO
  1193B aDIVES AKURU SIGN ANUSVARAdCANDRABINDUdHALANTAcVIRAMAcPREFIXED NASAL SIGNcMEDIAL YA
  11941 aDIVES AKURU INITIAL RAcMEDIAL RAcSIGN NUKTAcDOUBLE DANDAcGAP FILLERcEND OF TEXT MARK
  11950 aDIVES AKURU DIGIT ZEROdONEdTWOdTHREEdFOURdFIVEdSIXdSEVENdEIGHTdNINE
  119A0 aNANDINAGARI LETTER AcAAcIcIIcUcUUcVOCALIC RdRR
  119AA aNANDINAGARI LETTER EcAIcOcAUcKAcKHAcGAcGHAcNGAcCAcCHAcJAcJHAcNYAcTTAcTTHAcDDAcDDHAcNNAcTA
  119BE aNANDINAGARI LETTER THAcDAcDHAcNAcPAcPHAcBAcBHAcMAcYAcRAcLAcVAcSHAcSSAcSAcHAcLLAcRRA
  119D1 aNANDINAGARI VOWEL SIGN AAdIdIIdUdUUdVOCALIC ReRR
  119DA aNANDINAGARI VOWEL SIGN EdAIdOdAUbSIGN ANUSVARAcVISARGAcVIRAMAcAVAGRAHAcSIDDHAMbHEADSTROKE
  119E4 aNANDINAGARI VOWEL SIGN PRISHTHAMATRA E
  11A00 aZANABAZAR SQUARE LETTER AcVOWEL SIGN IeUEeUeEeOEeOeAIeAUeREVERSED IdLENGTH MARKcLETTER KA
  11A0C aZANABAZAR SQUARE LETTER KHAdGAdGHAdNGAdCAdCHAdJAdNYAdTTAdTTHAdDDAdDDHAdNNAdTAdTHAdDAdDHA
  11A1D aZANABAZAR SQUARE LETTER NAdPAdPHAdBAdBHAdMAdTSAdTSHAdDZAdDZHAdZHAdZAd-AdYAdRAdLAdVAdSHA
  11A2F aZANABAZAR SQUARE LETTER SSAdSAdHAdKSSAcFINAL CONSONANT MARKcSIGN VIRAMAdCANDRABINDU
  11A36 aZANABAZAR SQUARE SIGN CANDRABINDU WITH ORNAMENTdCANDRA WITH ORNAMENTdANUSVARAdVISARGA
  11A3A aZANABAZAR SQUARE CLUSTER-INITIAL LETTER RAcCLUSTER-FINAL LETTER YAeRAeLAeVA
  11A3F aZANABAZAR SQUARE INITIAL HEAD MARKcCLOSING HEAD MARKcMARK TSHEGdSHADdDOUBLE SHAD
  11A44 aZANABAZAR SQUARE MARK LONG TSHEGcINITIAL DOUBLE-LINED HEAD MARK
  11A46 aZANABAZAR SQUARE CLOSING DOUBLE-LINED HEAD MARKcSUBJOINER
  11A50 aSOYOMBO LETTER AbVOWEL SIGN IdUEdUdEdOdOEdAIdAUdVOCALIC ReLcLENGTH MARKbLETTER KAcKHAcGA
  11A5F aSOYOMBO LETTER GHAcNGAcCAcCHAcJAcJHAcNYAcTTAcTTHAcDDAcDDHAcNNAcTAcTHAcDAcDHAcNAcPAcPHAcBA
  11A73 aSOYOMBO LETTER BHAcMAcTSAcTSHAcDZAcZHAcZAc-AcYAcRAcLAcVAcSHAcSSAcSAcHAcKSSA
  11A84 aSOYOMBO SIGN JIHVAMULIYAcUPADHMANIYAbCLUSTER-INITIAL LETTER RAdLAdSHAdSA
  11A8A aSOYOMBO FINAL CONSONANT SIGN GeKeNGeDeNeBeMeReLeSHeSe-AbSIGN ANUSVARAcVISARGA
  11A98 aSOYOMBO GEMINATION MARKbSUBJOINERbMARK TSHEGcSHADcDOUBLE SHADcPLUTA
  11A9E aSOYOMBO HEAD MARK WITH MOON AND SUN AND TRIPLE FLAMEiFLAMEgSUNbTERMINAL MARK-1cMARK-2
  11AB0 aCANADIAN SYLLABICS NATTILIK HIdHIIdHOdHOOdHAdHAAdSHRIdSHRIIdSHROdSHROOdSHRAdSHRAAcSPEcSPI
  11ABE aCANADIAN SYLLABICS SPOcSPAaPAU CIN HAU LETTER PAeKAeLAeMAeDAeZAeVAeNGAeHAeGAeKHAeSAeBAeCA
  11ACE aPAU CIN HAU LETTER TAeTHAeNAePHAeRAeFAeCHAeAeEeIeOeUeUAeIAeFINAL PfKfTfMfNfLfWfNGfY
  11AE5 aPAU CIN HAU RISING TONE LONGeTONEdSANDHI GLOTTAL STOPdRISING TONE LONG FINALfFINAL
  11AEA aPAU CIN HAU SANDHI GLOTTAL STOP FINALeTONE LONGeTONEfLONG FINALfFINALdMID-LEVEL TONE
  11AF0 aPAU CIN HAU GLOTTAL STOP VARIANTdMID-LEVEL TONE LONG FINALfFINALdLOW-FALLING TONE LONG
  11AF4 aPAU CIN HAU LOW-FALLING TONEdGLOTTAL STOPdLOW-FALLING TONE LONG FINALfFINAL
  11AF8 aPAU CIN HAU GLOTTAL STOP FINAL
  11C00 aBHAIKSUKI LETTER AcAAcIcIIcUcUUcVOCALIC RdRRdL
  11C0A aBHAIKSUKI LETTER EcAIcOcAUcKAcKHAcGAcGHAcNGAcCAcCHAcJAcJHAcNYAcTTAcTTHAcDDAcDDHAcNNAcTA
  11C1E aBHAIKSUKI LETTER THAcDAcDHAcNAcPAcPHAcBAcBHAcMAcYAcRAcLAcVAcSHAcSSAcSAcHAbVOWEL SIGN AAdI
  11C31 aBHAIKSUKI VOWEL SIGN IIdUdUUdVOCALIC ReRReL
  11C38 aBHAIKSUKI VOWEL SIGN EdAIdOdAUbSIGN CANDRABINDUcANUSVARAcVISARGAcVIRAMAcAVAGRAHAbDANDA
  11C42 aBHAIKSUKI DOUBLE DANDAbWORD SEPARATORbGAP FILLER-1cFILLER-2
  11C50 aBHAIKSUKI DIGIT ZEROcONEcTWOcTHREEcFOURcFIVEcSIXcSEVENcEIGHTcNINEbNUMBER ONEcTWOcTHREE
  11C5D aBHAIKSUKI NUMBER FOURcFIVEcSIXcSEVENcEIGHTcNINEcTENcTWENTYcTHIRTYcFORTYcFIFTYcSIXTY
  11C69 aBHAIKSUKI NUMBER SEVENTYcEIGHTYcNINETYbHUNDREDS UNIT MARK
  11C70 aMARCHEN HEAD MARKbMARK SHADbLETTER KAcKHAcGAcNGAcCAcCHAcJAcNYAcTAcTHAcDAcNAcPAcPHAcBAcMA
  11C82 aMARCHEN LETTER TSAcTSHAcDZAcWAcZHAcZAc-AcYAcRAcLAcSHAcSAcHAcA
  11C92 aMARCHEN SUBJOINED LETTER KAdKHAdGAdNGAdCAdCHAdJAdNYAdTAdTHAdDAdNAdPAdPHAdBAdMAdTSAdTSHA
  11CA4 aMARCHEN SUBJOINED LETTER DZAdWAdZHAdZA
  11CA9 aMARCHEN SUBJOINED LETTER YAdRAdLAdSHAdSAdHAdAbVOWEL SIGN AAdIdUdEdObSIGN ANUSVARA
  11CB6 aMARCHEN SIGN CANDRABINDU
  11D00 aMASARAM GONDI LETTER AdAAdIdIIdUdUUdE
  11D08 aMASARAM GONDI LETTER AIdO
  11D0B aMASARAM GONDI LETTER AUdKAdKHAdGAdGHAdNGAdCAdCHAdJAdJHAdNYAdTTAdTTHAdDDAdDDHAdNNAdTAdTHA
  11D1D aMASARAM GONDI LETTER DAdDHAdNAdPAdPHAdBAdBHAdMAdYAdRAdLAdVAdSHAdSSAdSAdHAdLLAdKSSAdJNYA
  11D30 aMASARAM GONDI LETTER TRAcVOWEL SIGN AAeIeIIeUeUUeVOCALIC R
  11D3A aMASARAM GONDI VOWEL SIGN E
  11D3C aMASARAM GONDI VOWEL SIGN AIeO
  11D3F aMASARAM GONDI VOWEL SIGN AUcSIGN ANUSVARAdVISARGAdNUKTAdCANDRAdHALANTAcVIRAMAcREPHA
  11D47 aMASARAM GONDI RA-KARA
  11D50 aMASARAM GONDI DIGIT ZEROdONEdTWOdTHREEdFOURdFIVEdSIXdSEVENdEIGHTdNINE
  11D60 aGUNJALA GONDI LETTER AdAAdIdIIdUdUU
  11D67 aGUNJALA GONDI LETTER EEdAI
  11D6A aGUNJALA GONDI LETTER OOdAUdYAdVAdBAdBHAdMAdKAdKHAdTAdTHAdLAdGAdGHAdDAdDHAdNAdCAdCHAdTTA
  11D7E aGUNJALA GONDI LETTER TTHAdLLAdJAdJHAdDDAdDDHAdNGAdPAdPHAdHAdRAdSAcVOWEL SIGN AAeIeIIeUeUU
  11D90 aGUNJALA GONDI VOWEL SIGN EEeAI
  11D93 aGUNJALA GONDI VOWEL SIGN OOeAUcSIGN ANUSVARAdVISARGAcVIRAMAcOM
  11DA0 aGUNJALA GONDI DIGIT ZEROdONEdTWOdTHREEdFOURdFIVEdSIXdSEVENdEIGHTdNINE
  11EE0 aMAKASAR LETTER KAcGAcNGAcPAcBAcMAcTAcDAcNAcCAcJAcNYAcYAcRAcLAcVAcSAcAbANGKAbVOWEL SIGN I
  11EF4 aMAKASAR VOWEL SIGN UdEdObPASSIMBANGbEND OF SECTION
  11FB0 aLISU LETTER YHA
  11FC0 aTAMIL FRACTION ONE THREE-HUNDRED-AND-TWENTIETHdONE-HUNDRED-AND-SIXTIETHdEIGHTIETH
  11FC3 aTAMIL FRACTION ONE SIXTY-FOURTHdFORTIETHdTHIRTY-SECONDcTHREE EIGHTIETHSdSIXTY-FOURTHS
  11FC8 aTAMIL FRACTION ONE TWENTIETHdSIXTEENTH-1dSIXTEENTH-2dTENTHdEIGHTHcTHREE TWENTIETHS
  11FCE aTAMIL FRACTION THREE SIXTEENTHScONE FIFTHdQUARTERdHALF-1dHALF-2cTHREE QUARTERS
  11FD4 aTAMIL FRACTION DOWNSCALING FACTOR KIIZHbSIGN NELcCEVITUcAAZHAAKKUcUZHAKKUcMUUVUZHAKKU
  11FDA aTAMIL SIGN KURUNIcPATHAKKUcMUKKURUNIcKAACUcPANAMcPONcVARAAKANcPAARAMcKUZHIcVELI
  11FE4 aTAMIL WET CULTIVATION SIGNbDRY CULTIVATION SIGNbLAND SIGNbSALT PAN SIGN
  11FE8 aTAMIL TRADITIONAL CREDIT SIGNcNUMBER SIGNbCURRENT SIGNbAND ODD SIGNbSPENT SIGNbTOTAL SIGN
  11FEE aTAMIL IN POSSESSION SIGNbSTARTING FROM SIGNbSIGN MUTHALIYAcVAKAIYARAA
  11FFF aTAMIL PUNCTUATION END OF TEXTaCUNEIFORM SIGN AdTIMES AeBADeGAN2 TENUeHAeIGIeLAGAR GUNU
  12007 aCUNEIFORM SIGN A TIMES MUSHeSAGcA2cABdTIMES ASH2eDUN3 GUNUeGALeGAN2 TENUeHAeIGI GUNUeIMIN
  12012 aCUNEIFORM SIGN AB TIMES LAGABeSHESHeU PLUS U PLUS UdGUNUcAB2dTIMES BALAGeGAN2 TENU
  12019 aCUNEIFORM SIGN AB2 TIMES ME PLUS ENeSHA3eTAK4cADcAKdTIMES ERIN2eSHITA PLUS GISHcAL
  12021 aCUNEIFORM SIGN AL TIMES ALeDIM2eGISHeHAeKAD3eKIeSHEeUSHcALANcALEPHcAMARdTIMES SHEcAN
  1202E aCUNEIFORM SIGN AN OVER ANdTHREE TIMESdPLUS NAGA OPPOSING AN PLUS NAGAfSQUAREDcANSHEcAPIN
  12034 aCUNEIFORM SIGN ARADdTIMES KURcARKABcASAL2cASHdZIDA TENUdKABA TENU
  1203B aCUNEIFORM SIGN ASH OVER ASH TUG2 OVER TUG2 TUG2 OVER TUG2 PAPfOVER ASH
  1203D aCUNEIFORM SIGN ASH OVER ASH OVER ASH CROSSING ASH OVER ASH OVER ASHcASH2cASHGABcBAcBAD
  12042 aCUNEIFORM SIGN BAG3cBAHAR2cBALdOVER BALcBALAGcBARcBARA2cBIdTIMES AeGAReIGI GUNUcBU
  1204E aCUNEIFORM SIGN BU OVER BU ABfUNdCROSSING BUcBULUGdOVER BULUGcBURcBUR2cDAcDAG
  12057 aCUNEIFORM SIGN DAG KISIM5 TIMES A PLUS MASHfAMARfBALAGfBIfGAgPLUS MASHfGIfGIR2fGUDfHAfIR
  12062 aCUNEIFORM SIGN DAG KISIM5 TIMES IR PLUS LUfKAKfLAfLUgPLUS MASH2fLUMfNEfPAP PLUS PAPfSI
  1206B aCUNEIFORM SIGN DAG KISIM5 TIMES TAK4fU2 PLUS GIR2fUSHcDAMcDARcDARA3cDARA4cDIcDIBcDIM
  12075 aCUNEIFORM SIGN DIM TIMES SHEcDIM2cDINdKASKAL U GUNU DISHcDISHcDUdOVER DUdGUNUdSHESHIGcDUB
  1207F aCUNEIFORM SIGN DUB TIMES ESH2cDUB2cDUGcDUGUDcDUHcDUNcDUN3dGUNUeGUNUcDUN4cDUR2cEdTIMES PAP
  1208C aCUNEIFORM SIGN E OVER E NUN OVER NUNcE2dTIMES A PLUS HA PLUS DAeGAReMIeSALeSHEeUcEDIN
  12095 aCUNEIFORM SIGN EGIRcELcENdTIMES GAN2fTENUeMEdCROSSING ENdOPPOSING ENdSQUAREDcERENcERIN2
  120A0 aCUNEIFORM SIGN ESH2cEZENdTIMES AfPLUS LALhTIMES LALeANeBADeDUN3 GUNUgGUNUeHAfGUNU
  120AB aCUNEIFORM SIGN EZEN TIMES IGI GUNUeKASKALfSQUAREDeKU3eLAeLAL TIMES LALeLIeLUeU2eUDcGA
  120B6 aCUNEIFORM SIGN GA GUNUcGA2dTIMES A PLUS DA PLUS HAgHAgIGIeAB2 TENU PLUS TABeANeASH
  120BE aCUNEIFORM SIGN GA2 TIMES ASH2 PLUS GALeBADeBAR PLUS RAeBURfPLUS RAeDAeDIeDIM TIMES SHE
  120C6 aCUNEIFORM SIGN GA2 TIMES DUBeELfPLUS LAeENfTIMES GAN2 TENUeGAN2 TENUeGAReGIeGI4fPLUS A
  120D0 aCUNEIFORM SIGN GA2 TIMES GIR2 PLUS SUeHA PLUS LU PLUS ESH2eHALfPLUS LAeHI PLUS LIeHUB2
  120D6 aCUNEIFORM SIGN GA2 TIMES IGI GUNUeISH PLUS HU PLUS ASHeKAKeKASKALeKIDfPLUS LAL
  120DC aCUNEIFORM SIGN GA2 TIMES KU3 PLUS ANeLAeME PLUS ENeMIeNUNfOVER NUNePAeSALeSAReSHE
  120E6 aCUNEIFORM SIGN GA2 TIMES SHE PLUS TUReSHIDeSUMeTAK4eUeUDfPLUS DUdOVER GA2cGABA
  120EF aCUNEIFORM SIGN GABA CROSSING GABAcGADdOVER GAD GAR OVER GARcGALdGAD OVER GAD GAR OVER GAR
  120F4 aCUNEIFORM SIGN GALAMcGAMcGANcGAN2dTENUdOVER GAN2dCROSSING GAN2cGARcGAR3cGASHANcGESHTIN
  120FF aCUNEIFORM SIGN GESHTIN TIMES KURcGIdTIMES EeUdCROSSING GIcGI4dOVER GI4dCROSSING GI4cGIDIM
  12108 aCUNEIFORM SIGN GIR2dGUNUcGIR3dTIMES A PLUS IGIeGAN2 TENUeIGIeLU PLUS IGIePAcGISALcGISH
  12112 aCUNEIFORM SIGN GISH CROSSING GISHdTIMES BADeTAK4dTENUcGUdCROSSING GUcGU2dTIMES KAK
  1211A aCUNEIFORM SIGN GU2 TIMES KAK TIMES IGI GUNUeNUNeSAL PLUS TUG2dGUNUcGUDdTIMES A PLUS KUR
  12120 aCUNEIFORM SIGN GUD TIMES KURdOVER GUD LUGALcGULcGUMdTIMES SHEcGURcGUR7cGURUNcGURUSHcHA
  1212A aCUNEIFORM SIGN HA TENUdGUNUcHALcHIdTIMES ASHeASH2eBADeDISHeGADeKINeNUNeSHEeUcHUcHUB2
  12139 aCUNEIFORM SIGN HUB2 TIMES ANeHALeKASKALeLISHeUDcHUL2cIdAcIBcIDIMdOVER IDIM BURfSQUAREDcIG
  12146 aCUNEIFORM SIGN IGIdDIBdRIdOVER IGI SHIR OVER SHIR UD OVER UDdGUNUcILdTIMES GAN2 TENUcIL2
  1214E aCUNEIFORM SIGN IMdTIMES TAK4dCROSSING IMdOPPOSING IMdSQUAREDcIMINcINcIRcISHcKAdTIMES AeAD
  1215A aCUNEIFORM SIGN KA TIMES AD PLUS KU3eASH2eBADeBALAGeBAReBIeERIN2eESH2eGAeGALeGAN2 TENUeGAR
  12166 aCUNEIFORM SIGN KA TIMES GAR PLUS SHA3 PLUS AeGIeGIR2eGISH PLUS SARfCROSSING GISHeGUeGUR7
  1216D aCUNEIFORM SIGN KA TIMES IGIeIMeKAKeKIeKIDeLIeLUeMEfPLUS DUgGIgTEeMIfPLUS NUNUZeNEeNUNePI
  1217D aCUNEIFORM SIGN KA TIMES RUeSAeSAReSHAeSHEeSHIDeSHUeSIGeSUHUReTAReUeU2eUDeUMUM TIMES PA
  1218B aCUNEIFORM SIGN KA TIMES USHeZIcKA2dCROSSING KA2cKABcKAD2cKAD3cKAD4cKAD5dOVER KAD5cKAK
  12196 aCUNEIFORM SIGN KAK TIMES IGI GUNUcKALdTIMES BADdCROSSING KALcKAM2cKAM4cKASKAL
  1219D aCUNEIFORM SIGN KASKAL LAGAB TIMES U OVER LAGAB TIMES U
  1219E aCUNEIFORM SIGN KASKAL OVER KASKAL LAGAB TIMES U OVER LAGAB TIMES UcKESH2cKIdTIMES BADeU
  121A3 aCUNEIFORM SIGN KI TIMES UDcKIDcKINcKISALcKISHcKISIM5dOVER KISIM5cKU
  121AB aCUNEIFORM SIGN KU OVER HI TIMES ASH2 KU OVER HI TIMES ASH2cKU3cKU4dVARIANT FORMcKU7cKUL
  121B1 aCUNEIFORM SIGN KUL GUNUcKUNcKURdOPPOSING KURcKUSHU2cKWU318cLAcLAGABdTIMES A
  121BA aCUNEIFORM SIGN LAGAB TIMES A PLUS DA PLUS HAgGARgLALeALeANeASH ZIDA TENUeBADeBIeDAReENeGA
  121C5 aCUNEIFORM SIGN LAGAB TIMES GAReGUDfPLUS GUDeHAeHALeHI TIMES NUNeIGI GUNUeIMfPLUS HAgLUeKI
  121D0 aCUNEIFORM SIGN LAGAB TIMES KINeKU3eKULfPLUS HI PLUS AeLAGABeLISHeLUeLULeMEfPLUS ENeMUSH
  121DB aCUNEIFORM SIGN LAGAB TIMES NEeSHE PLUS SUMeSHITA PLUS GISH PLUS ERIN2hTENUeSHU2fPLUS SHU2
  121E1 aCUNEIFORM SIGN LAGAB TIMES SUMeTAGeTAK4eTE PLUS A PLUS SU PLUS NAeUfPLUS AgU PLUS U
  121E8 aCUNEIFORM SIGN LAGAB TIMES U2 PLUS ASHeUDeUSHdSQUAREDcLAGARdTIMES SHEfPLUS SUMdGUNU
  121F0 aCUNEIFORM SIGN LAGAR GUNU OVER LAGAR GUNU SHEcLAHSHUcLALdTIMES LALcLAMdTIMES KURfPLUS RU
  121F7 aCUNEIFORM SIGN LIcLILcLIMMU2cLISHcLUdTIMES BADcLU2dTIMES ALeBADeESH2fTENUeGAN2 TENU
  12203 aCUNEIFORM SIGN LU2 TIMES HI TIMES BADeIMeKAD2eKAD3fPLUS ASHeKIeLA PLUS ASHeLAGAB
  1220B aCUNEIFORM SIGN LU2 TIMES ME PLUS ENeNEeNUeSI PLUS ASHeSIK2 PLUS BUeTUG2dTENUdCROSSING LU2
  12213 aCUNEIFORM SIGN LU2 OPPOSING LU2dSQUAREDdSHESHIGcLU3cLUGALdOVER LUGALdOPPOSING LUGAL
  1221A aCUNEIFORM SIGN LUGAL SHESHIGcLUHcLULcLUMdOVER LUMfGAR OVER GARcMAdTIMES TAK4dGUNUcMA2cMAH
  12225 aCUNEIFORM SIGN MARcMASHcMASH2cMEcMEScMIcMINcMUdOVER MUcMUGdGUNUcMUNSUBcMURGU2cMUSH
  12233 aCUNEIFORM SIGN MUSH TIMES AeKUReZAdOVER MUSHfTIMES A PLUS NAdCROSSING MUSHcMUSH3dTIMES A
  1223B aCUNEIFORM SIGN MUSH3 TIMES A PLUS DIeDIdGUNUcNAcNA2cNAGAdINVERTEDdTIMES SHU TENU
  12243 aCUNEIFORM SIGN NAGA OPPOSING NAGAcNAGARcNAM NUTILLUcNAMcNAM2cNEdTIMES AeUDdSHESHIGcNI
  1224D aCUNEIFORM SIGN NI TIMES EcNI2cNIMdTIMES GAN2 TENUeGAR PLUS GAN2 TENUcNINDA2dTIMES ANeASH
  12255 aCUNEIFORM SIGN NINDA2 TIMES ASH PLUS ASHeGUDeME PLUS GAN2 TENUeNEeNUNeSHEfPLUS A ANgASH
  1225D aCUNEIFORM SIGN NINDA2 TIMES SHE PLUS ASH PLUS ASHeU2 PLUS ASHeUSHcNISAGcNUcNU11cNUN
  12264 aCUNEIFORM SIGN NUN LAGAR TIMES GARfMASHfSALgOVER NUN LAGAR TIMES SALfUSHdTENUdOVER NUN
  1226B aCUNEIFORM SIGN NUN CROSSING NUNfLAGAR OVER LAGARcNUNUZdAB2 TIMES ASHGABfBIfDUGfGUD
  12272 aCUNEIFORM SIGN NUNUZ AB2 TIMES IGI GUNUfKAD3fLAfNEfSILA3fU2dKISIM5 TIMES BIgUcPAcPADcPAN
  1227D aCUNEIFORM SIGN PAPcPESH2cPIdTIMES AeABeBIeBUeEeIeIBeUeU2dCROSSING PIcPIRIGdTIMES KALeUD
  1228D aCUNEIFORM SIGN PIRIG TIMES ZAdOPPOSING PIRIGcRAcRABcRIcRUcSAcSAG NUTILLUcSAGdTIMES AeDU
  12298 aCUNEIFORM SIGN SAG TIMES DUBeHAeKAKeKUReLUMeMIeNUNeSALeSHIDeTABeU2eUBeUMeUReUSHdOVER SAG
  122A8 aCUNEIFORM SIGN SAG GUNUcSALdLAGAB TIMES ASH2cSANGA2cSARcSHAcSHA3dTIMES AeBADeGISHeNEeSHU2
  122B4 aCUNEIFORM SIGN SHA3 TIMES TUReUfPLUS AcSHA6cSHAB6cSHAR2cSHEdHU
  122BC aCUNEIFORM SIGN SHE OVER SHE GAD OVER GAD GAR OVER GARfTAB OVER TAB GAR OVER GARcSHEG9
  122BF aCUNEIFORM SIGN SHENcSHESHcSHESH2cSHESHLAMcSHIDdTIMES AeIMcSHIMdTIMES AeBALeBULUGeDINeGAR
  122CC aCUNEIFORM SIGN SHIM TIMES IGIfGUNUeKUSHU2eLULeMUGeSALcSHINIGcSHIRdTENU
  122D5 aCUNEIFORM SIGN SHIR OVER SHIR BUR OVER BURcSHITAcSHUdOVER INVERTED SHUcSHU2cSHUBURcSI
  122DC aCUNEIFORM SIGN SI GUNUcSIGcSIG4dOVER SIG4 SHU2cSIK2cSILA3cSUdOVER SUcSUDcSUD2cSUHURcSUM
  122E8 aCUNEIFORM SIGN SUMASHcSURcSUR9cTAdASTERISKdTIMES HIeMIdGUNUcTAB
  122F1 aCUNEIFORM SIGN TAB OVER TAB NI OVER NI DISH OVER DISHdSQUAREDcTAGdTIMES BIeGUDeSHEeSHU
  122F8 aCUNEIFORM SIGN TAG TIMES TUG2eUDcTAK4cTARcTEdGUNUcTIdTENUcTILcTIRdTIMES TAK4dOVER TIR
  12304 aCUNEIFORM SIGN TIR OVER TIR GAD OVER GAD GAR OVER GARcTUcTUG2cTUKcTUMcTUR
  1230A aCUNEIFORM SIGN TUR OVER TUR ZA OVER ZAcUdGUDdU UdOVER U PA OVER PA GAR OVER GAR
  1230F aCUNEIFORM SIGN U OVER U SUR OVER SURfU REVERSED OVER U REVERSEDcU2cUBcUDdKUSHU2dTIMES BAD
  12316 aCUNEIFORM SIGN UD TIMES MIeU PLUS U PLUS UjGUNUdGUNUdSHESHIGeTIMES BADcUDUGcUM
  1231E aCUNEIFORM SIGN UM TIMES LAGABeME PLUS DAeSHA3eUcUMBINcUMUMdTIMES KASKALePAcUNdGUNUcUR
  12329 aCUNEIFORM SIGN UR CROSSING URdSHESHIGcUR2dTIMES A PLUS HAgNAeALeHAeNUNeU2fPLUS ASHgBIcUR4
  12335 aCUNEIFORM SIGN URIcURI3cURUdTIMES AeASHGABeBAReDUNeGAeGALeGAN2 TENUeGAReGUeHAeIGIeIMeISH
  12345 aCUNEIFORM SIGN URU TIMES KIeLUMeMINePAeSHEeSIG4eTUeU PLUS GUDeUDeURUDAcURUDAdTIMES UcUSH
  12352 aCUNEIFORM SIGN USH TIMES AeKUeKUReTAK4cUSHXcUSH2cUSHUMXcUTUKIcUZ3dTIMES KASKALcUZUcZA
  1235E aCUNEIFORM SIGN ZA TENUdSQUARED TIMES KURcZAGcZAMXcZE2cZIdOVER ZIcZI3cZIBdKABA TENUcZIG
  12369 aCUNEIFORM SIGN ZIZ2cZUcZU5dTIMES AcZUBURcZUMcKAP ELAMITEcAB TIMES NUNcAB2 TIMES A
  12372 aCUNEIFORM SIGN AMAR TIMES KUGcDAG KISIM5 TIMES U2 PLUS MASHcDAG3cDISH PLUS SHU
  12376 aCUNEIFORM SIGN DUB TIMES SHEcEZEN TIMES GUDeSHEcGA2 TIMES AN PLUS KAK PLUS AeASH2cGE22
  1237C aCUNEIFORM SIGN GIGcHUSHcKA TIMES ANSHEeASH3eGISHeGUDeHI TIMES ASH2eLUMePAeSHULeTUeUR2
  12388 aCUNEIFORM SIGN LAGAB TIMES GIcLU2 SHESHIG TIMES BADdTIMES ESH2 PLUS LALeSHUcMESH
  1238D aCUNEIFORM SIGN MUSH3 TIMES ZAcNA4cNINcNIN9cNINDA2 TIMES BALeGI
  12393 aCUNEIFORM SIGN NU11 ROTATED NINETY DEGREEScPESH2 ASTERISKcPIR2cSAG TIMES IGI GUNUcTI2
  12398 aCUNEIFORM SIGN UM TIMES MEcU U
  12400 aCUNEIFORM NUMERIC SIGN TWO ASHdTHREE ASHdFOUR ASHdFIVE ASHdSIX ASHdSEVEN ASHdEIGHT ASH
  12407 aCUNEIFORM NUMERIC SIGN NINE ASHdTHREE DISHdFOUR DISHdFIVE DISHdSIX DISHdSEVEN DISH
  1240D aCUNEIFORM NUMERIC SIGN EIGHT DISHdNINE DISHdFOUR UdFIVE UdSIX UdSEVEN UdEIGHT UdNINE U
  12415 aCUNEIFORM NUMERIC SIGN ONE GESH2dTWO GESH2dTHREE GESH2dFOUR GESH2dFIVE GESH2dSIX GESH2
  1241B aCUNEIFORM NUMERIC SIGN SEVEN GESH2dEIGHT GESH2dNINE GESH2dONE GESHUdTWO GESHUdTHREE GESHU
  12421 aCUNEIFORM NUMERIC SIGN FOUR GESHUdFIVE GESHUdTWO SHAR2dTHREE SHAR2fVARIANT FORM
  12426 aCUNEIFORM NUMERIC SIGN FOUR SHAR2dFIVE SHAR2dSIX SHAR2dSEVEN SHAR2dEIGHT SHAR2dNINE SHAR2
  1242C aCUNEIFORM NUMERIC SIGN ONE SHARUdTWO SHARUdTHREE SHARUfVARIANT FORMdFOUR SHARUdFIVE SHARU
  12432 aCUNEIFORM NUMERIC SIGN SHAR2 TIMES GAL PLUS DISHhMINdONE BURUdTWO BURUdTHREE BURU
  12437 aCUNEIFORM NUMERIC SIGN THREE BURU VARIANT FORMdFOUR BURUdFIVE BURU
  1243A aCUNEIFORM NUMERIC SIGN THREE VARIANT FORM ESH16gESH21dFOUR VARIANT FORM LIMMUgLIMMU4
  1243E aCUNEIFORM NUMERIC SIGN FOUR VARIANT FORM LIMMU AhBdSIX VARIANT FORM ASH9
  12441 aCUNEIFORM NUMERIC SIGN SEVEN VARIANT FORM IMIN3gIMIN AhBdEIGHT VARIANT FORM USSUgUSSU3
  12446 aCUNEIFORM NUMERIC SIGN NINE VARIANT FORM ILIMMUgILIMMU3gILIMMU4gILIMMU AdTWO ASH TENU
  1244B aCUNEIFORM NUMERIC SIGN THREE ASH TENUdFOUR ASH TENUdFIVE ASH TENUdSIX ASH TENUdONE BAN2
  12450 aCUNEIFORM NUMERIC SIGN TWO BAN2dTHREE BAN2dFOUR BAN2fVARIANT FORMdFIVE BAN2fVARIANT FORM
  12456 aCUNEIFORM NUMERIC SIGN NIGIDAMINdNIGIDAESHdONE ESHE3dTWO ESHE3dONE THIRD DISH
  1245B aCUNEIFORM NUMERIC SIGN TWO THIRDS DISHdFIVE SIXTHS DISHdONE THIRD VARIANT FORM A
  1245E aCUNEIFORM NUMERIC SIGN TWO THIRDS VARIANT FORM AdONE EIGHTH ASHeQUARTER ASH
  12461 aCUNEIFORM NUMERIC SIGN OLD ASSYRIAN ONE SIXTHgQUARTERdONE QUARTER GUReHALF GUR
  12465 aCUNEIFORM NUMERIC SIGN ELAMITE ONE THIRDeTWO THIRDSeFORTYeFIFTYdFOUR U VARIANT FORM
  1246A aCUNEIFORM NUMERIC SIGN FIVE U VARIANT FORMdSIX U VARIANT FORMdSEVEN U VARIANT FORM
  1246D aCUNEIFORM NUMERIC SIGN EIGHT U VARIANT FORMdNINE U VARIANT FORM
  12470 aCUNEIFORM PUNCTUATION SIGN OLD ASSYRIAN WORD DIVIDERdVERTICAL COLONdDIAGONAL COLON
  12473 aCUNEIFORM PUNCTUATION SIGN DIAGONAL TRICOLONeQUADCOLON
  12480 aCUNEIFORM SIGN AB TIMES NUN TENUeSHU2cAD TIMES ESH2cBAD TIMES DISH TENUcBAHAR2 TIMES AB2
  12485 aCUNEIFORM SIGN BAHAR2 TIMES NIeZAcBU OVER BU TIMES NA2cDA TIMES TAK4cDAG TIMES KUR
  1248A aCUNEIFORM SIGN DIM TIMES IGIeU U UcDIM2 TIMES UDcDUG TIMES ANSHEeASHfAT LEFTeDINeDUN
  12492 aCUNEIFORM SIGN DUG TIMES ERIN2eGAeGIeGIR2 GUNUeGISHeHAeHIeIGI GUNUeKASKALeKUReKUSHU2
  1249D aCUNEIFORM SIGN DUG TIMES KUSHU2 PLUS KASKALeLAK-020eLAMfTIMES KUReLUH PLUS GISHeMASHeMES
  124A4 aCUNEIFORM SIGN DUG TIMES MIeNIePIeSHEeSI GUNUcE2 TIMES KURePAPcERIN2 XcESH2 CROSSING ESH2
  124AD aCUNEIFORM SIGN EZEN SHESHIG TIMES ASHfHIfIGI GUNUfLAfLALfMEfMESfSUdTIMES SU
  124B6 aCUNEIFORM SIGN GA2 TIMES BAHAR2eDIM GUNUeDUG TIMES IGI GUNUgKASKALeERENeGAeGAR PLUS DIgNE
  124BE aCUNEIFORM SIGN GA2 TIMES HA PLUS AeKUSHU2 PLUS KASKALeLAMfTIMES KUReLUHeMUSHeNEfPLUS E2
  124C6 aCUNEIFORM SIGN GA2 TIMES NE PLUS GIeSHIMeZIZ2cGABA ROTATED NINETY DEGREEScGESHTIN TIMES U
  124CB aCUNEIFORM SIGN GISH TIMES GISH CROSSING GISHcGU2 TIMES IGI GUNUcGUD PLUS GISH TIMES TAK4
  124CE aCUNEIFORM SIGN HA TENU GUNUcHI TIMES ASH OVER HI TIMES ASHcKA TIMES BUeKAeU U UeUR
  124D4 aCUNEIFORM SIGN LAGAB TIMES ZU OVER ZUcLAK-003cLAK-021cLAK-025cLAK-030cLAK-050cLAK-051
  124DB aCUNEIFORM SIGN LAK-062cLAK-079 OVER LAK-079 GUNUcLAK-080cLAK-081 OVER LAK-081cLAK-092
  124E0 aCUNEIFORM SIGN LAK-130cLAK-142cLAK-210cLAK-219cLAK-220cLAK-225cLAK-228cLAK-238cLAK-265
  124E9 aCUNEIFORM SIGN LAK-266cLAK-343cLAK-347cLAK-348cLAK-383cLAK-384cLAK-390cLAK-441cLAK-449
  124F2 aCUNEIFORM SIGN LAK-449 TIMES GUeIGIePAP PLUS LU3gPAP PLUS LU3eU2 PLUS BAcLAK-450cLAK-457
  124F9 aCUNEIFORM SIGN LAK-470cLAK-483cLAK-490cLAK-492cLAK-493cLAK-495cLAK-550cLAK-608cLAK-617
  12502 aCUNEIFORM SIGN LAK-617 TIMES ASHeBADeDUN3 GUNU GUNUeKU3eLAeTAReTEeU2eUDeURUDAcLAK-636
  1250D aCUNEIFORM SIGN LAK-648dTIMES DUBeGAeIGIfGUNUeNIePAP PLUS PAP PLUS LU3eSHESH PLUS KIeUD
  12516 aCUNEIFORM SIGN LAK-648 TIMES URUDAcLAK-724cLAK-749cLU2 GUNU TIMES ASHdTIMES DISHeHALePAP
  1251D aCUNEIFORM SIGN LU2 TIMES PAP PLUS PAP PLUS LU3eTAK4cMI PLUS ZA7cMUSH OVER MUSH TIMES GA
  12521 aCUNEIFORM SIGN MUSH OVER MUSH TIMES KAKcNINDA2 TIMES DIM GUNUeGISHeGULeHIeKESH2eLAK-050
  12528 aCUNEIFORM SIGN NINDA2 TIMES MASHePAP PLUS PAPeUfPLUS UeURUDAcSAG GUNU TIMES HAdTIMES EN
  1252F aCUNEIFORM SIGN SAG TIMES SHE AT LEFTeTAK4cSHA6 TENUcSHE OVER SHEdPLUS HUB2eNAM2eSAR
  12536 aCUNEIFORM SIGN SHU2 PLUS DUG TIMES NIeE2 TIMES ANcSI TIMES TAK4cTAK4 PLUS SAG
  1253A aCUNEIFORM SIGN TUM TIMES GAN2 TENUeTHREE DISHcUR2 INVERTEDdTIMES UDcURU TIMES DARA3
  1253F aCUNEIFORM SIGN URU TIMES LAK-668eLU3cZA7cZU OVER ZU PLUS SARcZU5 TIMES THREE DISH TENU
  12F90 aCYPRO-MINOAN SIGN CM001cCM002cCM004cCM005cCM006cCM007cCM008cCM009cCM010cCM011cCM012
  12F9B aCYPRO-MINOAN SIGN CM012BcCM013cCM015cCM017cCM019cCM021cCM023cCM024cCM025cCM026cCM027
  12FA6 aCYPRO-MINOAN SIGN CM028cCM029cCM030cCM033cCM034cCM035cCM036cCM037cCM038cCM039cCM040cCM041
  12FB2 aCYPRO-MINOAN SIGN CM044cCM046cCM047cCM049cCM050cCM051cCM052cCM053cCM054cCM055cCM056cCM058
  12FBE aCYPRO-MINOAN SIGN CM059cCM060cCM061cCM062cCM063cCM064cCM066cCM067cCM068cCM069cCM070cCM071
  12FCA aCYPRO-MINOAN SIGN CM072cCM073cCM074cCM075cCM075BcCM076cCM078cCM079cCM080cCM081cCM082
  12FD5 aCYPRO-MINOAN SIGN CM083cCM084cCM085cCM086cCM087cCM088cCM089cCM090cCM091cCM092cCM094cCM095
  12FE1 aCYPRO-MINOAN SIGN CM096cCM097cCM098cCM099cCM100cCM101cCM102cCM103cCM104cCM105cCM107cCM108
  12FED aCYPRO-MINOAN SIGN CM109cCM110cCM112cCM114cCM301cCM302
  13000 aEGYPTIAN HIEROGLYPH A001cA002cA003cA004cA005cA005AcA006cA006AcA006BcA007cA008cA009cA010
  1300D aEGYPTIAN HIEROGLYPH A011cA012cA013cA014cA014AcA015cA016cA017cA017AcA018cA019cA020cA021
  1301A aEGYPTIAN HIEROGLYPH A022cA023cA024cA025cA026cA027cA028cA029cA030cA031cA032cA032AcA033
  13027 aEGYPTIAN HIEROGLYPH A034cA035cA036cA037cA038cA039cA040cA040AcA041cA042cA042AcA043cA043A
  13034 aEGYPTIAN HIEROGLYPH A044cA045cA045AcA046cA047cA048cA049cA050cA051cA052cA053cA054cA055
  13041 aEGYPTIAN HIEROGLYPH A056cA057cA058cA059cA060cA061cA062cA063cA064cA065cA066cA067cA068cA069
  1304F aEGYPTIAN HIEROGLYPH A070cB001cB002cB003cB004cB005cB005AcB006cB007cB008cB009cC001cC002
  1305C aEGYPTIAN HIEROGLYPH C002AcC002BcC002CcC003cC004cC005cC006cC007cC008cC009cC010cC010AcC011
  13069 aEGYPTIAN HIEROGLYPH C012cC013cC014cC015cC016cC017cC018cC019cC020cC021cC022cC023cC024cD001
  13077 aEGYPTIAN HIEROGLYPH D002cD003cD004cD005cD006cD007cD008cD008AcD009cD010cD011cD012cD013
  13084 aEGYPTIAN HIEROGLYPH D014cD015cD016cD017cD018cD019cD020cD021cD022cD023cD024cD025cD026cD027
  13092 aEGYPTIAN HIEROGLYPH D027AcD028cD029cD030cD031cD031AcD032cD033cD034cD034AcD035cD036cD037
  1309F aEGYPTIAN HIEROGLYPH D038cD039cD040cD041cD042cD043cD044cD045cD046cD046AcD047cD048cD048A
  130AC aEGYPTIAN HIEROGLYPH D049cD050cD050AcD050BcD050CcD050DcD050EcD050FcD050GcD050HcD050IcD051
  130B8 aEGYPTIAN HIEROGLYPH D052cD052AcD053cD054cD054AcD055cD056cD057cD058cD059cD060cD061cD062
  130C5 aEGYPTIAN HIEROGLYPH D063cD064cD065cD066cD067cD067AcD067BcD067CcD067DcD067EcD067FcD067G
  130D1 aEGYPTIAN HIEROGLYPH D067HcE001cE002cE003cE004cE005cE006cE007cE008cE008AcE009cE009AcE010
  130DE aEGYPTIAN HIEROGLYPH E011cE012cE013cE014cE015cE016cE016AcE017cE017AcE018cE019cE020cE020A
  130EB aEGYPTIAN HIEROGLYPH E021cE022cE023cE024cE025cE026cE027cE028cE028AcE029cE030cE031cE032
  130F8 aEGYPTIAN HIEROGLYPH E033cE034cE034AcE036cE037cE038cF001cF001AcF002cF003cF004cF005cF006
  13105 aEGYPTIAN HIEROGLYPH F007cF008cF009cF010cF011cF012cF013cF013AcF014cF015cF016cF017cF018
  13112 aEGYPTIAN HIEROGLYPH F019cF020cF021cF021AcF022cF023cF024cF025cF026cF027cF028cF029cF030
  1311F aEGYPTIAN HIEROGLYPH F031cF031AcF032cF033cF034cF035cF036cF037cF037AcF038cF038AcF039cF040
  1312C aEGYPTIAN HIEROGLYPH F041cF042cF043cF044cF045cF045AcF046cF046AcF047cF047AcF048cF049cF050
  13139 aEGYPTIAN HIEROGLYPH F051cF051AcF051BcF051CcF052cF053cG001cG002cG003cG004cG005cG006cG006A
  13146 aEGYPTIAN HIEROGLYPH G007cG007AcG007BcG008cG009cG010cG011cG011AcG012cG013cG014cG015cG016
  13153 aEGYPTIAN HIEROGLYPH G017cG018cG019cG020cG020AcG021cG022cG023cG024cG025cG026cG026AcG027
  13160 aEGYPTIAN HIEROGLYPH G028cG029cG030cG031cG032cG033cG034cG035cG036cG036AcG037cG037AcG038
  1316D aEGYPTIAN HIEROGLYPH G039cG040cG041cG042cG043cG043AcG044cG045cG045AcG046cG047cG048cG049
  1317A aEGYPTIAN HIEROGLYPH G050cG051cG052cG053cG054cH001cH002cH003cH004cH005cH006cH006AcH007
  13187 aEGYPTIAN HIEROGLYPH H008cI001cI002cI003cI004cI005cI005AcI006cI007cI008cI009cI009AcI010
  13194 aEGYPTIAN HIEROGLYPH I010AcI011cI011AcI012cI013cI014cI015cK001cK002cK003cK004cK005cK006
  131A1 aEGYPTIAN HIEROGLYPH K007cK008cL001cL002cL002AcL003cL004cL005cL006cL006AcL007cL008cM001
  131AE aEGYPTIAN HIEROGLYPH M001AcM001BcM002cM003cM003AcM004cM005cM006cM007cM008cM009cM010cM010A
  131BB aEGYPTIAN HIEROGLYPH M011cM012cM012AcM012BcM012CcM012DcM012EcM012FcM012GcM012HcM013cM014
  131C7 aEGYPTIAN HIEROGLYPH M015cM015AcM016cM016AcM017cM017AcM018cM019cM020cM021cM022cM022AcM023
  131D4 aEGYPTIAN HIEROGLYPH M024cM024AcM025cM026cM027cM028cM028AcM029cM030cM031cM031AcM032cM033
  131E1 aEGYPTIAN HIEROGLYPH M033AcM033BcM034cM035cM036cM037cM038cM039cM040cM040AcM041cM042cM043
  131EE aEGYPTIAN HIEROGLYPH M044cN001cN002cN003cN004cN005cN006cN007cN008cN009cN010cN011cN012cN013
  131FC aEGYPTIAN HIEROGLYPH N014cN015cN016cN017cN018cN018AcN018BcN019cN020cN021cN022cN023cN024
  13209 aEGYPTIAN HIEROGLYPH N025cN025AcN026cN027cN028cN029cN030cN031cN032cN033cN033AcN034cN034A
  13216 aEGYPTIAN HIEROGLYPH N035cN035AcN036cN037cN037AcN038cN039cN040cN041cN042cNL001cNL002cNL003
  13223 aEGYPTIAN HIEROGLYPH NL004cNL005cNL005AcNL006cNL007cNL008cNL009cNL010cNL011cNL012cNL013
  1322E aEGYPTIAN HIEROGLYPH NL014cNL015cNL016cNL017cNL017AcNL018cNL019cNL020cNU001cNU002cNU003
  13239 aEGYPTIAN HIEROGLYPH NU004cNU005cNU006cNU007cNU008cNU009cNU010cNU010AcNU011cNU011AcNU012
  13244 aEGYPTIAN HIEROGLYPH NU013cNU014cNU015cNU016cNU017cNU018cNU018AcNU019cNU020cNU021cNU022
  1324F aEGYPTIAN HIEROGLYPH NU022AcO001cO001AcO002cO003cO004cO005cO005AcO006cO006AcO006BcO006C
  1325B aEGYPTIAN HIEROGLYPH O006DcO006EcO006FcO007cO008cO009cO010cO010AcO010BcO010CcO011cO012
  13267 aEGYPTIAN HIEROGLYPH O013cO014cO015cO016cO017cO018cO019cO019AcO020cO020AcO021cO022cO023
  13274 aEGYPTIAN HIEROGLYPH O024cO024AcO025cO025AcO026cO027cO028cO029cO029AcO030cO030AcO031cO032
  13281 aEGYPTIAN HIEROGLYPH O033cO033AcO034cO035cO036cO036AcO036BcO036CcO036DcO037cO038cO039cO040
  1328E aEGYPTIAN HIEROGLYPH O041cO042cO043cO044cO045cO046cO047cO048cO049cO050cO050AcO050BcO051
  1329B aEGYPTIAN HIEROGLYPH P001cP001AcP002cP003cP003AcP004cP005cP006cP007cP008cP009cP010cP011
  132A8 aEGYPTIAN HIEROGLYPH Q001cQ002cQ003cQ004cQ005cQ006cQ007cR001cR002cR002AcR003cR003AcR003B
  132B5 aEGYPTIAN HIEROGLYPH R004cR005cR006cR007cR008cR009cR010cR010AcR011cR012cR013cR014cR015
  132C2 aEGYPTIAN HIEROGLYPH R016cR016AcR017cR018cR019cR020cR021cR022cR023cR024cR025cR026cR027
  132CF aEGYPTIAN HIEROGLYPH R028cR029cS001cS002cS002AcS003cS004cS005cS006cS006AcS007cS008cS009
  132DC aEGYPTIAN HIEROGLYPH S010cS011cS012cS013cS014cS014AcS014BcS015cS016cS017cS017AcS018cS019
  132E9 aEGYPTIAN HIEROGLYPH S020cS021cS022cS023cS024cS025cS026cS026AcS026BcS027cS028cS029cS030
  132F6 aEGYPTIAN HIEROGLYPH S031cS032cS033cS034cS035cS035AcS036cS037cS038cS039cS040cS041cS042
  13303 aEGYPTIAN HIEROGLYPH S043cS044cS045cS046cT001cT002cT003cT003AcT004cT005cT006cT007cT007A
  13310 aEGYPTIAN HIEROGLYPH T008cT008AcT009cT009AcT010cT011cT011AcT012cT013cT014cT015cT016cT016A
  1331D aEGYPTIAN HIEROGLYPH T017cT018cT019cT020cT021cT022cT023cT024cT025cT026cT027cT028cT029cT030
  1332B aEGYPTIAN HIEROGLYPH T031cT032cT032AcT033cT033AcT034cT035cT036cU001cU002cU003cU004cU005
  13338 aEGYPTIAN HIEROGLYPH U006cU006AcU006BcU007cU008cU009cU010cU011cU012cU013cU014cU015cU016
  13345 aEGYPTIAN HIEROGLYPH U017cU018cU019cU020cU021cU022cU023cU023AcU024cU025cU026cU027cU028
  13352 aEGYPTIAN HIEROGLYPH U029cU029AcU030cU031cU032cU032AcU033cU034cU035cU036cU037cU038cU039
  1335F aEGYPTIAN HIEROGLYPH U040cU041cU042cV001cV001AcV001BcV001CcV001DcV001EcV001FcV001GcV001H
  1336B aEGYPTIAN HIEROGLYPH V001IcV002cV002AcV003cV004cV005cV006cV007cV007AcV007BcV008cV009cV010
  13378 aEGYPTIAN HIEROGLYPH V011cV011AcV011BcV011CcV012cV012AcV012BcV013cV014cV015cV016cV017cV018
  13385 aEGYPTIAN HIEROGLYPH V019cV020cV020AcV020BcV020CcV020DcV020EcV020FcV020GcV020HcV020IcV020J
  13391 aEGYPTIAN HIEROGLYPH V020KcV020LcV021cV022cV023cV023AcV024cV025cV026cV027cV028cV028AcV029
  1339E aEGYPTIAN HIEROGLYPH V029AcV030cV030AcV031cV031AcV032cV033cV033AcV034cV035cV036cV037cV037A
  133AB aEGYPTIAN HIEROGLYPH V038cV039cV040cV040AcW001cW002cW003cW003AcW004cW005cW006cW007cW008
  133B8 aEGYPTIAN HIEROGLYPH W009cW009AcW010cW010AcW011cW012cW013cW014cW014AcW015cW016cW017cW017A
  133C5 aEGYPTIAN HIEROGLYPH W018cW018AcW019cW020cW021cW022cW023cW024cW024AcW025cX001cX002cX003
  133D2 aEGYPTIAN HIEROGLYPH X004cX004AcX004BcX005cX006cX006AcX007cX008cX008AcY001cY001AcY002cY003
  133DF aEGYPTIAN HIEROGLYPH Y004cY005cY006cY007cY008cZ001cZ002cZ002AcZ002BcZ002CcZ002DcZ003cZ003A
  133EC aEGYPTIAN HIEROGLYPH Z003BcZ004cZ004AcZ005cZ005AcZ006cZ007cZ008cZ009cZ010cZ011cZ012cZ013
  133F9 aEGYPTIAN HIEROGLYPH Z014cZ015cZ015AcZ015BcZ015CcZ015DcZ015EcZ015FcZ015GcZ015HcZ015IcZ016
  13405 aEGYPTIAN HIEROGLYPH Z016AcZ016BcZ016CcZ016DcZ016EcZ016FcZ016GcZ016HcAA001cAA002cAA003
  13410 aEGYPTIAN HIEROGLYPH AA004cAA005cAA006cAA007cAA007AcAA007BcAA008cAA009cAA010cAA011cAA012
  1341B aEGYPTIAN HIEROGLYPH AA013cAA014cAA015cAA016cAA017cAA018cAA019cAA020cAA021cAA022cAA023
  13426 aEGYPTIAN HIEROGLYPH AA024cAA025cAA026cAA027cAA028cAA029cAA030cAA031cAA032
  13430 aEGYPTIAN HIEROGLYPH VERTICAL JOINERcHORIZONTAL JOINERcINSERT AT TOP STARTeBOTTOM START
  13434 aEGYPTIAN HIEROGLYPH INSERT AT TOP ENDeBOTTOM ENDcOVERLAY MIDDLEcBEGIN SEGMENTcEND SEGMENT
  14400 aANATOLIAN HIEROGLYPH A001cA002cA003cA004cA005cA006cA007cA008cA009cA010cA010AcA011cA012
  1440D aANATOLIAN HIEROGLYPH A013cA014cA015cA016cA017cA018cA019cA020cA021cA022cA023cA024cA025
  1441A aANATOLIAN HIEROGLYPH A026cA026AcA027cA028cA029cA030cA031cA032cA033cA034cA035cA036cA037
  14427 aANATOLIAN HIEROGLYPH A038cA039cA039AcA040cA041cA041AcA042cA043cA044cA045cA045AcA046cA046A
  14434 aANATOLIAN HIEROGLYPH A046BcA047cA048cA049cA050cA051cA052cA053cA054cA055cA056cA057cA058
  14441 aANATOLIAN HIEROGLYPH A059cA060cA061cA062cA063cA064cA065cA066cA066AcA066BcA066CcA067cA068
  1444E aANATOLIAN HIEROGLYPH A069cA070cA071cA072cA073cA074cA075cA076cA077cA078cA079cA080cA081
  1445B aANATOLIAN HIEROGLYPH A082cA083cA084cA085cA086cA087cA088cA089cA090cA091cA092cA093cA094
  14468 aANATOLIAN HIEROGLYPH A095cA096cA097cA097AcA098cA098AcA099cA100cA100AcA101cA101AcA102
  14474 aANATOLIAN HIEROGLYPH A102AcA103cA104cA104AcA104BcA104CcA105cA105AcA105BcA106cA107cA107A
  14480 aANATOLIAN HIEROGLYPH A107BcA107CcA108cA109cA110cA110AcA110BcA111cA112cA113cA114cA115
  1448C aANATOLIAN HIEROGLYPH A115AcA116cA117cA118cA119cA120cA121cA122cA123cA124cA125cA125AcA126
  14499 aANATOLIAN HIEROGLYPH A127cA128cA129cA130cA131cA132cA133cA134cA135cA135AcA136cA137cA138
  144A6 aANATOLIAN HIEROGLYPH A139cA140cA141cA142cA143cA144cA145cA146cA147cA148cA149cA150cA151
  144B3 aANATOLIAN HIEROGLYPH A152cA153cA154cA155cA156cA157cA158cA159cA160cA161cA162cA163cA164
  144C0 aANATOLIAN HIEROGLYPH A165cA166cA167cA168cA169cA170cA171cA172cA173cA174cA175cA176cA177
  144CD aANATOLIAN HIEROGLYPH A178cA179cA180cA181cA182cA183cA184cA185cA186cA187cA188cA189cA190
  144DA aANATOLIAN HIEROGLYPH A191cA192cA193cA194cA195cA196cA197cA198cA199cA200cA201cA202cA202A
  144E7 aANATOLIAN HIEROGLYPH A202BcA203cA204cA205cA206cA207cA207AcA208cA209cA209AcA210cA211cA212
  144F4 aANATOLIAN HIEROGLYPH A213cA214cA215cA215AcA216cA216AcA217cA218cA219cA220cA221cA222cA223
  14501 aANATOLIAN HIEROGLYPH A224cA225cA226cA227cA227AcA228cA229cA230cA231cA232cA233cA234cA235
  1450E aANATOLIAN HIEROGLYPH A236cA237cA238cA239cA240cA241cA242cA243cA244cA245cA246cA247cA248
  1451B aANATOLIAN HIEROGLYPH A249cA250cA251cA252cA253cA254cA255cA256cA257cA258cA259cA260cA261
  14528 aANATOLIAN HIEROGLYPH A262cA263cA264cA265cA266cA267cA267AcA268cA269cA270cA271cA272cA273
  14535 aANATOLIAN HIEROGLYPH A274cA275cA276cA277cA278cA279cA280cA281cA282cA283cA284cA285cA286
  14542 aANATOLIAN HIEROGLYPH A287cA288cA289cA289AcA290cA291cA292cA293cA294cA294AcA295cA296cA297
  1454F aANATOLIAN HIEROGLYPH A298cA299cA299AcA300cA301cA302cA303cA304cA305cA306cA307cA308cA309
  1455C aANATOLIAN HIEROGLYPH A309AcA310cA311cA312cA313cA314cA315cA316cA317cA318cA319cA320cA321
  14569 aANATOLIAN HIEROGLYPH A322cA323cA324cA325cA326cA327cA328cA329cA329AcA330cA331cA332AcA332B
  14576 aANATOLIAN HIEROGLYPH A332CcA333cA334cA335cA336cA336AcA336BcA336CcA337cA338cA339cA340cA341
  14583 aANATOLIAN HIEROGLYPH A342cA343cA344cA345cA346cA347cA348cA349cA350cA351cA352cA353cA354
  14590 aANATOLIAN HIEROGLYPH A355cA356cA357cA358cA359cA359AcA360cA361cA362cA363cA364cA364AcA365
  1459D aANATOLIAN HIEROGLYPH A366cA367cA368cA368AcA369cA370cA371cA371AcA372cA373cA374cA375cA376
  145AA aANATOLIAN HIEROGLYPH A377cA378cA379cA380cA381cA381AcA382cA383 RA OR RIcA383AcA384cA385
  145B5 aANATOLIAN HIEROGLYPH A386cA386AcA387cA388cA389cA390cA391cA392cA393 EIGHTcA394cA395cA396
  145C1 aANATOLIAN HIEROGLYPH A397cA398cA399cA400cA401cA402cA403cA404cA405cA406cA407cA408cA409
  145CE aANATOLIAN HIEROGLYPH A410 BEGIN LOGOGRAM MARKcA410A END LOGOGRAM MARKcA411cA412cA413cA414
  145D4 aANATOLIAN HIEROGLYPH A415cA416cA417cA418cA419cA420cA421cA422cA423cA424cA425cA426cA427
  145E1 aANATOLIAN HIEROGLYPH A428cA429cA430cA431cA432cA433cA434cA435cA436cA437cA438cA439cA440
  145EE aANATOLIAN HIEROGLYPH A441cA442cA443cA444cA445cA446cA447cA448cA449cA450cA450AcA451cA452
  145FB aANATOLIAN HIEROGLYPH A453cA454cA455cA456cA457cA457AcA458cA459cA460cA461cA462cA463cA464
  14608 aANATOLIAN HIEROGLYPH A465cA466cA467cA468cA469cA470cA471cA472cA473cA474cA475cA476cA477
  14615 aANATOLIAN HIEROGLYPH A478cA479cA480cA481cA482cA483cA484cA485cA486cA487cA488cA489cA490
  14622 aANATOLIAN HIEROGLYPH A491cA492cA493cA494cA495cA496cA497cA501cA502cA503cA504cA505cA506
  1462F aANATOLIAN HIEROGLYPH A507cA508cA509cA510cA511cA512cA513cA514cA515cA516cA517cA518cA519
  1463C aANATOLIAN HIEROGLYPH A520cA521cA522cA523cA524cA525cA526cA527cA528cA529cA530
  16800 aBAMUM LETTER PHASE-A NGKUE MFONdGBIEE FONdPON MFON PIPAEMGBIEEfPIPAEMBAdNAA MFON
  16805 aBAMUM LETTER PHASE-A SHUENSHUETdTITA MFONdNZA MFONdSHINDA PA NJIdPON PA NJI PIPAEMGBIEE
  1680A aBAMUM LETTER PHASE-A PON PA NJI PIPAEMBAdMAEMBGBIEEdTU MAEMBAdNGANGUdMAEMVEUXdMANSUAE
  16810 aBAMUM LETTER PHASE-A MVEUAENGAMdSEUNYAMdNTOQPENdKEUKEUTNDAdNKINDIdSUUdNGKUENZEUMdLAPAQ
  16818 aBAMUM LETTER PHASE-A LET KUTdNTAP MFAAdMAEKEUPdPASHAEdGHEUAERAEdPAMSHAEdMON NGGEUAET
  1681F aBAMUM LETTER PHASE-A NZUN MEUTdU YUQ NAEdGHEUAEGHEUAEdNTAP NTAAdSISAdMGBASAdMEUNJOMNDEUQ
  16826 aBAMUM LETTER PHASE-A MOOMPUQdKAFAdPA LEERAEWAdNDA LEERAEWAdPETdMAEMKPENdNIKAdPUPdTUAEP
  1682F aBAMUM LETTER PHASE-A LUAEPdSONJAMdTEUTEUWENdMAENYIdKETdNDAANGGEUAETdKUOQdMOOMEUTdSHUM
  16838 aBAMUM LETTER PHASE-A LOMMAEdFIRIdROMdKPOQdSOQdMAP PIEETdSHIRAEdNTAPdSHOQ NSHUT YUM
  16841 aBAMUM LETTER PHASE-A NYIT MONGKEUAEQdPAARAEdNKAARAEdUNKNOWNdNGGENdMAESIdNJAMdMBANYIdNYET
  1684A aBAMUM LETTER PHASE-A TEUAENdSOTdPAAMdNSHIEEdMAEMdNYIdKAQdNSHAdVEEdLUdNENdNAQdMBAQ
  16857 aBAMUM LETTER PHASE-B NSHUETdTU MAEMGBIEEdSIEEdSET TUdLOM NTEUMdMBA MAELEEdKIEEMdYEURAE
  1685F aBAMUM LETTER PHASE-B MBAARAEdKAMdPEESHIdYAFU LEERAEWAdLAM NSHUT NYAMdNTIEE SHEUOQ
  16865 aBAMUM LETTER PHASE-B NDU NJAAdGHEUGHEUAEMdPITdTU NSIEEdSHET NJAQdSHEUAEQTUdMFON TEUAEQ
  1686C aBAMUM LETTER PHASE-B MBIT MBAAKETdNYI NTEUMdKEUPUQdGHEUGHENdKEUYEUXdLAANAEdPARUMdVEUM
  16874 aBAMUM LETTER PHASE-B NGKINDI MVOPdNGGEU MBUdWUAETdSAKEUAEdTAAMdMEUQdNGGUOQeLARGEdMFIYAQ
  1687D aBAMUM LETTER PHASE-B SUEdMBEURIdMONTIEENdNYAEMAEdPUNGAAMdMEUT NGGEETdFEUXdMBUOQdFEE
  16886 aBAMUM LETTER PHASE-B KEUAEMdMA NJEUAENAeNJUQAdLETdNGGAAMdNSENdMAdKIQdNGOM
  1688F aBAMUM LETTER PHASE-C NGKUE MAEMBAdNZAdYUMdWANGKUOQdNGGENdNDEUAEREEdNGKAQdGHARAEdMBEEKEET
  16898 aBAMUM LETTER PHASE-C GBAYIdNYIR MKPARAQ MEUNdNTU MBITdMBEUMdPIRIEENdNDOMBU
  1689E aBAMUM LETTER PHASE-C MBAA CABBAGE-TREEdKEUSHEUAEPdGHAPdKEUKAQdYU MUOMAEdNZEUMdMBUE
  168A5 aBAMUM LETTER PHASE-C NSEUAENdMBITdYEUQdKPARAQdKAAdSEUXdNDIDAdTAASHAEdNJUEQdTITA YUEdSUAET
  168B0 aBAMUM LETTER PHASE-C NGGUAEN NYAMdVEUXdNANSANAQdMA KEUAERIdNTAAdNGGUONdLAPdMBIRIEEN
  168B8 aBAMUM LETTER PHASE-C MGBASAQdNTEUNGBAdTEUTEUXdNGGUMdFUEdNDEUTdNSAdNSHAQdBUNGdVEUAEPEN
  168C2 aBAMUM LETTER PHASE-C MBERAEdRUdNJAEMdLAMdTITUAEPdNSUOT NGOMdNJEEEEdKETdNGGUdMAESIdMBUAEM
  168CD aBAMUM LETTER PHASE-C LUdKUTdNJAMdNGOMdWUPdNGGUEETdNSOMdNTENdKUOP NKAARAEdNSUNdNDAM
  168D8 aBAMUM LETTER PHASE-C MA NSIEEdYAAdNDAPdSHUEQdSETFONdMBIdMAEMBAdMBANYIdKEUSEUXdMBEUXdKEUM
  168E3 aBAMUM LETTER PHASE-C MBAA PICKETdYUWOQdNJEUXdMIEEdMUAEdSHIQdKEN LAWeFATIGUEdNGAQdNAQdLIQ
  168EE aBAMUM LETTER PHASE-C PINdPENdTETcPHASE-D MBUOdWAPdNJIdMFONdNJIEEdLIEEdNJEUTdNSHEE
  168F9 aBAMUM LETTER PHASE-D NGGAAMAEdNYAMdWUAENdNGKUNdSHEEdNGKAPdKEUAETMEUNdTEUTdSHEUAEdNJAPdSUE
  16904 aBAMUM LETTER PHASE-D KETdYAEMMAEdKUOMdSAPdMFEUTdNDEUXdMALEERIdMEUTdSEUAEQdYENdNJEUAEM
  1690F aBAMUM LETTER PHASE-D KEUOT MBUAEdNGKEURIdTUdGHAAdNGKYEEdFEUFEUAETdNDEEdMGBOFUMdLEUAEP
  16918 aBAMUM LETTER PHASE-D NDONdMONIdMGBEUNdPUUTdMGBIEEdMFOdLUMdNSIEEPdMBAAdKWAETdNYETdTEUAEN
  16924 aBAMUM LETTER PHASE-D SOTdYUWOQdKEUMdRAEMdTEEEEdNGKEUAEQdMFEUAEdNSIEETdKEUPdPIPdPEUTAE
  1692F aBAMUM LETTER PHASE-D NYUEdLETdNGGAAMdMFIEEdNGGWAENdYUOMdPAPdYUOPdNDAMdNTEUMdSUAEdKUN
  1693B aBAMUM LETTER PHASE-D NGGEUXdNGKIEEdTUOTdMEUNdKUQdNSUMdTEUNdMAENJETdNGGAPdLEUMdNGGUOM
  16946 aBAMUM LETTER PHASE-D NSHUTdNJUEQdGHEUAEdKUdREN OLDdTAEdTOQdNYIdRIIdLEEEEdMEEEEdMdSUUdMU
  16954 aBAMUM LETTER PHASE-D SHIIdSHEUXdKYEEdNUdSHUdNTEEdPEEdNIdSHOQdPUQdMVOPdLOQdREN MUCHdTI
  16962 aBAMUM LETTER PHASE-D NTUUdMBAA SEVENdSAQdFAAcPHASE-E NDAPdTOONdMBEUMdLAPdVOMdLOONdPAAdSOM
  1696E aBAMUM LETTER PHASE-E RAQdNSHUOPdNDUNdPUAEdTAMdNGKAdKPEUXdWUOdSEEdNGGEUAETdPAAMdTOOdKUOP
  1697B aBAMUM LETTER PHASE-E LOMdNSHIEEdNGOPdMAEMdNGKEUXdNGOQdNSHUEdRIMGBAdNJEUXdPEEMdSAAdNGGURAE
  16987 aBAMUM LETTER PHASE-E MGBAdGHEUXdNGKEUAEMdNJAEMLIdMAPdLOOTdNGGEEEEdNDIQdTAEN NTEUMdSETdPUM
  16992 aBAMUM LETTER PHASE-E NDAA SOFTNESSdNGGUAESHAE NYAMdYIEEdGHEUNdTUAEdYEUAEdPOdTUMAEdKEUAE
  1699B aBAMUM LETTER PHASE-E SUAENdTEUAEQdVEUAEdWEUXdLAAMdPUdTAAQdGHAAMAEdNGEUREUTdSHEUAEQdMGBEN
  169A6 aBAMUM LETTER PHASE-E MBEEdNZAQdNKOMdGBETdTUMdKUETdYAPdNYI CLEAVERdYITdMFEUQdNDIAQdPIEEQ
  169B2 aBAMUM LETTER PHASE-E YUEQdLEUAEMdFUEdGBEUXdNGKUPdKETdMAEdNGKAAMIdGHETdFAdNTUMdPEUTdYEUM
  169BF aBAMUM LETTER PHASE-E NGGEUAEdNYI BETWEENdNZUQdPOONdMIEEdFUETdNAEdMUAEdGHEUAEdFU IdMVI
  169CA aBAMUM LETTER PHASE-E PUAQdNGKUMdKUTdPIETdNTAPdYEUAETdNGGUPdPA PEOPLEdFU CALLdFOMdNJEEdA
  169D6 aBAMUM LETTER PHASE-E TOQdOdIdLAQdPA PLURALdTAAdTAQdNDAA MY HOUSEdSHIQdYEUXdNGUAEdYUAEN
  169E2 aBAMUM LETTER PHASE-E YOQ SWIMMINGeCOVERdYUQdYUNdKEUXdPEUXdNJEE EPOCHdPUEdWUEdFEEdVEEdLU
  169EE aBAMUM LETTER PHASE-E MIdREUXdRAEdNGUAETdNGAdSHOdSHOQdFU REMEDYdNAdPIdLOQdKOdMENdMAdMAQ
  169FD aBAMUM LETTER PHASE-E TEUdKIdMONdTENdFAQdGHOMcPHASE-F KAdUdKUdEEdREEdTAEdNYIdLAdRIIdRIEE
  16A0D aBAMUM LETTER PHASE-F MEEEEdTAAdNDAAdNJAEMdMdSUUdSHIIdSIdSEUXdKYEEdKETdNUAEdNUdNJUAEdYOQ
  16A1C aBAMUM LETTER PHASE-F SHUdYAdNSHAdPEUXdNTEEdWUEdPEEdRUdNIdREUXdKENdNGKWAENdNGGAdSHOdPUAE
  16A2B aBAMUM LETTER PHASE-F FOMdWAdLIdLOQdKOdMBENdRENdMAdMOdMBAAdTETdKPAdSAMBAdVUEQ
  16A40 aMRO LETTER TAcNGIcYOcMIMcBAcDAcAcPHIcKHAIcHAOcDAIcCHUcKEAAEcOLcMAEMcNINcPAcOOcOcROcSHI
  16A55 aMRO LETTER THEAcEAcWAcEcKOcLANcLAcHAIcRIcTEK
  16A60 aMRO DIGIT ZEROcONEcTWOcTHREEcFOURcFIVEcSIXcSEVENcEIGHTcNINE
  16A6E aMRO DANDAbDOUBLE DANDAaTANGSA LETTER OZcOCcOQcOXcAZcACcAQcAXcVZcVCcVQcVXcEZcECcEQcEXcIZ
  16A81 aTANGSA LETTER ICcIQcIXcUZcUCcUQcUXcAWZcAWCcAWQcAWXcUIZcUICcUIQcUIXcFINAL NGcLONG UEX
  16A92 aTANGSA LETTER SHORT UEZdAWXcUECcUEZcUEQcUEXcUIUZcUIUCcUIUQcUIUXcMZcMCcMQcMXcKAcKHAcGAcNGA
  16AA4 aTANGSA LETTER SAcYAcWAcPAcNYAcPHAcBAcMAcNAcHAcLAcHTAcTAcDAcRAcNHAcSHAcCAcTSAcGHAcHTTAcTHA
  16ABA aTANGSA LETTER XAcFAcDHAcCHAcZA
  16AC0 aTANGSA DIGIT ZEROcONEcTWOcTHREEcFOURcFIVEcSIXcSEVENcEIGHTcNINE
  16AD0 aBASSA VAH LETTER ENNIdKAdSEdFAdMBEdYIEdGAHdDHIIdKPAHdJOdHWAHdWAdZOdGBUdDOdCEdUWUdTOdBAdVU
  16AE4 aBASSA VAH LETTER YEINdPAdWADDAdAdOdOOdUdEEdEdI
  16AF0 aBASSA VAH COMBINING HIGH TONEdLOW TONEdMID TONEdLOW-MID TONEdHIGH-LOW TONEcFULL STOP
  16B00 aPAHAWH HMONG VOWEL KEEBdKEEVdKIBdKIVdKAUBdKAUVdKUBdKUVdKEBdKEVdKAIBdKAIVdKOOBdKOOVdKAWB
  16B0F aPAHAWH HMONG VOWEL KAWVdKUABdKUAVdKOBdKOVdKIABdKIAVdKABdKAVdKWBdKWVdKAABdKAAV
  16B1C aPAHAWH HMONG CONSONANT VAUdNTSAUdLAUdHAUdNLAUdRAUdNKAUdQHAUdYAUdHLAUdMAUdCHAUdNCHAUdHNAU
  16B2A aPAHAWH HMONG CONSONANT PLHAUdNTHAUdNAUdAUdXAUdCAUcMARK CIM TUBeSOeKESeKHAVeSUAMeHOMeTAUM
  16B37 aPAHAWH HMONG SIGN VOS THOMeTSHAB CEEBdCIM CHEEMdVOS THIABeFEEMdXYEEM NTXIVeRHOeTOVeFAIB
  16B40 aPAHAWH HMONG SIGN VOS SEEVdMEEJ SUABdVOS NRUAdIB YAMdXAUSdCIM TSOV ROG
  16B50 aPAHAWH HMONG DIGIT ZEROdONEdTWOdTHREEdFOURdFIVEdSIXdSEVENdEIGHTdNINE
  16B5B aPAHAWH HMONG NUMBER TENSdHUNDREDSdTEN THOUSANDSdMILLIONSdHUNDRED MILLIONSdTEN BILLIONS
  16B61 aPAHAWH HMONG NUMBER TRILLIONS
  16B63 aPAHAWH HMONG SIGN VOS LUBdXYOOdHLIdTHIRD-STAGE HLIdZWJ THAJdHNUBdNQIGdXIABdNTUJdAV
  16B6D aPAHAWH HMONG SIGN TXHEEJ CEEVdMEEJ TSEEBdTAUdLOSdMUSdCIM HAIS LUS NTOG NTOGeCUAM TSHOOJ
  16B74 aPAHAWH HMONG SIGN CIM TXWVfCHWVePUB DAWBeNRES TOS
  16B7D aPAHAWH HMONG CLAN SIGN TSHEEJeYEEGeLISeLAUJeXYOOJeKOOeHAWJeMUASeTHOJeTSABePHABeKHABeHAM
  16B8A aPAHAWH HMONG CLAN SIGN VAJeFAJeYAJeTSWBeKWMeVWJ
  16E40 aMEDEFAIDRIN CAPITAL LETTER MdSdVdWdATIUdZdKPdPdTdGdFdIdKdAdJdEdBdCdUdYUdLdQdHPdNYdXdDdOE
  16E5B aMEDEFAIDRIN CAPITAL LETTER NdRdOdAIdYbSMALL LETTER MdSdVdWdATIUdZdKPdPdTdGdFdIdKdAdJdEdB
  16E71 aMEDEFAIDRIN SMALL LETTER CdUdYUdLdQdHPdNYdXdDdOEdNdRdOdAIdYbDIGIT ZEROcONEcTWOcTHREEcFOUR
  16E85 aMEDEFAIDRIN DIGIT FIVEcSIXcSEVENcEIGHTcNINEbNUMBER TENcELEVENcTWELVEcTHIRTEENcFOURTEEN
  16E8F aMEDEFAIDRIN NUMBER FIFTEENcSIXTEENcSEVENTEENcEIGHTEENcNINETEENbDIGIT ONE ALTERNATE FORM
  16E95 aMEDEFAIDRIN DIGIT TWO ALTERNATE FORMcTHREE ALTERNATE FORMbCOMMAbFULL STOPbSYMBOL AIVA
  16E9A aMEDEFAIDRIN EXCLAMATION OH
  16F00 aMIAO LETTER PAcBAcYI PAcPLAcMAcMHAcARCHAIC MAcFAcVAcVFAcTAcDAcYI TTAdTAcTTAcDDAcNAcNHA
  16F12 aMIAO LETTER YI NNAcARCHAIC NAcNNAcNNHAcLAcLYAcLHAcLHYAcTLHAcDLHAcTLHYAcDLHYAcKAcGAcYI KA
  16F21 aMIAO LETTER QAcQGAcNGAcNGHAcARCHAIC NGAcHAcXAcGHAcGHHAcTSSAcDZZAcNYAcNYHAcTSHAcDZHA
  16F30 aMIAO LETTER YI TSHAdDZHAcREFORMED TSHAcSHAcSSAcZHAcZSHAcTSAcDZAcYI TSAcSAcZAcZSAcZZAcZZSA
  16F3F aMIAO LETTER ARCHAIC ZZAcZZYAcZZSYAcWAcAHcHHAcBRIcSYIcDZYIcTEcTSEcRTE
  16F4F aMIAO SIGN CONSONANT MODIFIER BARbLETTER NASALIZATIONbSIGN ASPIRATIONcREFORMED VOICING
  16F53 aMIAO SIGN REFORMED ASPIRATIONbVOWEL SIGN AdAAdAHHdANdANGdOdOOdWOdWdEdENdENGdOEYdIdIAdIAN
  16F64 aMIAO VOWEL SIGN IANGdIOdIEdIIdIUdINGdUdUAdUANdUANGdUUdUEIdUNGdYdYIdAEdAEEdERRdROUNDED ERR
  16F77 aMIAO VOWEL SIGN ERdROUNDED ERdAIdEIdAUdOUdNdNGdUOGdYUIdOGdOERdVWdIGdEAdIONGdUI
  16F8F aMIAO TONE RIGHTcTOP RIGHTcABOVEcBELOWbLETTER TONE-2cTONE-3cTONE-4cTONE-5cTONE-6cTONE-7
  16F99 aMIAO LETTER TONE-8cREFORMED TONE-1dTONE-2dTONE-4dTONE-5dTONE-6dTONE-8
  16FE0 aTANGUT ITERATION MARKaNUSHU ITERATION MARKaOLD CHINESE HOOK MARKcITERATION MARK
  16FE4 aKHITAN SMALL SCRIPT FILLER
  16FF0 aVIETNAMESE ALTERNATE READING MARK CAeNHAY
  18800 aTANGUT COMPONENT-001bCOMPONENT-002bCOMPONENT-003bCOMPONENT-004bCOMPONENT-005
  18805 aTANGUT COMPONENT-006bCOMPONENT-007bCOMPONENT-008bCOMPONENT-009bCOMPONENT-010
  1880A aTANGUT COMPONENT-011bCOMPONENT-012bCOMPONENT-013bCOMPONENT-014bCOMPONENT-015
  1880F aTANGUT COMPONENT-016bCOMPONENT-017bCOMPONENT-018bCOMPONENT-019bCOMPONENT-020
  18814 aTANGUT COMPONENT-021bCOMPONENT-022bCOMPONENT-023bCOMPONENT-024bCOMPONENT-025
  18819 aTANGUT COMPONENT-026bCOMPONENT-027bCOMPONENT-028bCOMPONENT-029bCOMPONENT-030
  1881E aTANGUT COMPONENT-031bCOMPONENT-032bCOMPONENT-033bCOMPONENT-034bCOMPONENT-035
  18823 aTANGUT COMPONENT-036bCOMPONENT-037bCOMPONENT-038bCOMPONENT-039bCOMPONENT-040
  18828 aTANGUT COMPONENT-041bCOMPONENT-042bCOMPONENT-043bCOMPONENT-044bCOMPONENT-045
  1882D aTANGUT COMPONENT-046bCOMPONENT-047bCOMPONENT-048bCOMPONENT-049bCOMPONENT-050
  18832 aTANGUT COMPONENT-051bCOMPONENT-052bCOMPONENT-053bCOMPONENT-054bCOMPONENT-055
  18837 aTANGUT COMPONENT-056bCOMPONENT-057bCOMPONENT-058bCOMPONENT-059bCOMPONENT-060
  1883C aTANGUT COMPONENT-061bCOMPONENT-062bCOMPONENT-063bCOMPONENT-064bCOMPONENT-065
  18841 aTANGUT COMPONENT-066bCOMPONENT-067bCOMPONENT-068bCOMPONENT-069bCOMPONENT-070
  18846 aTANGUT COMPONENT-071bCOMPONENT-072bCOMPONENT-073bCOMPONENT-074bCOMPONENT-075
  1884B aTANGUT COMPONENT-076bCOMPONENT-077bCOMPONENT-078bCOMPONENT-079bCOMPONENT-080
  18850 aTANGUT COMPONENT-081bCOMPONENT-082bCOMPONENT-083bCOMPONENT-084bCOMPONENT-085
  18855 aTANGUT COMPONENT-086bCOMPONENT-087bCOMPONENT-088bCOMPONENT-089bCOMPONENT-090
  1885A aTANGUT COMPONENT-091bCOMPONENT-092bCOMPONENT-093bCOMPONENT-094bCOMPONENT-095
  1885F aTANGUT COMPONENT-096bCOMPONENT-097bCOMPONENT-098bCOMPONENT-099bCOMPONENT-100
  18864 aTANGUT COMPONENT-101bCOMPONENT-102bCOMPONENT-103bCOMPONENT-104bCOMPONENT-105
  18869 aTANGUT COMPONENT-106bCOMPONENT-107bCOMPONENT-108bCOMPONENT-109bCOMPONENT-110
  1886E aTANGUT COMPONENT-111bCOMPONENT-112bCOMPONENT-113bCOMPONENT-114bCOMPONENT-115
  18873 aTANGUT COMPONENT-116bCOMPONENT-117bCOMPONENT-118bCOMPONENT-119bCOMPONENT-120
  18878 aTANGUT COMPONENT-121bCOMPONENT-122bCOMPONENT-123bCOMPONENT-124bCOMPONENT-125
  1887D aTANGUT COMPONENT-126bCOMPONENT-127bCOMPONENT-128bCOMPONENT-129bCOMPONENT-130
  18882 aTANGUT COMPONENT-131bCOMPONENT-132bCOMPONENT-133bCOMPONENT-134bCOMPONENT-135
  18887 aTANGUT COMPONENT-136bCOMPONENT-137bCOMPONENT-138bCOMPONENT-139bCOMPONENT-140
  1888C aTANGUT COMPONENT-141bCOMPONENT-142bCOMPONENT-143bCOMPONENT-144bCOMPONENT-145
  18891 aTANGUT COMPONENT-146bCOMPONENT-147bCOMPONENT-148bCOMPONENT-149bCOMPONENT-150
  18896 aTANGUT COMPONENT-151bCOMPONENT-152bCOMPONENT-153bCOMPONENT-154bCOMPONENT-155
  1889B aTANGUT COMPONENT-156bCOMPONENT-157bCOMPONENT-158bCOMPONENT-159bCOMPONENT-160
  188A0 aTANGUT COMPONENT-161bCOMPONENT-162bCOMPONENT-163bCOMPONENT-164bCOMPONENT-165
  188A5 aTANGUT COMPONENT-166bCOMPONENT-167bCOMPONENT-168bCOMPONENT-169bCOMPONENT-170
  188AA aTANGUT COMPONENT-171bCOMPONENT-172bCOMPONENT-173bCOMPONENT-174bCOMPONENT-175
  188AF aTANGUT COMPONENT-176bCOMPONENT-177bCOMPONENT-178bCOMPONENT-179bCOMPONENT-180
  188B4 aTANGUT COMPONENT-181bCOMPONENT-182bCOMPONENT-183bCOMPONENT-184bCOMPONENT-185
  188B9 aTANGUT COMPONENT-186bCOMPONENT-187bCOMPONENT-188bCOMPONENT-189bCOMPONENT-190
  188BE aTANGUT COMPONENT-191bCOMPONENT-192bCOMPONENT-193bCOMPONENT-194bCOMPONENT-195
  188C3 aTANGUT COMPONENT-196bCOMPONENT-197bCOMPONENT-198bCOMPONENT-199bCOMPONENT-200
  188C8 aTANGUT COMPONENT-201bCOMPONENT-202bCOMPONENT-203bCOMPONENT-204bCOMPONENT-205
  188CD aTANGUT COMPONENT-206bCOMPONENT-207bCOMPONENT-208bCOMPONENT-209bCOMPONENT-210
  188D2 aTANGUT COMPONENT-211bCOMPONENT-212bCOMPONENT-213bCOMPONENT-214bCOMPONENT-215
  188D7 aTANGUT COMPONENT-216bCOMPONENT-217bCOMPONENT-218bCOMPONENT-219bCOMPONENT-220
  188DC aTANGUT COMPONENT-221bCOMPONENT-222bCOMPONENT-223bCOMPONENT-224bCOMPONENT-225
  188E1 aTANGUT COMPONENT-226bCOMPONENT-227bCOMPONENT-228bCOMPONENT-229bCOMPONENT-230
  188E6 aTANGUT COMPONENT-231bCOMPONENT-232bCOMPONENT-233bCOMPONENT-234bCOMPONENT-235
  188EB aTANGUT COMPONENT-236bCOMPONENT-237bCOMPONENT-238bCOMPONENT-239bCOMPONENT-240
  188F0 aTANGUT COMPONENT-241bCOMPONENT-242bCOMPONENT-243bCOMPONENT-244bCOMPONENT-245
  188F5 aTANGUT COMPONENT-246bCOMPONENT-247bCOMPONENT-248bCOMPONENT-249bCOMPONENT-250
  188FA aTANGUT COMPONENT-251bCOMPONENT-252bCOMPONENT-253bCOMPONENT-254bCOMPONENT-255
  188FF aTANGUT COMPONENT-256bCOMPONENT-257bCOMPONENT-258bCOMPONENT-259bCOMPONENT-260
  18904 aTANGUT COMPONENT-261bCOMPONENT-262bCOMPONENT-263bCOMPONENT-264bCOMPONENT-265
  18909 aTANGUT COMPONENT-266bCOMPONENT-267bCOMPONENT-268bCOMPONENT-269bCOMPONENT-270
  1890E aTANGUT COMPONENT-271bCOMPONENT-272bCOMPONENT-273bCOMPONENT-274bCOMPONENT-275
  18913 aTANGUT COMPONENT-276bCOMPONENT-277bCOMPONENT-278bCOMPONENT-279bCOMPONENT-280
  18918 aTANGUT COMPONENT-281bCOMPONENT-282bCOMPONENT-283bCOMPONENT-284bCOMPONENT-285
  1891D aTANGUT COMPONENT-286bCOMPONENT-287bCOMPONENT-288bCOMPONENT-289bCOMPONENT-290
  18922 aTANGUT COMPONENT-291bCOMPONENT-292bCOMPONENT-293bCOMPONENT-294bCOMPONENT-295
  18927 aTANGUT COMPONENT-296bCOMPONENT-297bCOMPONENT-298bCOMPONENT-299bCOMPONENT-300
  1892C aTANGUT COMPONENT-301bCOMPONENT-302bCOMPONENT-303bCOMPONENT-304bCOMPONENT-305
  18931 aTANGUT COMPONENT-306bCOMPONENT-307bCOMPONENT-308bCOMPONENT-309bCOMPONENT-310
  18936 aTANGUT COMPONENT-311bCOMPONENT-312bCOMPONENT-313bCOMPONENT-314bCOMPONENT-315
  1893B aTANGUT COMPONENT-316bCOMPONENT-317bCOMPONENT-318bCOMPONENT-319bCOMPONENT-320
  18940 aTANGUT COMPONENT-321bCOMPONENT-322bCOMPONENT-323bCOMPONENT-324bCOMPONENT-325
  18945 aTANGUT COMPONENT-326bCOMPONENT-327bCOMPONENT-328bCOMPONENT-329bCOMPONENT-330
  1894A aTANGUT COMPONENT-331bCOMPONENT-332bCOMPONENT-333bCOMPONENT-334bCOMPONENT-335
  1894F aTANGUT COMPONENT-336bCOMPONENT-337bCOMPONENT-338bCOMPONENT-339bCOMPONENT-340
  18954 aTANGUT COMPONENT-341bCOMPONENT-342bCOMPONENT-343bCOMPONENT-344bCOMPONENT-345
  18959 aTANGUT COMPONENT-346bCOMPONENT-347bCOMPONENT-348bCOMPONENT-349bCOMPONENT-350
  1895E aTANGUT COMPONENT-351bCOMPONENT-352bCOMPONENT-353bCOMPONENT-354bCOMPONENT-355
  18963 aTANGUT COMPONENT-356bCOMPONENT-357bCOMPONENT-358bCOMPONENT-359bCOMPONENT-360
  18968 aTANGUT COMPONENT-361bCOMPONENT-362bCOMPONENT-363bCOMPONENT-364bCOMPONENT-365
  1896D aTANGUT COMPONENT-366bCOMPONENT-367bCOMPONENT-368bCOMPONENT-369bCOMPONENT-370
  18972 aTANGUT COMPONENT-371bCOMPONENT-372bCOMPONENT-373bCOMPONENT-374bCOMPONENT-375
  18977 aTANGUT COMPONENT-376bCOMPONENT-377bCOMPONENT-378bCOMPONENT-379bCOMPONENT-380
  1897C aTANGUT COMPONENT-381bCOMPONENT-382bCOMPONENT-383bCOMPONENT-384bCOMPONENT-385
  18981 aTANGUT COMPONENT-386bCOMPONENT-387bCOMPONENT-388bCOMPONENT-389bCOMPONENT-390
  18986 aTANGUT COMPONENT-391bCOMPONENT-392bCOMPONENT-393bCOMPONENT-394bCOMPONENT-395
  1898B aTANGUT COMPONENT-396bCOMPONENT-397bCOMPONENT-398bCOMPONENT-399bCOMPONENT-400
  18990 aTANGUT COMPONENT-401bCOMPONENT-402bCOMPONENT-403bCOMPONENT-404bCOMPONENT-405
  18995 aTANGUT COMPONENT-406bCOMPONENT-407bCOMPONENT-408bCOMPONENT-409bCOMPONENT-410
  1899A aTANGUT COMPONENT-411bCOMPONENT-412bCOMPONENT-413bCOMPONENT-414bCOMPONENT-415
  1899F aTANGUT COMPONENT-416bCOMPONENT-417bCOMPONENT-418bCOMPONENT-419bCOMPONENT-420
  189A4 aTANGUT COMPONENT-421bCOMPONENT-422bCOMPONENT-423bCOMPONENT-424bCOMPONENT-425
  189A9 aTANGUT COMPONENT-426bCOMPONENT-427bCOMPONENT-428bCOMPONENT-429bCOMPONENT-430
  189AE aTANGUT COMPONENT-431bCOMPONENT-432bCOMPONENT-433bCOMPONENT-434bCOMPONENT-435
  189B3 aTANGUT COMPONENT-436bCOMPONENT-437bCOMPONENT-438bCOMPONENT-439bCOMPONENT-440
  189B8 aTANGUT COMPONENT-441bCOMPONENT-442bCOMPONENT-443bCOMPONENT-444bCOMPONENT-445
  189BD aTANGUT COMPONENT-446bCOMPONENT-447bCOMPONENT-448bCOMPONENT-449bCOMPONENT-450
  189C2 aTANGUT COMPONENT-451bCOMPONENT-452bCOMPONENT-453bCOMPONENT-454bCOMPONENT-455
  189C7 aTANGUT COMPONENT-456bCOMPONENT-457bCOMPONENT-458bCOMPONENT-459bCOMPONENT-460
  189CC aTANGUT COMPONENT-461bCOMPONENT-462bCOMPONENT-463bCOMPONENT-464bCOMPONENT-465
  189D1 aTANGUT COMPONENT-466bCOMPONENT-467bCOMPONENT-468bCOMPONENT-469bCOMPONENT-470
  189D6 aTANGUT COMPONENT-471bCOMPONENT-472bCOMPONENT-473bCOMPONENT-474bCOMPONENT-475
  189DB aTANGUT COMPONENT-476bCOMPONENT-477bCOMPONENT-478bCOMPONENT-479bCOMPONENT-480
  189E0 aTANGUT COMPONENT-481bCOMPONENT-482bCOMPONENT-483bCOMPONENT-484bCOMPONENT-485
  189E5 aTANGUT COMPONENT-486bCOMPONENT-487bCOMPONENT-488bCOMPONENT-489bCOMPONENT-490
  189EA aTANGUT COMPONENT-491bCOMPONENT-492bCOMPONENT-493bCOMPONENT-494bCOMPONENT-495
  189EF aTANGUT COMPONENT-496bCOMPONENT-497bCOMPONENT-498bCOMPONENT-499bCOMPONENT-500
  189F4 aTANGUT COMPONENT-501bCOMPONENT-502bCOMPONENT-503bCOMPONENT-504bCOMPONENT-505
  189F9 aTANGUT COMPONENT-506bCOMPONENT-507bCOMPONENT-508bCOMPONENT-509bCOMPONENT-510
  189FE aTANGUT COMPONENT-511bCOMPONENT-512bCOMPONENT-513bCOMPONENT-514bCOMPONENT-515
  18A03 aTANGUT COMPONENT-516bCOMPONENT-517bCOMPONENT-518bCOMPONENT-519bCOMPONENT-520
  18A08 aTANGUT COMPONENT-521bCOMPONENT-522bCOMPONENT-523bCOMPONENT-524bCOMPONENT-525
  18A0D aTANGUT COMPONENT-526bCOMPONENT-527bCOMPONENT-528bCOMPONENT-529bCOMPONENT-530
  18A12 aTANGUT COMPONENT-531bCOMPONENT-532bCOMPONENT-533bCOMPONENT-534bCOMPONENT-535
  18A17 aTANGUT COMPONENT-536bCOMPONENT-537bCOMPONENT-538bCOMPONENT-539bCOMPONENT-540
  18A1C aTANGUT COMPONENT-541bCOMPONENT-542bCOMPONENT-543bCOMPONENT-544bCOMPONENT-545
  18A21 aTANGUT COMPONENT-546bCOMPONENT-547bCOMPONENT-548bCOMPONENT-549bCOMPONENT-550
  18A26 aTANGUT COMPONENT-551bCOMPONENT-552bCOMPONENT-553bCOMPONENT-554bCOMPONENT-555
  18A2B aTANGUT COMPONENT-556bCOMPONENT-557bCOMPONENT-558bCOMPONENT-559bCOMPONENT-560
  18A30 aTANGUT COMPONENT-561bCOMPONENT-562bCOMPONENT-563bCOMPONENT-564bCOMPONENT-565
  18A35 aTANGUT COMPONENT-566bCOMPONENT-567bCOMPONENT-568bCOMPONENT-569bCOMPONENT-570
  18A3A aTANGUT COMPONENT-571bCOMPONENT-572bCOMPONENT-573bCOMPONENT-574bCOMPONENT-575
  18A3F aTANGUT COMPONENT-576bCOMPONENT-577bCOMPONENT-578bCOMPONENT-579bCOMPONENT-580
  18A44 aTANGUT COMPONENT-581bCOMPONENT-582bCOMPONENT-583bCOMPONENT-584bCOMPONENT-585
  18A49 aTANGUT COMPONENT-586bCOMPONENT-587bCOMPONENT-588bCOMPONENT-589bCOMPONENT-590
  18A4E aTANGUT COMPONENT-591bCOMPONENT-592bCOMPONENT-593bCOMPONENT-594bCOMPONENT-595
  18A53 aTANGUT COMPONENT-596bCOMPONENT-597bCOMPONENT-598bCOMPONENT-599bCOMPONENT-600
  18A58 aTANGUT COMPONENT-601bCOMPONENT-602bCOMPONENT-603bCOMPONENT-604bCOMPONENT-605
  18A5D aTANGUT COMPONENT-606bCOMPONENT-607bCOMPONENT-608bCOMPONENT-609bCOMPONENT-610
  18A62 aTANGUT COMPONENT-611bCOMPONENT-612bCOMPONENT-613bCOMPONENT-614bCOMPONENT-615
  18A67 aTANGUT COMPONENT-616bCOMPONENT-617bCOMPONENT-618bCOMPONENT-619bCOMPONENT-620
  18A6C aTANGUT COMPONENT-621bCOMPONENT-622bCOMPONENT-623bCOMPONENT-624bCOMPONENT-625
  18A71 aTANGUT COMPONENT-626bCOMPONENT-627bCOMPONENT-628bCOMPONENT-629bCOMPONENT-630
  18A76 aTANGUT COMPONENT-631bCOMPONENT-632bCOMPONENT-633bCOMPONENT-634bCOMPONENT-635
  18A7B aTANGUT COMPONENT-636bCOMPONENT-637bCOMPONENT-638bCOMPONENT-639bCOMPONENT-640
  18A80 aTANGUT COMPONENT-641bCOMPONENT-642bCOMPONENT-643bCOMPONENT-644bCOMPONENT-645
  18A85 aTANGUT COMPONENT-646bCOMPONENT-647bCOMPONENT-648bCOMPONENT-649bCOMPONENT-650
  18A8A aTANGUT COMPONENT-651bCOMPONENT-652bCOMPONENT-653bCOMPONENT-654bCOMPONENT-655
  18A8F aTANGUT COMPONENT-656bCOMPONENT-657bCOMPONENT-658bCOMPONENT-659bCOMPONENT-660
  18A94 aTANGUT COMPONENT-661bCOMPONENT-662bCOMPONENT-663bCOMPONENT-664bCOMPONENT-665
  18A99 aTANGUT COMPONENT-666bCOMPONENT-667bCOMPONENT-668bCOMPONENT-669bCOMPONENT-670
  18A9E aTANGUT COMPONENT-671bCOMPONENT-672bCOMPONENT-673bCOMPONENT-674bCOMPONENT-675
  18AA3 aTANGUT COMPONENT-676bCOMPONENT-677bCOMPONENT-678bCOMPONENT-679bCOMPONENT-680
  18AA8 aTANGUT COMPONENT-681bCOMPONENT-682bCOMPONENT-683bCOMPONENT-684bCOMPONENT-685
  18AAD aTANGUT COMPONENT-686bCOMPONENT-687bCOMPONENT-688bCOMPONENT-689bCOMPONENT-690
  18AB2 aTANGUT COMPONENT-691bCOMPONENT-692bCOMPONENT-693bCOMPONENT-694bCOMPONENT-695
  18AB7 aTANGUT COMPONENT-696bCOMPONENT-697bCOMPONENT-698bCOMPONENT-699bCOMPONENT-700
  18ABC aTANGUT COMPONENT-701bCOMPONENT-702bCOMPONENT-703bCOMPONENT-704bCOMPONENT-705
  18AC1 aTANGUT COMPONENT-706bCOMPONENT-707bCOMPONENT-708bCOMPONENT-709bCOMPONENT-710
  18AC6 aTANGUT COMPONENT-711bCOMPONENT-712bCOMPONENT-713bCOMPONENT-714bCOMPONENT-715
  18ACB aTANGUT COMPONENT-716bCOMPONENT-717bCOMPONENT-718bCOMPONENT-719bCOMPONENT-720
  18AD0 aTANGUT COMPONENT-721bCOMPONENT-722bCOMPONENT-723bCOMPONENT-724bCOMPONENT-725
  18AD5 aTANGUT COMPONENT-726bCOMPONENT-727bCOMPONENT-728bCOMPONENT-729bCOMPONENT-730
  18ADA aTANGUT COMPONENT-731bCOMPONENT-732bCOMPONENT-733bCOMPONENT-734bCOMPONENT-735
  18ADF aTANGUT COMPONENT-736bCOMPONENT-737bCOMPONENT-738bCOMPONENT-739bCOMPONENT-740
  18AE4 aTANGUT COMPONENT-741bCOMPONENT-742bCOMPONENT-743bCOMPONENT-744bCOMPONENT-745
  18AE9 aTANGUT COMPONENT-746bCOMPONENT-747bCOMPONENT-748bCOMPONENT-749bCOMPONENT-750
  18AEE aTANGUT COMPONENT-751bCOMPONENT-752bCOMPONENT-753bCOMPONENT-754bCOMPONENT-755
  18AF3 aTANGUT COMPONENT-756bCOMPONENT-757bCOMPONENT-758bCOMPONENT-759bCOMPONENT-760
  18AF8 aTANGUT COMPONENT-761bCOMPONENT-762bCOMPONENT-763bCOMPONENT-764bCOMPONENT-765
  18AFD aTANGUT COMPONENT-766bCOMPONENT-767bCOMPONENT-768
  1AFF0 aKATAKANA LETTER MINNAN TONE-2dTONE-3dTONE-4dTONE-5
  1AFF5 aKATAKANA LETTER MINNAN TONE-7dTONE-8dNASALIZED TONE-1eTONE-2eTONE-3eTONE-4eTONE-5
  1AFFD aKATAKANA LETTER MINNAN NASALIZED TONE-7eTONE-8
  1B000 aKATAKANA LETTER ARCHAIC EaHIRAGANA LETTER ARCHAIC YEaHENTAIGANA LETTER A-1cA-2cA-3cA-WO
  1B006 aHENTAIGANA LETTER I-1cI-2cI-3cI-4cU-1cU-2cU-3cU-4cU-5cE-2cE-3cE-4cE-5cE-6cO-1cO-2cO-3
  1B017 aHENTAIGANA LETTER KA-1cKA-2cKA-3cKA-4cKA-5cKA-6cKA-7cKA-8cKA-9cKA-10cKA-11cKA-KEcKI-1
  1B024 aHENTAIGANA LETTER KI-2cKI-3cKI-4cKI-5cKI-6cKI-7cKI-8cKU-1cKU-2cKU-3cKU-4cKU-5cKU-6cKU-7
  1B032 aHENTAIGANA LETTER KE-1cKE-2cKE-3cKE-4cKE-5cKE-6cKO-1cKO-2cKO-3cKO-KIcSA-1cSA-2cSA-3cSA-4
  1B040 aHENTAIGANA LETTER SA-5cSA-6cSA-7cSA-8cSI-1cSI-2cSI-3cSI-4cSI-5cSI-6cSU-1cSU-2cSU-3cSU-4
  1B04E aHENTAIGANA LETTER SU-5cSU-6cSU-7cSU-8cSE-1cSE-2cSE-3cSE-4cSE-5cSO-1cSO-2cSO-3cSO-4cSO-5
  1B05C aHENTAIGANA LETTER SO-6cSO-7cTA-1cTA-2cTA-3cTA-4cTI-1cTI-2cTI-3cTI-4cTI-5cTI-6cTI-7cTU-1
  1B06A aHENTAIGANA LETTER TU-2cTU-3cTU-4cTU-TOcTE-1cTE-2cTE-3cTE-4cTE-5cTE-6cTE-7cTE-8cTE-9cTO-1
  1B078 aHENTAIGANA LETTER TO-2cTO-3cTO-4cTO-5cTO-6cTO-RAcNA-1cNA-2cNA-3cNA-4cNA-5cNA-6cNA-7cNA-8
  1B086 aHENTAIGANA LETTER NA-9cNI-1cNI-2cNI-3cNI-4cNI-5cNI-6cNI-7cNI-TEcNU-1cNU-2cNU-3cNE-1cNE-2
  1B094 aHENTAIGANA LETTER NE-3cNE-4cNE-5cNE-6cNE-KOcNO-1cNO-2cNO-3cNO-4cNO-5cHA-1cHA-2cHA-3cHA-4
  1B0A2 aHENTAIGANA LETTER HA-5cHA-6cHA-7cHA-8cHA-9cHA-10cHA-11cHI-1cHI-2cHI-3cHI-4cHI-5cHI-6cHI-7
  1B0B0 aHENTAIGANA LETTER HU-1cHU-2cHU-3cHE-1cHE-2cHE-3cHE-4cHE-5cHE-6cHE-7cHO-1cHO-2cHO-3cHO-4
  1B0BE aHENTAIGANA LETTER HO-5cHO-6cHO-7cHO-8cMA-1cMA-2cMA-3cMA-4cMA-5cMA-6cMA-7cMI-1cMI-2cMI-3
  1B0CC aHENTAIGANA LETTER MI-4cMI-5cMI-6cMI-7cMU-1cMU-2cMU-3cMU-4cME-1cME-2cME-MAcMO-1cMO-2cMO-3
  1B0DA aHENTAIGANA LETTER MO-4cMO-5cMO-6cYA-1cYA-2cYA-3cYA-4cYA-5cYA-YOcYU-1cYU-2cYU-3cYU-4cYO-1
  1B0E8 aHENTAIGANA LETTER YO-2cYO-3cYO-4cYO-5cYO-6cRA-1cRA-2cRA-3cRA-4cRI-1cRI-2cRI-3cRI-4cRI-5
  1B0F6 aHENTAIGANA LETTER RI-6cRI-7cRU-1cRU-2cRU-3cRU-4cRU-5cRU-6cRE-1cRE-2cRE-3cRE-4cRO-1cRO-2
  1B104 aHENTAIGANA LETTER RO-3cRO-4cRO-5cRO-6cWA-1cWA-2cWA-3cWA-4cWA-5cWI-1cWI-2cWI-3cWI-4cWI-5
  1B112 aHENTAIGANA LETTER WE-1cWE-2cWE-3cWE-4cWO-1cWO-2cWO-3cWO-4cWO-5cWO-6cWO-7cN-MU-MO-1
  1B11E aHENTAIGANA LETTER N-MU-MO-2aHIRAGANA LETTER ARCHAIC WUaKATAKANA LETTER ARCHAIC YIdYEdWU
  1B150 aHIRAGANA LETTER SMALL WIdWEdWO
  1B164 aKATAKANA LETTER SMALL WIdWEdWOdN
  1BC00 aDUPLOYAN LETTER HcXcPcTcFcKcLcBcDcVcGcRcP NcD ScF NcK McR ScTHcSLOAN DHcDHcKKcSLOAN JcHL
  1BC17 aDUPLOYAN LETTER LHcRHcMcNcJcScM NcN McJ McS JcM WITH DOTcN WITH DOTcJ WITH DOT
  1BC24 aDUPLOYAN LETTER J WITH DOTS INSIDE AND ABOVEcS WITH DOTfBELOWcM ScN ScJ ScS ScM N ScN M S
  1BC2D aDUPLOYAN LETTER J M ScS J ScJ S WITH DOTdNeScS TeRdPeRcT SdR ScWcWHcW RcS NdMcK R ScG R S
  1BC3F aDUPLOYAN LETTER S KeRcAcSLOAN OWcOAcOcAOUcIcEcIEcSHORT IcUIcEEcSLOAN EHcROMANIAN I
  1BC4E aDUPLOYAN LETTER SLOAN EEcLONG IcYEcUcEUcXWcU NcLONG UcROMANIAN UcUHcSLOAN UcOOHcOWcOUcWA
  1BC5D aDUPLOYAN LETTER WOcWIcWEIcWOWcNASAL UdOdIdAcPERNIN ANdAMcSLOAN ENdANdONcVOCALIC M
  1BC70 aDUPLOYAN AFFIX LEFT HORIZONTAL SECANTcMID HORIZONTAL SECANTcRIGHT HORIZONTAL SECANT
  1BC73 aDUPLOYAN AFFIX LOW VERTICAL SECANTcMID VERTICAL SECANTcHIGH VERTICAL SECANT
  1BC76 aDUPLOYAN AFFIX ATTACHED SECANTdLEFT-TO-RIGHT SECANTdTANGENTdTAILdE HOOKdI HOOK
  1BC7C aDUPLOYAN AFFIX ATTACHED TANGENT HOOK
  1BC80 aDUPLOYAN AFFIX HIGH ACUTEdTIGHT ACUTEdGRAVEdLONG GRAVEdDOTdCIRCLEdLINEdWAVEdVERTICAL
  1BC90 aDUPLOYAN AFFIX LOW ACUTEdTIGHT ACUTEdGRAVEdLONG GRAVEdDOTdCIRCLEdLINEdWAVEdVERTICALdARROW
  1BC9C aDUPLOYAN SIGN O WITH CROSSbTHICK LETTER SELECTORbDOUBLE MARK
  1BC9F aDUPLOYAN PUNCTUATION CHINOOK FULL STOPaSHORTHAND FORMAT LETTER OVERLAPcCONTINUING OVERLAP
  1BCA2 aSHORTHAND FORMAT DOWN STEPcUP STEP
  1CF00 aZNAMENNY COMBINING MARK GORAZDO NIZKO S KRYZHEM ON LEFTdNIZKO S KRYZHEM ON LEFT
  1CF02 aZNAMENNY COMBINING MARK TSATA ON LEFTdGORAZDO NIZKO ON LEFTdNIZKO ON LEFTdSREDNE ON LEFT
  1CF06 aZNAMENNY COMBINING MARK MALO POVYSHE ON LEFTdPOVYSHE ON LEFTdVYSOKO ON LEFT
  1CF09 aZNAMENNY COMBINING MARK MALO POVYSHE S KHOKHLOM ON LEFTdPOVYSHE S KHOKHLOM ON LEFT
  1CF0B aZNAMENNY COMBINING MARK VYSOKO S KHOKHLOM ON LEFTdGORAZDO NIZKO S KRYZHEM ON RIGHT
  1CF0D aZNAMENNY COMBINING MARK NIZKO S KRYZHEM ON RIGHTdTSATA ON RIGHTdGORAZDO NIZKO ON RIGHT
  1CF10 aZNAMENNY COMBINING MARK NIZKO ON RIGHTdSREDNE ON RIGHTdMALO POVYSHE ON RIGHT
  1CF13 aZNAMENNY COMBINING MARK POVYSHE ON RIGHTdVYSOKO ON RIGHTdMALO POVYSHE S KHOKHLOM ON RIGHT
  1CF16 aZNAMENNY COMBINING MARK POVYSHE S KHOKHLOM ON RIGHTdVYSOKO S KHOKHLOM ON RIGHT
  1CF18 aZNAMENNY COMBINING MARK TSATA S KRYZHEMdMALO POVYSHE S KRYZHEMdSTRANNO MALO POVYSHE
  1CF1B aZNAMENNY COMBINING MARK POVYSHE S KRYZHEMeSTRANNOdVYSOKO S KRYZHEMdMALO POVYSHE STRANNO
  1CF1F aZNAMENNY COMBINING MARK GORAZDO VYSOKOdZELOdONdRAVNOdTIKHAYAdBORZAYAdUDARKAdPODVERTKA
  1CF27 aZNAMENNY COMBINING MARK LOMKAdKUPNAYAdKACHKAdZEVOKdSKOBAdRAZSEKAdKRYZH ON LEFT
  1CF30 aZNAMENNY COMBINING TONAL RANGE MARK MRACHNOfSVETLOfTRESVETLOcMARK ZADERZHKA
  1CF34 aZNAMENNY COMBINING MARK DEMESTVENNY ZADERZHKAdOTSECHKAdPODCHASHIEeWITH VERTICAL STROKE
  1CF38 aZNAMENNY COMBINING MARK CHASHKAePOLNAYAdOBLACHKOdSOROCHYA NOZHKAdTOCHKAdDVOETOCHIE
  1CF3E aZNAMENNY COMBINING ATTACHING VERTICAL OMETcMARK CURVED OMETdKRYZH
  1CF41 aZNAMENNY COMBINING LOWER TONAL RANGE INDICATORbPRIZNAK MODIFIER LEVEL-2dLEVEL-3
  1CF44 aZNAMENNY PRIZNAK MODIFIER DIRECTION FLIPdKRYZHdROG
  1CF50 aZNAMENNY NEUME KRYUKdTIKHYcPARAKLITcDVA V CHELNUcKLYUCHcZANOZHEKcSTOPITSAdS OCHKOM
  1CF58 aZNAMENNY NEUME PEREVODKAdNEPOSTOYANNAYAcSTOPITSA WITH SOROCHYA NOZHKAcCHELYUSTKAcPALKA
  1CF5D aZNAMENNY NEUME ZAPYATAYAcGOLUBCHIK BORZYdTIKHYdMRACHNYdSVETLYdTRESVETLYcVRAKHIYA PROSTAYA
  1CF64 aZNAMENNY NEUME VRAKHIYA MRACHNAYAdSVETLAYAdTRESVETLAYAdKLYUCHEVAYA PROSTAYAeMRACHNAYA
  1CF69 aZNAMENNY NEUME VRAKHIYA KLYUCHEVAYA SVETLAYAeTRESVETLAYAcDOUBLE ZAPYATAYA
  1CF6C aZNAMENNY NEUME REVERSED CHELYUSTKAcDERBITSAcKHAMILOcCHASHKAcPODCHASHIE
  1CF71 aZNAMENNY NEUME SKAMEYTSA MRACHNAYAdSVETLAYAdTRESVETLAYAdTIKHAYAcDEMESTVENNY KLYUCH
  1CF76 aZNAMENNY NEUME SKAMEYTSA KLYUCHEVAYA SVETLAYAdKLYUCHENEPOSTOYANNAYAdKLYUCHEVAYA TIKHAYA
  1CF79 aZNAMENNY NEUME SKAMEYTSA DVOECHELNAYA PROSTAYAeSVETLAYAeNEPOSTOYANNAYAeKLYUCHEVAYA
  1CF7D aZNAMENNY NEUME SLOZHITIEdS ZAPYATOYdZAKRYTOEdS KRYZHEMcKRYZHcROGcFITAcKOBYLAcZMEYTSA
  1CF86 aZNAMENNY NEUME STATYAdS ZAPYATOYeKRYZHEMeZAPYATOY I KRYZHEMeKRYZHEM I ZAPYATOYdZAKRYTAYA
  1CF8C aZNAMENNY NEUME STATYA ZAKRYTAYA S ZAPYATOYdS ROGOMeDVUMYA ZAPYATYMI
  1CF8F aZNAMENNY NEUME STATYA S ZAPYATOY I PODCHASHIEMcPOLKULIZMYcSTATYA NEPOSTOYANNAYA
  1CF92 aZNAMENNY NEUME STRELA PROSTAYAdMRACHNOTIKHAYAdKRYZHEVAYAdPOLUPOVODNAYAdPOVODNAYA
  1CF97 aZNAMENNY NEUME STRELA NEPOSTOYANNAYAdKLYUCHEPOVODNAYAdKLYUCHENEPOSTOYANNAYA
  1CF9A aZNAMENNY NEUME STRELA TIKHAYA PUTNAYAdDVOECHELNAYAdDVOECHELNOKRYZHEVAYA
  1CF9D aZNAMENNY NEUME STRELA DVOECHELNOPOVODNAYAdDVOECHELNAYA KLYUCHEVAYA
  1CF9F aZNAMENNY NEUME STRELA DVOECHELNOPOVODNAYA KLYUCHEVAYAdGROMNAYA WITH SINGLE ZAPYATAYA
  1CFA1 aZNAMENNY NEUME STRELA GROMOPOVODNAYA WITH SINGLE ZAPYATAYAdGROMNAYAdGROMOPOVODNAYA
  1CFA4 aZNAMENNY NEUME STRELA GROMOPOVODNAYA WITH DOUBLE ZAPYATAYAdGROMOKRYZHEVAYAePOVODNAYA
  1CFA7 aZNAMENNY NEUME MECHIKdPOVODNYdKLYUCHEVOYdKLYUCHEPOVODNYdKLYUCHENEPOSTOYANNY
  1CFAC aZNAMENNY NEUME STRELA TRYASOGLASNAYAdTRYASOPOVODNAYAdTRYASOSTRELNAYAcOSOKAdSVETLAYA
  1CFB1 aZNAMENNY NEUME OSOKA TRESVETLAYAdKRYUKOVAYA SVETLAYAdKLYUCHEVAYA SVETLAYAeNEPOSTOYANNAYA
  1CFB5 aZNAMENNY NEUME STRELA KRYUKOVAYAePOVODNAYAeGROMNAYA WITH SINGLE ZAPYATAYA
  1CFB8 aZNAMENNY NEUME STRELA KRYUKOVAYA GROMOPOVODNAYA WITH SINGLE ZAPYATAYAeGROMNAYA
  1CFBA aZNAMENNY NEUME STRELA KRYUKOVAYA GROMOPOVODNAYAfWITH DOUBLE ZAPYATAYAeGROMOKRYZHEVAYA
  1CFBD aZNAMENNY NEUME STRELA KRYUKOVAYA GROMOKRYZHEVAYA POVODNAYAeTRYASKAcKUFISMAcOBLAKOcDUDA
  1CFC2 aZNAMENNY NEUME NEMKAcPAUK
  1D000 aBYZANTINE MUSICAL SYMBOL PSILIdDASEIAdPERISPOMENIdOXEIA EKFONITIKONeDIPLI
  1D005 aBYZANTINE MUSICAL SYMBOL VAREIA EKFONITIKONeDIPLIdKATHISTIdSYRMATIKIdPARAKLITIKI
  1D00A aBYZANTINE MUSICAL SYMBOL YPOKRISISeDIPLIdKREMASTIdAPESO EKFONITIKONdEXO EKFONITIKON
  1D00F aBYZANTINE MUSICAL SYMBOL TELEIAdKENTIMATAdAPOSTROFOSeDIPLIdSYNEVMAdTHITAdOLIGON ARCHAION
  1D016 aBYZANTINE MUSICAL SYMBOL GORGON ARCHAIONdPSILONdCHAMILONdVATHYdISON ARCHAION
  1D01B aBYZANTINE MUSICAL SYMBOL KENTIMA ARCHAIONdKENTIMATA ARCHAIONdSAXIMATAdPARICHON
  1D01F aBYZANTINE MUSICAL SYMBOL STAVROS APODEXIAdOXEIAI ARCHAIONdVAREIAI ARCHAION
  1D022 aBYZANTINE MUSICAL SYMBOL APODERMA ARCHAIONdAPOTHEMAdKLASMAdREVMAdPIASMA ARCHAIONdTINAGMA
  1D028 aBYZANTINE MUSICAL SYMBOL ANATRICHISMAdSEISMAdSYNAGMA ARCHAIONeMETA STAVROU
  1D02C aBYZANTINE MUSICAL SYMBOL OYRANISMA ARCHAIONdTHEMAdLEMOIdDYOdTRIAdTESSERAdKRATIMATA
  1D033 aBYZANTINE MUSICAL SYMBOL APESO EXO NEOdFTHORA ARCHAIONdIMIFTHORAdTROMIKON ARCHAION
  1D037 aBYZANTINE MUSICAL SYMBOL KATAVA TROMIKONdPELASTONdPSIFISTONdKONTEVMAdCHOREVMA ARCHAION
  1D03C aBYZANTINE MUSICAL SYMBOL RAPISMAdPARAKALESMA ARCHAIONdPARAKLITIKI ARCHAIONdICHADINdNANA
  1D041 aBYZANTINE MUSICAL SYMBOL PETASMAdKONTEVMA ALLOdTROMIKON ALLOdSTRAGGISMATAdGRONTHISMATA
  1D046 aBYZANTINE MUSICAL SYMBOL ISON NEOdOLIGON NEOdOXEIA NEOdPETASTIdKOUFISMAdPETASTOKOUFISMA
  1D04C aBYZANTINE MUSICAL SYMBOL KRATIMOKOUFISMAdPELASTON NEOdKENTIMATA NEO ANOdKENTIMA NEO ANO
  1D050 aBYZANTINE MUSICAL SYMBOL YPSILIdAPOSTROFOS NEOdAPOSTROFOI SYNDESMOS NEOdYPORROI
  1D054 aBYZANTINE MUSICAL SYMBOL KRATIMOYPORROONdELAFRONdCHAMILIdMIKRON ISONdVAREIA NEO
  1D059 aBYZANTINE MUSICAL SYMBOL PIASMA NEOdPSIFISTON NEOdOMALONdANTIKENOMAdLYGISMA
  1D05E aBYZANTINE MUSICAL SYMBOL PARAKLITIKI NEOdPARAKALESMA NEOdETERON PARAKALESMAdKYLISMA
  1D062 aBYZANTINE MUSICAL SYMBOL ANTIKENOKYLISMAdTROMIKON NEOdEKSTREPTONdSYNAGMA NEOdSYRMA
  1D067 aBYZANTINE MUSICAL SYMBOL CHOREVMA NEOdEPEGERMAdSEISMA NEOdXIRON KLASMAdTROMIKOPSIFISTON
  1D06C aBYZANTINE MUSICAL SYMBOL PSIFISTOLYGISMAdTROMIKOLYGISMAdTROMIKOPARAKALESMA
  1D06F aBYZANTINE MUSICAL SYMBOL PSIFISTOPARAKALESMAdTROMIKOSYNAGMAdPSIFISTOSYNAGMA
  1D072 aBYZANTINE MUSICAL SYMBOL GORGOSYNTHETONdARGOSYNTHETONdETERON ARGOSYNTHETONdOYRANISMA NEO
  1D076 aBYZANTINE MUSICAL SYMBOL THEMATISMOS ESOeEXOdTHEMA APLOUNdTHES KAI APOTHESdKATAVASMA
  1D07B aBYZANTINE MUSICAL SYMBOL ENDOFONONdYFEN KATOeANOdSTAVROSdKLASMA ANOdDIPLI ARCHAION
  1D081 aBYZANTINE MUSICAL SYMBOL KRATIMA ARCHAIONeALLOeNEOdAPODERMA NEOdAPLIdDIPLIdTRIPLI
  1D088 aBYZANTINE MUSICAL SYMBOL TETRAPLIdKORONISdLEIMMA ENOS CHRONOUeDYO CHRONONeTRION CHRONON
  1D08D aBYZANTINE MUSICAL SYMBOL LEIMMA TESSARON CHRONONeIMISEOS CHRONOUdGORGON NEO ANO
  1D090 aBYZANTINE MUSICAL SYMBOL GORGON PARESTIGMENON ARISTERAfDEXIAdDIGORGON
  1D093 aBYZANTINE MUSICAL SYMBOL DIGORGON PARESTIGMENON ARISTERA KATOgANOfDEXIAdTRIGORGONdARGON
  1D098 aBYZANTINE MUSICAL SYMBOL IMIDIARGONdDIARGONdAGOGI POLI ARGIeARGOTERIeARGIeMETRIAeMESI
  1D09F aBYZANTINE MUSICAL SYMBOL AGOGI GORGIeGORGOTERIePOLI GORGIdMARTYRIA PROTOS ICHOS
  1D0A3 aBYZANTINE MUSICAL SYMBOL MARTYRIA ALLI PROTOS ICHOSeDEYTEROS ICHOSeALLI DEYTEROS ICHOS
  1D0A6 aBYZANTINE MUSICAL SYMBOL MARTYRIA TRITOS ICHOSeTRIFONIASeTETARTOS ICHOSfLEGETOS ICHOS
  1D0AA aBYZANTINE MUSICAL SYMBOL MARTYRIA LEGETOS ICHOSePLAGIOS ICHOSdISAKIA TELOUS ICHIMATOS
  1D0AD aBYZANTINE MUSICAL SYMBOL APOSTROFOI TELOUS ICHIMATOSdFANEROSIS TETRAFONIASeMONOFONIAS
  1D0B0 aBYZANTINE MUSICAL SYMBOL FANEROSIS DIFONIASdMARTYRIA VARYS ICHOSePROTOVARYS ICHOS
  1D0B3 aBYZANTINE MUSICAL SYMBOL MARTYRIA PLAGIOS TETARTOS ICHOSdGORTHMIKON N APLOUNfDIPLOUN
  1D0B6 aBYZANTINE MUSICAL SYMBOL ENARXIS KAI FTHORA VOUdIMIFONONdIMIFTHORON
  1D0B9 aBYZANTINE MUSICAL SYMBOL FTHORA ARCHAION DEYTEROU ICHOUeDIATONIKI PAfNANAeNAOS ICHOS
  1D0BD aBYZANTINE MUSICAL SYMBOL FTHORA DIATONIKI DIeSKLIRON DIATONON DIeDIATONIKI KEfZOfNI KATO
  1D0C2 aBYZANTINE MUSICAL SYMBOL FTHORA DIATONIKI NI ANOeMALAKON CHROMA DIFONIASgMONOFONIAS
  1D0C5 aBYZANTINE MUSICAL SYMBOL FHTORA SKLIRON CHROMA VASISdFTHORA SKLIRON CHROMA SYNAFIeNENANO
  1D0C8 aBYZANTINE MUSICAL SYMBOL CHROA ZYGOSeKLITONeSPATHIdFTHORA I YFESIS TETARTIMORION
  1D0CC aBYZANTINE MUSICAL SYMBOL FTHORA ENARMONIOS ANTIFONIAdYFESIS TRITIMORION
  1D0CE aBYZANTINE MUSICAL SYMBOL DIESIS TRITIMORIONeTETARTIMORIONeAPLI DYO DODEKATA
  1D0D1 aBYZANTINE MUSICAL SYMBOL DIESIS MONOGRAMMOS TESSERA DODEKATAeDIGRAMMOS EX DODEKATA
  1D0D3 aBYZANTINE MUSICAL SYMBOL DIESIS TRIGRAMMOS OKTO DODEKATAdYFESIS APLI DYO DODEKATA
  1D0D5 aBYZANTINE MUSICAL SYMBOL YFESIS MONOGRAMMOS TESSERA DODEKATAeDIGRAMMOS EX DODEKATA
  1D0D7 aBYZANTINE MUSICAL SYMBOL YFESIS TRIGRAMMOS OKTO DODEKATAdGENIKI DIESISeYFESIS
  1D0DA aBYZANTINE MUSICAL SYMBOL DIASTOLI APLI MIKRIfMEGALIeDIPLIeTHESEOSdSIMANSIS THESEOS
  1D0DF aBYZANTINE MUSICAL SYMBOL SIMANSIS THESEOS DISIMOUfTRISIMOUfTETRASIMOUeARSEOSfDISIMOU
  1D0E4 aBYZANTINE MUSICAL SYMBOL SIMANSIS ARSEOS TRISIMOUfTETRASIMOUdDIGRAMMA GGdDIFTOGGOS OU
  1D0E8 aBYZANTINE MUSICAL SYMBOL STIGMAdARKTIKO PAeVOUeGAeDIeKEeZOeNIdKENTIMATA NEO MESO
  1D0F1 aBYZANTINE MUSICAL SYMBOL KENTIMA NEO MESOdKENTIMATA NEO KATOdKENTIMA NEO KATOdKLASMA KATO
  1D0F5 aBYZANTINE MUSICAL SYMBOL GORGON NEO KATO
  1D100 aMUSICAL SYMBOL SINGLE BARLINEcDOUBLE BARLINEcFINAL BARLINEcREVERSE FINAL BARLINE
  1D104 aMUSICAL SYMBOL DASHED BARLINEcSHORT BARLINEcLEFT REPEAT SIGNcRIGHT REPEAT SIGN
  1D108 aMUSICAL SYMBOL REPEAT DOTScDAL SEGNOcDA CAPOcSEGNOcCODAcREPEATED FIGURE-1dFIGURE-2
  1D10F aMUSICAL SYMBOL REPEATED FIGURE-3cFERMATAdBELOWcBREATH MARKcCAESURAcBRACEcBRACKET
  1D116 aMUSICAL SYMBOL ONE-LINE STAFFcTWO-LINE STAFFcTHREE-LINE STAFFcFOUR-LINE STAFF
  1D11A aMUSICAL SYMBOL FIVE-LINE STAFFcSIX-LINE STAFFcSIX-STRING FRETBOARDcFOUR-STRING FRETBOARD
  1D11E aMUSICAL SYMBOL G CLEFeOTTAVA ALTAfBASSAcC CLEFcF CLEFeOTTAVA ALTAfBASSAcDRUM CLEF-1
  1D126 aMUSICAL SYMBOL DRUM CLEF-2
  1D129 aMUSICAL SYMBOL MULTIPLE MEASURE RESTcDOUBLE SHARPdFLATcFLAT UPdDOWNcNATURAL UPdDOWN
  1D130 aMUSICAL SYMBOL SHARP UPdDOWNcQUARTER TONE SHARPeFLATcCOMMON TIMEcCUT TIMEcOTTAVA ALTA
  1D137 aMUSICAL SYMBOL OTTAVA BASSAcQUINDICESIMA ALTAdBASSAcMULTI RESTcWHOLE RESTcHALF REST
  1D13D aMUSICAL SYMBOL QUARTER RESTcEIGHTH RESTcSIXTEENTH RESTcTHIRTY-SECOND REST
  1D141 aMUSICAL SYMBOL SIXTY-FOURTH RESTcONE HUNDRED TWENTY-EIGHTH RESTcX NOTEHEADcPLUS NOTEHEAD
  1D145 aMUSICAL SYMBOL CIRCLE X NOTEHEADcSQUARE NOTEHEAD WHITEeBLACKcTRIANGLE NOTEHEAD UP WHITE
  1D149 aMUSICAL SYMBOL TRIANGLE NOTEHEAD UP BLACKeLEFT WHITEfBLACKeRIGHT WHITEfBLACKeDOWN WHITE
  1D14F aMUSICAL SYMBOL TRIANGLE NOTEHEAD DOWN BLACKeUP RIGHT WHITEgBLACKcMOON NOTEHEAD WHITE
  1D153 aMUSICAL SYMBOL MOON NOTEHEAD BLACKcTRIANGLE-ROUND NOTEHEAD DOWN WHITEfBLACK
  1D156 aMUSICAL SYMBOL PARENTHESIS NOTEHEADcVOID NOTEHEADcNOTEHEAD BLACKcNULL NOTEHEAD
  1D15A aMUSICAL SYMBOL CLUSTER NOTEHEAD WHITEeBLACKcBREVEcWHOLE NOTEcHALF NOTEcQUARTER NOTE
  1D160 aMUSICAL SYMBOL EIGHTH NOTEcSIXTEENTH NOTEcTHIRTY-SECOND NOTEcSIXTY-FOURTH NOTE
  1D164 aMUSICAL SYMBOL ONE HUNDRED TWENTY-EIGHTH NOTEcCOMBINING STEMdSPRECHGESANG STEMdTREMOLO-1
  1D168 aMUSICAL SYMBOL COMBINING TREMOLO-2dTREMOLO-3cFINGERED TREMOLO-1dTREMOLO-2dTREMOLO-3
  1D16D aMUSICAL SYMBOL COMBINING AUGMENTATION DOTdFLAG-1dFLAG-2dFLAG-3dFLAG-4dFLAG-5cBEGIN BEAM
  1D174 aMUSICAL SYMBOL END BEAMcBEGIN TIEcEND TIEcBEGIN SLURcEND SLURcBEGIN PHRASEcEND PHRASE
  1D17B aMUSICAL SYMBOL COMBINING ACCENTdSTACCATOdTENUTOdSTACCATISSIMOdMARCATOdMARCATO-STACCATO
  1D181 aMUSICAL SYMBOL COMBINING ACCENT-STACCATOdLOUREcARPEGGIATO UPdDOWNcCOMBINING DOITdRIPdFLIP
  1D188 aMUSICAL SYMBOL COMBINING SMEARdBENDdDOUBLE TONGUEdTRIPLE TONGUEcRINFORZANDOcSUBITOcZ
  1D18F aMUSICAL SYMBOL PIANOcMEZZOcFORTEcCRESCENDOcDECRESCENDOcGRACE NOTE SLASHeNO SLASHcTRcTURN
  1D198 aMUSICAL SYMBOL INVERTED TURNcTURN SLASHdUPcORNAMENT STROKE-1dSTROKE-2dSTROKE-3dSTROKE-4
  1D19F aMUSICAL SYMBOL ORNAMENT STROKE-5dSTROKE-6dSTROKE-7dSTROKE-8dSTROKE-9dSTROKE-10dSTROKE-11
  1D1A6 aMUSICAL SYMBOL HAUPTSTIMMEcNEBENSTIMMEcEND OF STIMMEcDEGREE SLASHcCOMBINING DOWN BOW
  1D1AB aMUSICAL SYMBOL COMBINING UP BOWdHARMONICdSNAP PIZZICATOcPEDAL MARKdUP MARK
  1D1B0 aMUSICAL SYMBOL HALF PEDAL MARKcGLISSANDO UPdDOWNcWITH FINGERNAILScDAMPdALLcMAXIMAcLONGA
  1D1B8 aMUSICAL SYMBOL BREVIScSEMIBREVIS WHITEdBLACKcMINIMAdBLACKcSEMIMINIMA WHITEdBLACK
  1D1BF aMUSICAL SYMBOL FUSA WHITEdBLACKcLONGA PERFECTA RESTdIMPERFECTA RESTcBREVIS REST
  1D1C4 aMUSICAL SYMBOL SEMIBREVIS RESTcMINIMA RESTcSEMIMINIMA REST
  1D1C7 aMUSICAL SYMBOL TEMPUS PERFECTUM CUM PROLATIONE PERFECTAgIMPERFECTAgPERFECTA DIMINUTION-1
  1D1CA aMUSICAL SYMBOL TEMPUS IMPERFECTUM CUM PROLATIONE PERFECTAgIMPERFECTAhDIMINUTION-1
  1D1CD aMUSICAL SYMBOL TEMPUS IMPERFECTUM CUM PROLATIONE IMPERFECTA DIMINUTION-2hDIMINUTION-3
  1D1CF aMUSICAL SYMBOL CROIXcGREGORIAN C CLEFdF CLEFcSQUARE BcVIRGAcPODATUScCLIVIScSCANDICUS
  1D1D7 aMUSICAL SYMBOL CLIMACUScTORCULUScPORRECTUSdFLEXUScSCANDICUS FLEXUScTORCULUS RESUPINUS
  1D1DD aMUSICAL SYMBOL PES SUBPUNCTIScKIEVAN C CLEFdEND OF PIECEdFINAL NOTEdRECITATIVE MARK
  1D1E2 aMUSICAL SYMBOL KIEVAN WHOLE NOTEdHALF NOTEdQUARTER NOTE STEM DOWNgUP
  1D1E6 aMUSICAL SYMBOL KIEVAN EIGHTH NOTE STEM DOWNgUPdFLAT SIGNcSORIcKORON
  1D200 aGREEK VOCAL NOTATION SYMBOL-1dSYMBOL-2dSYMBOL-3dSYMBOL-4dSYMBOL-5dSYMBOL-6dSYMBOL-7
  1D207 aGREEK VOCAL NOTATION SYMBOL-8dSYMBOL-9dSYMBOL-10dSYMBOL-11dSYMBOL-12dSYMBOL-13dSYMBOL-14
  1D20E aGREEK VOCAL NOTATION SYMBOL-15dSYMBOL-16dSYMBOL-17dSYMBOL-18dSYMBOL-19dSYMBOL-20
  1D214 aGREEK VOCAL NOTATION SYMBOL-21dSYMBOL-22dSYMBOL-23dSYMBOL-24dSYMBOL-50dSYMBOL-51
  1D21A aGREEK VOCAL NOTATION SYMBOL-52dSYMBOL-53dSYMBOL-54bINSTRUMENTAL NOTATION SYMBOL-1
  1D21E aGREEK INSTRUMENTAL NOTATION SYMBOL-2dSYMBOL-4dSYMBOL-5dSYMBOL-7dSYMBOL-8dSYMBOL-11
  1D224 aGREEK INSTRUMENTAL NOTATION SYMBOL-12dSYMBOL-13dSYMBOL-14dSYMBOL-17dSYMBOL-18dSYMBOL-19
  1D22A aGREEK INSTRUMENTAL NOTATION SYMBOL-23dSYMBOL-24dSYMBOL-25dSYMBOL-26dSYMBOL-27dSYMBOL-29
  1D230 aGREEK INSTRUMENTAL NOTATION SYMBOL-30dSYMBOL-32dSYMBOL-36dSYMBOL-37dSYMBOL-38dSYMBOL-39
  1D236 aGREEK INSTRUMENTAL NOTATION SYMBOL-40dSYMBOL-42dSYMBOL-43dSYMBOL-45dSYMBOL-47dSYMBOL-48
  1D23C aGREEK INSTRUMENTAL NOTATION SYMBOL-49dSYMBOL-50dSYMBOL-51dSYMBOL-52dSYMBOL-53dSYMBOL-54
  1D242 aCOMBINING GREEK MUSICAL TRISEMEdTETRASEMEdPENTASEMEaGREEK MUSICAL LEIMMA
  1D2E0 aMAYAN NUMERAL ZEROcONEcTWOcTHREEcFOURcFIVEcSIXcSEVENcEIGHTcNINEcTENcELEVENcTWELVE
  1D2ED aMAYAN NUMERAL THIRTEENcFOURTEENcFIFTEENcSIXTEENcSEVENTEENcEIGHTEENcNINETEEN
  1D300 aMONOGRAM FOR EARTHaDIGRAM FOR HEAVENLY EARTHcHUMAN EARTHcEARTHLY HEAVENdHUMANcEARTH
  1D306 aTETRAGRAM FOR CENTREcFULL CIRCLEcMIREDcBARRIERcKEEPING SMALLcCONTRARIETYcASCENT
  1D30D aTETRAGRAM FOR OPPOSITIONcBRANCHING OUTcDEFECTIVENESS OR DISTORTIONcDIVERGENCE
  1D311 aTETRAGRAM FOR YOUTHFULNESScINCREASEcPENETRATIONcREACHcCONTACTcHOLDING BACKcWAITING
  1D318 aTETRAGRAM FOR FOLLOWINGcADVANCEcRELEASEcRESISTANCEcEASEcJOYcCONTENTIONcENDEAVOURcDUTIES
  1D321 aTETRAGRAM FOR CHANGEcDECISIVENESScBOLD RESOLUTIONcPACKINGcLEGIONcCLOSENESScKINSHIP
  1D328 aTETRAGRAM FOR GATHERINGcSTRENGTHcPURITYcFULLNESScRESIDENCEcLAW OR MODELcRESPONSE
  1D32F aTETRAGRAM FOR GOING TO MEETcENCOUNTERScSTOVEcGREATNESScENLARGEMENTcPATTERNcRITUALcFLIGHT
  1D337 aTETRAGRAM FOR VASTNESS OR WASTINGcCONSTANCYcMEASUREcETERNITYcUNITYcDIMINISHMENT
  1D33D aTETRAGRAM FOR CLOSED MOUTHcGUARDEDNESScGATHERING INcMASSINGcACCUMULATIONcEMBELLISHMENT
  1D343 aTETRAGRAM FOR DOUBTcWATCHcSINKINGcINNERcDEPARTUREcDARKENINGcDIMMINGcEXHAUSTIONcSEVERANCE
  1D34C aTETRAGRAM FOR STOPPAGEcHARDNESScCOMPLETIONcCLOSUREcFAILUREcAGGRAVATIONcCOMPLIANCE
  1D353 aTETRAGRAM FOR ON THE VERGEcDIFFICULTIEScLABOURINGcFOSTERING
  1D360 aCOUNTING ROD UNIT DIGIT ONEeTWOeTHREEeFOUReFIVEeSIXeSEVENeEIGHTeNINEcTENS DIGIT ONEeTWO
  1D36B aCOUNTING ROD TENS DIGIT THREEeFOUReFIVEeSIXeSEVENeEIGHTeNINEaIDEOGRAPHIC TALLY MARK ONE
  1D373 aIDEOGRAPHIC TALLY MARK TWOdTHREEdFOURdFIVEaTALLY MARK ONEcFIVE
  1D400 aMATHEMATICAL BOLD CAPITAL AdBdCdDdEdFdGdHdIdJdKdLdMdNdOdPdQdRdSdTdUdVdWdXdYdZcSMALL AdBdC
  1D41D aMATHEMATICAL BOLD SMALL DdEdFdGdHdIdJdKdLdMdNdOdPdQdRdSdTdUdVdWdXdYdZbITALIC CAPITAL AdB
  1D436 aMATHEMATICAL ITALIC CAPITAL CdDdEdFdGdHdIdJdKdLdMdNdOdPdQdRdSdTdUdVdWdXdYdZcSMALL AdBdCdD
  1D452 aMATHEMATICAL ITALIC SMALL EdFdG
  1D456 aMATHEMATICAL ITALIC SMALL IdJdKdLdMdNdOdPdQdRdSdTdUdVdWdXdYdZbBOLD ITALIC CAPITAL AeBeCeD
  1D46C aMATHEMATICAL BOLD ITALIC CAPITAL EeFeGeHeIeJeKeLeMeNeOePeQeReSeTeUeVeWeXeYeZdSMALL AeBeC
  1D485 aMATHEMATICAL BOLD ITALIC SMALL DeEeFeGeHeIeJeKeLeMeNeOePeQeReSeTeUeVeWeXeYeZ
  1D49C aMATHEMATICAL SCRIPT CAPITAL A
  1D49E aMATHEMATICAL SCRIPT CAPITAL CdD
  1D4A2 aMATHEMATICAL SCRIPT CAPITAL G
  1D4A5 aMATHEMATICAL SCRIPT CAPITAL JdK
  1D4A9 aMATHEMATICAL SCRIPT CAPITAL NdOdPdQ
  1D4AE aMATHEMATICAL SCRIPT CAPITAL SdTdUdVdWdXdYdZcSMALL AdBdCdD
  1D4BB aMATHEMATICAL SCRIPT SMALL F
  1D4BD aMATHEMATICAL SCRIPT SMALL HdIdJdKdLdMdN
  1D4C5 aMATHEMATICAL SCRIPT SMALL PdQdRdSdTdUdVdWdXdYdZbBOLD SCRIPT CAPITAL AeBeCeDeEeFeGeHeIeJeK
  1D4DB aMATHEMATICAL BOLD SCRIPT CAPITAL LeMeNeOePeQeReSeTeUeVeWeXeYeZdSMALL AeBeCeDeEeFeGeHeIeJ
  1D4F4 aMATHEMATICAL BOLD SCRIPT SMALL KeLeMeNeOePeQeReSeTeUeVeWeXeYeZbFRAKTUR CAPITAL AdB
  1D507 aMATHEMATICAL FRAKTUR CAPITAL DdEdFdG
  1D50D aMATHEMATICAL FRAKTUR CAPITAL JdKdLdMdNdOdPdQ
  1D516 aMATHEMATICAL FRAKTUR CAPITAL SdTdUdVdWdXdY
  1D51E aMATHEMATICAL FRAKTUR SMALL AdBdCdDdEdFdGdHdIdJdKdLdMdNdOdPdQdRdSdTdUdVdWdXdYdZ
  1D538 aMATHEMATICAL DOUBLE-STRUCK CAPITAL AdB
  1D53B aMATHEMATICAL DOUBLE-STRUCK CAPITAL DdEdFdG
  1D540 aMATHEMATICAL DOUBLE-STRUCK CAPITAL IdJdKdLdM
  1D546 aMATHEMATICAL DOUBLE-STRUCK CAPITAL O
  1D54A aMATHEMATICAL DOUBLE-STRUCK CAPITAL SdTdUdVdWdXdY
  1D552 aMATHEMATICAL DOUBLE-STRUCK SMALL AdBdCdDdEdFdGdHdIdJdKdLdMdNdOdPdQdRdSdTdUdVdWdXdYdZ
  1D56C aMATHEMATICAL BOLD FRAKTUR CAPITAL AeBeCeDeEeFeGeHeIeJeKeLeMeNeOePeQeReSeTeUeVeWeXeYeZ
  1D586 aMATHEMATICAL BOLD FRAKTUR SMALL AeBeCeDeEeFeGeHeIeJeKeLeMeNeOePeQeReSeTeUeVeWeXeYeZ
  1D5A0 aMATHEMATICAL SANS-SERIF CAPITAL AdBdCdDdEdFdGdHdIdJdKdLdMdNdOdPdQdRdSdTdUdVdWdXdYdZ
  1D5BA aMATHEMATICAL SANS-SERIF SMALL AdBdCdDdEdFdGdHdIdJdKdLdMdNdOdPdQdRdSdTdUdVdWdXdYdZ
  1D5D4 aMATHEMATICAL SANS-SERIF BOLD CAPITAL AeBeCeDeEeFeGeHeIeJeKeLeMeNeOePeQeReSeTeUeVeWeXeYeZ
  1D5EE aMATHEMATICAL SANS-SERIF BOLD SMALL AeBeCeDeEeFeGeHeIeJeKeLeMeNeOePeQeReSeTeUeVeWeXeYeZ
  1D608 aMATHEMATICAL SANS-SERIF ITALIC CAPITAL AeBeCeDeEeFeGeHeIeJeKeLeMeNeOePeQeReSeTeUeVeWeXeY
  1D621 aMATHEMATICAL SANS-SERIF ITALIC CAPITAL ZdSMALL AeBeCeDeEeFeGeHeIeJeKeLeMeNeOePeQeReSeTeU
  1D637 aMATHEMATICAL SANS-SERIF ITALIC SMALL VeWeXeYeZcBOLD ITALIC CAPITAL AfBfCfDfEfFfGfHfIfJfK
  1D647 aMATHEMATICAL SANS-SERIF BOLD ITALIC CAPITAL LfMfNfOfPfQfRfSfTfUfVfWfXfYfZeSMALL AfBfCfDfE
  1D65B aMATHEMATICAL SANS-SERIF BOLD ITALIC SMALL FfGfHfIfJfKfLfMfNfOfPfQfRfSfTfUfVfWfXfYfZ
  1D670 aMATHEMATICAL MONOSPACE CAPITAL AdBdCdDdEdFdGdHdIdJdKdLdMdNdOdPdQdRdSdTdUdVdWdXdYdZ
  1D68A aMATHEMATICAL MONOSPACE SMALL AdBdCdDdEdFdGdHdIdJdKdLdMdNdOdPdQdRdSdTdUdVdWdXdYdZ
  1D6A4 aMATHEMATICAL ITALIC SMALL DOTLESS IeJ
  1D6A8 aMATHEMATICAL BOLD CAPITAL ALPHAdBETAdGAMMAdDELTAdEPSILONdZETAdETAdTHETAdIOTAdKAPPAdLAMDA
  1D6B3 aMATHEMATICAL BOLD CAPITAL MUdNUdXIdOMICRONdPIdRHOdTHETA SYMBOLdSIGMAdTAUdUPSILONdPHIdCHI
  1D6BF aMATHEMATICAL BOLD CAPITAL PSIdOMEGAcNABLAcSMALL ALPHAdBETAdGAMMAdDELTAdEPSILONdZETAdETA
  1D6C9 aMATHEMATICAL BOLD SMALL THETAdIOTAdKAPPAdLAMDAdMUdNUdXIdOMICRONdPIdRHOdFINAL SIGMAdSIGMA
  1D6D5 aMATHEMATICAL BOLD SMALL TAUdUPSILONdPHIdCHIdPSIdOMEGAcPARTIAL DIFFERENTIALcEPSILON SYMBOL
  1D6DD aMATHEMATICAL BOLD THETA SYMBOLcKAPPA SYMBOLcPHI SYMBOLcRHO SYMBOLcPI SYMBOL
  1D6E2 aMATHEMATICAL ITALIC CAPITAL ALPHAdBETAdGAMMAdDELTAdEPSILONdZETAdETAdTHETAdIOTAdKAPPA
  1D6EC aMATHEMATICAL ITALIC CAPITAL LAMDAdMUdNUdXIdOMICRONdPIdRHOdTHETA SYMBOLdSIGMAdTAUdUPSILON
  1D6F7 aMATHEMATICAL ITALIC CAPITAL PHIdCHIdPSIdOMEGAcNABLAcSMALL ALPHAdBETAdGAMMAdDELTAdEPSILON
  1D701 aMATHEMATICAL ITALIC SMALL ZETAdETAdTHETAdIOTAdKAPPAdLAMDAdMUdNUdXIdOMICRONdPIdRHO
  1D70D aMATHEMATICAL ITALIC SMALL FINAL SIGMAdSIGMAdTAUdUPSILONdPHIdCHIdPSIdOMEGA
  1D715 aMATHEMATICAL ITALIC PARTIAL DIFFERENTIALcEPSILON SYMBOLcTHETA SYMBOLcKAPPA SYMBOL
  1D719 aMATHEMATICAL ITALIC PHI SYMBOLcRHO SYMBOLcPI SYMBOLbBOLD ITALIC CAPITAL ALPHAeBETAeGAMMA
  1D71F aMATHEMATICAL BOLD ITALIC CAPITAL DELTAeEPSILONeZETAeETAeTHETAeIOTAeKAPPAeLAMDAeMUeNUeXI
  1D72A aMATHEMATICAL BOLD ITALIC CAPITAL OMICRONePIeRHOeTHETA SYMBOLeSIGMAeTAUeUPSILONePHIeCHI
  1D733 aMATHEMATICAL BOLD ITALIC CAPITAL PSIeOMEGAdNABLAdSMALL ALPHAeBETAeGAMMAeDELTAeEPSILON
  1D73B aMATHEMATICAL BOLD ITALIC SMALL ZETAeETAeTHETAeIOTAeKAPPAeLAMDAeMUeNUeXIeOMICRONePIeRHO
  1D747 aMATHEMATICAL BOLD ITALIC SMALL FINAL SIGMAeSIGMAeTAUeUPSILONePHIeCHIePSIeOMEGA
  1D74F aMATHEMATICAL BOLD ITALIC PARTIAL DIFFERENTIALdEPSILON SYMBOLdTHETA SYMBOLdKAPPA SYMBOL
  1D753 aMATHEMATICAL BOLD ITALIC PHI SYMBOLdRHO SYMBOLdPI SYMBOLbSANS-SERIF BOLD CAPITAL ALPHA
  1D757 aMATHEMATICAL SANS-SERIF BOLD CAPITAL BETAeGAMMAeDELTAeEPSILONeZETAeETAeTHETAeIOTAeKAPPA
  1D760 aMATHEMATICAL SANS-SERIF BOLD CAPITAL LAMDAeMUeNUeXIeOMICRONePIeRHOeTHETA SYMBOLeSIGMAeTAU
  1D76A aMATHEMATICAL SANS-SERIF BOLD CAPITAL UPSILONePHIeCHIePSIeOMEGAdNABLAdSMALL ALPHAeBETA
  1D772 aMATHEMATICAL SANS-SERIF BOLD SMALL GAMMAeDELTAeEPSILONeZETAeETAeTHETAeIOTAeKAPPAeLAMDAeMU
  1D77C aMATHEMATICAL SANS-SERIF BOLD SMALL NUeXIeOMICRONePIeRHOeFINAL SIGMAeSIGMAeTAUeUPSILONePHI
  1D786 aMATHEMATICAL SANS-SERIF BOLD SMALL CHIePSIeOMEGAdPARTIAL DIFFERENTIALdEPSILON SYMBOL
  1D78B aMATHEMATICAL SANS-SERIF BOLD THETA SYMBOLdKAPPA SYMBOLdPHI SYMBOLdRHO SYMBOLdPI SYMBOL
  1D790 aMATHEMATICAL SANS-SERIF BOLD ITALIC CAPITAL ALPHAfBETAfGAMMAfDELTAfEPSILONfZETAfETAfTHETA
  1D798 aMATHEMATICAL SANS-SERIF BOLD ITALIC CAPITAL IOTAfKAPPAfLAMDAfMUfNUfXIfOMICRONfPIfRHO
  1D7A1 aMATHEMATICAL SANS-SERIF BOLD ITALIC CAPITAL THETA SYMBOLfSIGMAfTAUfUPSILONfPHIfCHIfPSI
  1D7A8 aMATHEMATICAL SANS-SERIF BOLD ITALIC CAPITAL OMEGAeNABLAeSMALL ALPHAfBETAfGAMMAfDELTA
  1D7AE aMATHEMATICAL SANS-SERIF BOLD ITALIC SMALL EPSILONfZETAfETAfTHETAfIOTAfKAPPAfLAMDAfMUfNU
  1D7B7 aMATHEMATICAL SANS-SERIF BOLD ITALIC SMALL XIfOMICRONfPIfRHOfFINAL SIGMAfSIGMAfTAUfUPSILON
  1D7BF aMATHEMATICAL SANS-SERIF BOLD ITALIC SMALL PHIfCHIfPSIfOMEGAePARTIAL DIFFERENTIAL
  1D7C4 aMATHEMATICAL SANS-SERIF BOLD ITALIC EPSILON SYMBOLeTHETA SYMBOLeKAPPA SYMBOLePHI SYMBOL
  1D7C8 aMATHEMATICAL SANS-SERIF BOLD ITALIC RHO SYMBOLePI SYMBOLbBOLD CAPITAL DIGAMMA
  1D7CB aMATHEMATICAL BOLD SMALL DIGAMMA
  1D7CE aMATHEMATICAL BOLD DIGIT ZEROdONEdTWOdTHREEdFOURdFIVEdSIXdSEVENdEIGHTdNINE
  1D7D8 aMATHEMATICAL DOUBLE-STRUCK DIGIT ZEROdONEdTWOdTHREEdFOURdFIVEdSIXdSEVENdEIGHTdNINE
  1D7E2 aMATHEMATICAL SANS-SERIF DIGIT ZEROdONEdTWOdTHREEdFOURdFIVEdSIXdSEVENdEIGHTdNINE
  1D7EC aMATHEMATICAL SANS-SERIF BOLD DIGIT ZEROeONEeTWOeTHREEeFOUReFIVEeSIXeSEVENeEIGHTeNINE
  1D7F6 aMATHEMATICAL MONOSPACE DIGIT ZEROdONEdTWOdTHREEdFOURdFIVEdSIXdSEVENdEIGHTdNINE
  1D800 aSIGNWRITING HAND-FIST INDEXbHAND-CIRCLE INDEXbHAND-CUP INDEXbHAND-OVAL INDEX
  1D804 aSIGNWRITING HAND-HINGE INDEXbHAND-ANGLE INDEXbHAND-FIST INDEX BENTbHAND-CIRCLE INDEX BENT
  1D808 aSIGNWRITING HAND-FIST THUMB UNDER INDEX BENTcINDEX RAISED KNUCKLEdCUPPEDdHINGEDeLOW
  1D80D aSIGNWRITING HAND-CIRCLE INDEX HINGEbHAND-FIST INDEX MIDDLEbHAND-CIRCLE INDEX MIDDLE
  1D810 aSIGNWRITING HAND-FIST INDEX MIDDLE BENTeRAISED KNUCKLESeHINGEDdUP MIDDLE HINGED
  1D814 aSIGNWRITING HAND-FIST INDEX HINGED MIDDLE UPdMIDDLE CONJOINEDfINDEX BENTfMIDDLE BENT
  1D818 aSIGNWRITING HAND-FIST INDEX MIDDLE CONJOINED CUPPEDfHINGEDeCROSSED
  1D81B aSIGNWRITING HAND-CIRCLE INDEX MIDDLE CROSSEDbHAND-FIST MIDDLE BENT OVER INDEX
  1D81D aSIGNWRITING HAND-FIST INDEX BENT OVER MIDDLEdMIDDLE THUMBbHAND-CIRCLE INDEX MIDDLE THUMB
  1D820 aSIGNWRITING HAND-FIST INDEX MIDDLE STRAIGHT THUMB BENTeBENT THUMB STRAIGHTeTHUMB BENT
  1D823 aSIGNWRITING HAND-FIST INDEX MIDDLE HINGED SPREAD THUMB SIDEdUP MIDDLE HINGED THUMB SIDE
  1D825 aSIGNWRITING HAND-FIST INDEX UP MIDDLE HINGED THUMB CONJOINEDdHINGED MIDDLE UP THUMB SIDE
  1D827 aSIGNWRITING HAND-FIST INDEX MIDDLE UP SPREAD THUMB FORWARDeTHUMB CUPPEDfCIRCLEDfHOOKED
  1D82B aSIGNWRITING HAND-FIST INDEX MIDDLE THUMB HINGEDcTHUMB BETWEEN INDEX MIDDLE STRAIGHT
  1D82D aSIGNWRITING HAND-FIST INDEX MIDDLE CONJOINED THUMB SIDEhCONJOINEDhBENT
  1D830 aSIGNWRITING HAND-FIST MIDDLE THUMB HOOKED INDEX UPcINDEX THUMB HOOKED MIDDLE UP
  1D832 aSIGNWRITING HAND-FIST INDEX MIDDLE CONJOINED HINGED THUMB SIDEeCROSSED THUMB SIDE
  1D834 aSIGNWRITING HAND-FIST INDEX MIDDLE CONJOINED THUMB FORWARDfCUPPED THUMB FORWARD
  1D836 aSIGNWRITING HAND-FIST MIDDLE THUMB CUPPED INDEX UPcINDEX THUMB CUPPED MIDDLE UP
  1D838 aSIGNWRITING HAND-FIST MIDDLE THUMB CIRCLED INDEX UPgHINGED
  1D83A aSIGNWRITING HAND-FIST INDEX THUMB ANGLED OUT MIDDLE UPfIN MIDDLE UPeCIRCLED MIDDLE UP
  1D83D aSIGNWRITING HAND-FIST INDEX MIDDLE THUMB CONJOINED HINGEDfANGLED OUTfANGLED
  1D840 aSIGNWRITING HAND-FIST MIDDLE THUMB ANGLED OUT INDEX UPhCROSSEDfINDEX UP
  1D843 aSIGNWRITING HAND-FIST INDEX THUMB HOOKED MIDDLE HINGEDbHAND-FLAT FOUR FINGERSeBENTeHINGED
  1D847 aSIGNWRITING HAND-FLAT FOUR FINGERS CONJOINEDfSPLITbHAND-CLAW FOUR FINGERS CONJOINED
  1D84A aSIGNWRITING HAND-FIST FOUR FINGERS CONJOINED BENTbHAND-HINGE FOUR FINGERS CONJOINED
  1D84C aSIGNWRITING HAND-FLAT FIVE FINGERS SPREADcHEEL FIVE FINGERS SPREAD
  1D84E aSIGNWRITING HAND-FLAT FIVE FINGERS SPREAD FOUR BENTcHEEL FIVE FINGERS SPREAD FOUR BENT
  1D850 aSIGNWRITING HAND-FLAT FIVE FINGERS SPREAD BENTcHEEL FIVE FINGERS SPREAD BENT
  1D852 aSIGNWRITING HAND-FLAT FIVE FINGERS SPREAD THUMB FORWARDbHAND-CUP FIVE FINGERS SPREADfOPEN
  1D855 aSIGNWRITING HAND-HINGE FIVE FINGERS SPREAD OPENbHAND-OVAL FIVE FINGERS SPREAD
  1D857 aSIGNWRITING HAND-FLAT FIVE FINGERS SPREAD HINGEDgTHUMB SIDEgNO THUMBbHAND-FLAT
  1D85B aSIGNWRITING HAND-FLAT BETWEEN PALM FACINGScHEELcTHUMB SIDEcHEEL THUMB SIDEcTHUMB BENT
  1D860 aSIGNWRITING HAND-FLAT THUMB FORWARDcSPLIT INDEX THUMB SIDEdCENTREeTHUMB SIDEgBENTdLITTLE
  1D866 aSIGNWRITING HAND-CLAWcTHUMB SIDEcNO THUMBcTHUMB FORWARDbHAND-HOOK CURLICUEbHAND-HOOK
  1D86C aSIGNWRITING HAND-CUP OPENbHAND-CUPcOPEN THUMB SIDEcTHUMB SIDEcOPEN NO THUMBcNO THUMB
  1D872 aSIGNWRITING HAND-CUP OPEN THUMB FORWARDcTHUMB FORWARDbHAND-CURLICUE OPENbHAND-CURLICUE
  1D876 aSIGNWRITING HAND-CIRCLEbHAND-OVALcTHUMB SIDEcNO THUMBcTHUMB FORWARDbHAND-HINGE OPEN
  1D87C aSIGNWRITING HAND-HINGE OPEN THUMB FORWARDbHAND-HINGEcSMALLcOPEN THUMB SIDEcTHUMB SIDE
  1D881 aSIGNWRITING HAND-HINGE OPEN NO THUMBcNO THUMBcTHUMB SIDE TOUCHING INDEX
  1D884 aSIGNWRITING HAND-HINGE THUMB BETWEEN MIDDLE RINGbHAND-ANGLEbHAND-FIST INDEX MIDDLE RING
  1D887 aSIGNWRITING HAND-CIRCLE INDEX MIDDLE RINGbHAND-HINGE INDEX MIDDLE RING
  1D889 aSIGNWRITING HAND-ANGLE INDEX MIDDLE RINGbHAND-HINGE LITTLE
  1D88B aSIGNWRITING HAND-FIST INDEX MIDDLE RING BENTfCONJOINED
  1D88D aSIGNWRITING HAND-HINGE INDEX MIDDLE RING CONJOINEDbHAND-FIST LITTLE DOWNeRIPPLE STRAIGHT
  1D890 aSIGNWRITING HAND-FIST LITTLE DOWN RIPPLE CURVEDeOTHERS CIRCLEDdUPcTHUMB UNDER LITTLE UP
  1D894 aSIGNWRITING HAND-CIRCLE LITTLE UPbHAND-OVAL LITTLE UPbHAND-ANGLE LITTLE UP
  1D897 aSIGNWRITING HAND-FIST LITTLE RAISED KNUCKLEdBENTdTOUCHES THUMBdTHUMB
  1D89B aSIGNWRITING HAND-HINGE LITTLE THUMBbHAND-FIST LITTLE INDEX THUMB
  1D89D aSIGNWRITING HAND-HINGE LITTLE INDEX THUMBbHAND-ANGLE LITTLE INDEX THUMB INDEX THUMB OUT
  1D89F aSIGNWRITING HAND-ANGLE LITTLE INDEX THUMB INDEX THUMBbHAND-FIST LITTLE INDEX
  1D8A1 aSIGNWRITING HAND-CIRCLE LITTLE INDEXbHAND-HINGE LITTLE INDEXbHAND-ANGLE LITTLE INDEX
  1D8A4 aSIGNWRITING HAND-FIST INDEX MIDDLE LITTLEbHAND-CIRCLE INDEX MIDDLE LITTLE
  1D8A6 aSIGNWRITING HAND-HINGE INDEX MIDDLE LITTLEcRINGbHAND-ANGLE INDEX MIDDLE LITTLE
  1D8A9 aSIGNWRITING HAND-FIST INDEX MIDDLE CROSS LITTLEbHAND-CIRCLE INDEX MIDDLE CROSS LITTLE
  1D8AB aSIGNWRITING HAND-FIST RING DOWNbHAND-HINGE RING DOWN INDEX THUMB HOOK MIDDLE
  1D8AD aSIGNWRITING HAND-ANGLE RING DOWN MIDDLE THUMB INDEX CROSSbHAND-FIST RING UP
  1D8AF aSIGNWRITING HAND-FIST RING RAISED KNUCKLEdLITTLEbHAND-CIRCLE RING LITTLE
  1D8B2 aSIGNWRITING HAND-OVAL RING LITTLEbHAND-ANGLE RING LITTLEbHAND-FIST RING MIDDLEeCONJOINED
  1D8B6 aSIGNWRITING HAND-FIST RING MIDDLE RAISED KNUCKLESdINDEXdTHUMBbHAND-HOOK RING THUMB
  1D8BA aSIGNWRITING HAND-FIST INDEX RING LITTLEbHAND-CIRCLE INDEX RING LITTLE
  1D8BC aSIGNWRITING HAND-CURLICUE INDEX RING LITTLE ONbHAND-HOOK INDEX RING LITTLE OUTfINfUNDER
  1D8C0 aSIGNWRITING HAND-CUP INDEX RING LITTLEbHAND-HINGE INDEX RING LITTLE
  1D8C2 aSIGNWRITING HAND-ANGLE INDEX RING LITTLE OUTeLITTLEbHAND-FIST MIDDLE DOWN
  1D8C5 aSIGNWRITING HAND-HINGE MIDDLEbHAND-FIST MIDDLE UPbHAND-CIRCLE MIDDLE UP
  1D8C8 aSIGNWRITING HAND-FIST MIDDLE RAISED KNUCKLEdUP THUMB SIDEbHAND-HOOK MIDDLE THUMB
  1D8CB aSIGNWRITING HAND-FIST MIDDLE THUMB LITTLEdLITTLEdRING LITTLE
  1D8CE aSIGNWRITING HAND-CIRCLE MIDDLE RING LITTLEbHAND-CURLICUE MIDDLE RING LITTLE ON
  1D8D0 aSIGNWRITING HAND-CUP MIDDLE RING LITTLEbHAND-HINGE MIDDLE RING LITTLE
  1D8D2 aSIGNWRITING HAND-ANGLE MIDDLE RING LITTLE OUTfINeLITTLE
  1D8D5 aSIGNWRITING HAND-CIRCLE MIDDLE RING LITTLE BENTbHAND-CLAW MIDDLE RING LITTLE CONJOINED
  1D8D7 aSIGNWRITING HAND-CLAW MIDDLE RING LITTLE CONJOINED SIDE
  1D8D8 aSIGNWRITING HAND-HOOK MIDDLE RING LITTLE CONJOINED OUTgINfCONJOINED
  1D8DB aSIGNWRITING HAND-HINGE INDEX HINGEDbHAND-FIST INDEX THUMB SIDE
  1D8DD aSIGNWRITING HAND-HINGE INDEX THUMB SIDEbHAND-FIST INDEX THUMB SIDE THUMB DIAGONAL
  1D8DF aSIGNWRITING HAND-FIST INDEX THUMB SIDE THUMB CONJOINEDgBENTfINDEX BENTfBOTH BENT
  1D8E3 aSIGNWRITING HAND-FIST INDEX THUMB SIDE INDEX HINGEeFORWARD INDEX STRAIGHTgBENTeHOOK
  1D8E7 aSIGNWRITING HAND-FIST INDEX THUMB CURLICUEeCURVE THUMB INSIDE
  1D8E9 aSIGNWRITING HAND-CLAW INDEX THUMB CURVE THUMB INSIDE
  1D8EA aSIGNWRITING HAND-FIST INDEX THUMB CURVE THUMB UNDEReCIRCLEbHAND-CUP INDEX THUMBeOPEN
  1D8EE aSIGNWRITING HAND-HINGE INDEX THUMB OPENeLARGEdTHUMBeSMALLbHAND-ANGLE INDEX THUMB OUTeIN
  1D8F4 aSIGNWRITING HAND-ANGLE INDEX THUMBbHAND-FIST THUMBdHEELdSIDE DIAGONALeCONJOINEDeBENT
  1D8FA aSIGNWRITING HAND-FIST THUMB FORWARDdBETWEEN INDEX MIDDLEeMIDDLE RINGeRING LITTLE
  1D8FE aSIGNWRITING HAND-FIST THUMB UNDER TWO FINGERSdOVER TWO FINGERSdUNDER THREE FINGERS
  1D901 aSIGNWRITING HAND-FIST THUMB UNDER FOUR FINGERSdOVER FOUR RAISED KNUCKLESbHAND-FISTcHEEL
  1D905 aSIGNWRITING TOUCH SINGLEcMULTIPLEcBETWEENbGRASP SINGLEcMULTIPLEcBETWEENbSTRIKE SINGLE
  1D90C aSIGNWRITING STRIKE MULTIPLEcBETWEENbBRUSH SINGLEcMULTIPLEcBETWEENbRUB SINGLEcMULTIPLE
  1D913 aSIGNWRITING RUB BETWEENbSURFACE SYMBOLScBETWEENbSQUEEZE LARGE SINGLEcSMALL SINGLE
  1D918 aSIGNWRITING SQUEEZE LARGE MULTIPLEcSMALL MULTIPLEcSEQUENTIALbFLICK LARGE SINGLE
  1D91C aSIGNWRITING FLICK SMALL SINGLEcLARGE MULTIPLEcSMALL MULTIPLEcSEQUENTIAL
  1D920 aSIGNWRITING SQUEEZE FLICK ALTERNATINGbMOVEMENT-HINGE UP DOWN LARGEeSMALLdSEQUENTIAL
  1D924 aSIGNWRITING MOVEMENT-HINGE DOWN SEQUENTIALcUP DOWN ALTERNATING LARGEfSMALL
  1D927 aSIGNWRITING MOVEMENT-HINGE SIDE TO SIDE SCISSORSbMOVEMENT-WALLPLANE FINGER CONTACT
  1D929 aSIGNWRITING MOVEMENT-FLOORPLANE FINGER CONTACTbMOVEMENT-WALLPLANE SINGLE STRAIGHT SMALL
  1D92B aSIGNWRITING MOVEMENT-WALLPLANE SINGLE STRAIGHT MEDIUMeLARGEeLARGESTdWRIST FLEX
  1D92F aSIGNWRITING MOVEMENT-WALLPLANE DOUBLE STRAIGHTdWRIST FLEXdALTERNATINGeWRIST FLEXcCROSS
  1D934 aSIGNWRITING MOVEMENT-WALLPLANE TRIPLE STRAIGHT MOVEMENTdWRIST FLEXdALTERNATINGeWRIST FLEX
  1D938 aSIGNWRITING MOVEMENT-WALLPLANE BEND SMALLdMEDIUMdLARGEcCORNER SMALLdMEDIUMdLARGEdROTATION
  1D93F aSIGNWRITING MOVEMENT-WALLPLANE CHECK SMALLdMEDIUMdLARGEcBOX SMALLdMEDIUMdLARGE
  1D945 aSIGNWRITING MOVEMENT-WALLPLANE ZIGZAG SMALLdMEDIUMdLARGEcPEAKS SMALLdMEDIUMdLARGE
  1D94B aSIGNWRITING TRAVEL-WALLPLANE ROTATION-WALLPLANE SINGLEdDOUBLEdALTERNATING
  1D94E aSIGNWRITING TRAVEL-WALLPLANE ROTATION-FLOORPLANE SINGLEdDOUBLEdALTERNATINGcSHAKING
  1D952 aSIGNWRITING TRAVEL-WALLPLANE ARM SPIRAL SINGLEeDOUBLEeTRIPLEbMOVEMENT-DIAGONAL AWAY SMALL
  1D956 aSIGNWRITING MOVEMENT-DIAGONAL AWAY MEDIUMdLARGEdLARGESTcTOWARDS SMALLdMEDIUMdLARGE
  1D95C aSIGNWRITING MOVEMENT-DIAGONAL TOWARDS LARGESTcBETWEEN AWAY SMALLeMEDIUMeLARGEeLARGEST
  1D961 aSIGNWRITING MOVEMENT-DIAGONAL BETWEEN TOWARDS SMALLeMEDIUMeLARGEeLARGEST
  1D965 aSIGNWRITING MOVEMENT-FLOORPLANE SINGLE STRAIGHT SMALLeMEDIUMeLARGEeLARGESTdWRIST FLEX
  1D96A aSIGNWRITING MOVEMENT-FLOORPLANE DOUBLE STRAIGHTdWRIST FLEXdALTERNATINGeWRIST FLEXcCROSS
  1D96F aSIGNWRITING MOVEMENT-FLOORPLANE TRIPLE STRAIGHT MOVEMENTdWRIST FLEXdALTERNATING MOVEMENT
  1D972 aSIGNWRITING MOVEMENT-FLOORPLANE TRIPLE ALTERNATING WRIST FLEXcBENDcCORNER SMALLdMEDIUM
  1D976 aSIGNWRITING MOVEMENT-FLOORPLANE CORNER LARGEcCHECKcBOX SMALLdMEDIUMdLARGEcZIGZAG SMALL
  1D97C aSIGNWRITING MOVEMENT-FLOORPLANE ZIGZAG MEDIUMdLARGEcPEAKS SMALLdMEDIUMdLARGE
  1D981 aSIGNWRITING TRAVEL-FLOORPLANE ROTATION-FLOORPLANE SINGLEdDOUBLEdALTERNATING
  1D984 aSIGNWRITING TRAVEL-FLOORPLANE ROTATION-WALLPLANE SINGLEdDOUBLEdALTERNATINGcSHAKING
  1D988 aSIGNWRITING MOVEMENT-WALLPLANE CURVE QUARTER SMALLeMEDIUMeLARGEeLARGESTdHALF-CIRCLE SMALL
  1D98D aSIGNWRITING MOVEMENT-WALLPLANE CURVE HALF-CIRCLE MEDIUMeLARGEeLARGEST
  1D990 aSIGNWRITING MOVEMENT-WALLPLANE CURVE THREE-QUARTER CIRCLE SMALLfMEDIUMcHUMP SMALLdMEDIUM
  1D994 aSIGNWRITING MOVEMENT-WALLPLANE HUMP LARGEcLOOP SMALLdMEDIUMdLARGEdSMALL DOUBLE
  1D999 aSIGNWRITING MOVEMENT-WALLPLANE WAVE CURVE DOUBLE SMALLfMEDIUMfLARGEeTRIPLE SMALLfMEDIUM
  1D99E aSIGNWRITING MOVEMENT-WALLPLANE WAVE CURVE TRIPLE LARGEcCURVE THEN STRAIGHT
  1D9A0 aSIGNWRITING MOVEMENT-WALLPLANE CURVED CROSS SMALLeMEDIUMbROTATION-WALLPLANE SINGLEcDOUBLE
  1D9A4 aSIGNWRITING ROTATION-WALLPLANE ALTERNATEbMOVEMENT-WALLPLANE SHAKING
  1D9A6 aSIGNWRITING MOVEMENT-WALLPLANE CURVE HITTING FRONT WALLcHUMP HITTING FRONT WALL
  1D9A8 aSIGNWRITING MOVEMENT-WALLPLANE LOOP HITTING FRONT WALLcWAVE HITTING FRONT WALL
  1D9AA aSIGNWRITING ROTATION-WALLPLANE SINGLE HITTING FRONT WALLcDOUBLE HITTING FRONT WALL
  1D9AC aSIGNWRITING ROTATION-WALLPLANE ALTERNATING HITTING FRONT WALL
  1D9AD aSIGNWRITING MOVEMENT-WALLPLANE CURVE HITTING CHESTcHUMP HITTING CHESTcLOOP HITTING CHEST
  1D9B0 aSIGNWRITING MOVEMENT-WALLPLANE WAVE HITTING CHESTbROTATION-WALLPLANE SINGLE HITTING CHEST
  1D9B2 aSIGNWRITING ROTATION-WALLPLANE DOUBLE HITTING CHESTcALTERNATING HITTING CHEST
  1D9B4 aSIGNWRITING MOVEMENT-WALLPLANE WAVE DIAGONAL PATH SMALLfMEDIUMfLARGE
  1D9B7 aSIGNWRITING MOVEMENT-FLOORPLANE CURVE HITTING CEILING SMALLfLARGE
  1D9B9 aSIGNWRITING MOVEMENT-FLOORPLANE HUMP HITTING CEILING SMALL DOUBLEfLARGE DOUBLE
  1D9BB aSIGNWRITING MOVEMENT-FLOORPLANE HUMP HITTING CEILING SMALL TRIPLEfLARGE TRIPLE
  1D9BD aSIGNWRITING MOVEMENT-FLOORPLANE LOOP HITTING CEILING SMALL SINGLEfLARGE SINGLE
  1D9BF aSIGNWRITING MOVEMENT-FLOORPLANE LOOP HITTING CEILING SMALL DOUBLEfLARGE DOUBLE
  1D9C1 aSIGNWRITING MOVEMENT-FLOORPLANE WAVE HITTING CEILING SMALLfLARGE
  1D9C3 aSIGNWRITING ROTATION-FLOORPLANE SINGLE HITTING CEILINGcDOUBLE HITTING CEILING
  1D9C5 aSIGNWRITING ROTATION-FLOORPLANE ALTERNATING HITTING CEILING
  1D9C6 aSIGNWRITING MOVEMENT-FLOORPLANE CURVE HITTING FLOOR SMALLfLARGE
  1D9C8 aSIGNWRITING MOVEMENT-FLOORPLANE HUMP HITTING FLOOR SMALL DOUBLEfLARGE DOUBLE
  1D9CA aSIGNWRITING MOVEMENT-FLOORPLANE HUMP HITTING FLOOR TRIPLE SMALL TRIPLEgLARGE TRIPLE
  1D9CC aSIGNWRITING MOVEMENT-FLOORPLANE LOOP HITTING FLOOR SMALL SINGLEfLARGE SINGLEfSMALL DOUBLE
  1D9CF aSIGNWRITING MOVEMENT-FLOORPLANE LOOP HITTING FLOOR LARGE DOUBLEcWAVE HITTING FLOOR SMALL
  1D9D1 aSIGNWRITING MOVEMENT-FLOORPLANE WAVE HITTING FLOOR LARGE
  1D9D2 aSIGNWRITING ROTATION-FLOORPLANE SINGLE HITTING FLOORcDOUBLE HITTING FLOOR
  1D9D4 aSIGNWRITING ROTATION-FLOORPLANE ALTERNATING HITTING FLOORbMOVEMENT-FLOORPLANE CURVE SMALL
  1D9D6 aSIGNWRITING MOVEMENT-FLOORPLANE CURVE MEDIUMdLARGEdLARGESTdCOMBINEDcHUMP SMALLcLOOP SMALL
  1D9DC aSIGNWRITING MOVEMENT-FLOORPLANE WAVE SNAKEdSMALLdLARGEbROTATION-FLOORPLANE SINGLEcDOUBLE
  1D9E1 aSIGNWRITING ROTATION-FLOORPLANE ALTERNATINGbMOVEMENT-FLOORPLANE SHAKING PARALLEL
  1D9E3 aSIGNWRITING MOVEMENT-WALLPLANE ARM CIRCLE SMALL SINGLEeMEDIUM SINGLEeSMALL DOUBLE
  1D9E6 aSIGNWRITING MOVEMENT-WALLPLANE ARM CIRCLE MEDIUM DOUBLE
  1D9E7 aSIGNWRITING MOVEMENT-FLOORPLANE ARM CIRCLE HITTING WALL SMALL SINGLEgMEDIUM SINGLE
  1D9E9 aSIGNWRITING MOVEMENT-FLOORPLANE ARM CIRCLE HITTING WALL LARGE SINGLEgSMALL DOUBLE
  1D9EB aSIGNWRITING MOVEMENT-FLOORPLANE ARM CIRCLE HITTING WALL MEDIUM DOUBLEgLARGE DOUBLE
  1D9ED aSIGNWRITING MOVEMENT-WALLPLANE WRIST CIRCLE FRONT SINGLEfDOUBLE
  1D9EF aSIGNWRITING MOVEMENT-FLOORPLANE WRIST CIRCLE HITTING WALL SINGLEgDOUBLE
  1D9F1 aSIGNWRITING MOVEMENT-WALLPLANE FINGER CIRCLES SINGLEeDOUBLE
  1D9F3 aSIGNWRITING MOVEMENT-FLOORPLANE FINGER CIRCLES HITTING WALL SINGLEgDOUBLE
  1D9F5 aSIGNWRITING DYNAMIC ARROWHEAD SMALLdLARGEcFASTcSLOWcTENSEcRELAXEDcSIMULTANEOUS
  1D9FC aSIGNWRITING DYNAMIC SIMULTANEOUS ALTERNATINGcEVERY OTHER TIMEcGRADUALbHEADcRIM
  1DA01 aSIGNWRITING HEAD MOVEMENT-WALLPLANE STRAIGHTdTILTcMOVEMENT-FLOORPLANE STRAIGHT
  1DA04 aSIGNWRITING HEAD MOVEMENT-WALLPLANE CURVEcMOVEMENT-FLOORPLANE CURVEcMOVEMENT CIRCLE
  1DA07 aSIGNWRITING FACE DIRECTION POSITION NOSE FORWARD TILTINGfUP OR DOWNiTILTING
  1DA0A aSIGNWRITING EYEBROWS STRAIGHT UPdNEUTRALdDOWNbDREAMY EYEBROWS NEUTRAL DOWNdDOWN NEUTRAL
  1DA0F aSIGNWRITING DREAMY EYEBROWS UP NEUTRALdNEUTRAL UPbFOREHEAD NEUTRALcCONTACTcWRINKLED
  1DA14 aSIGNWRITING EYES OPENcSQUEEZEDcCLOSEDbEYE BLINK SINGLEdMULTIPLEbEYES HALF OPENcWIDE OPEN
  1DA1B aSIGNWRITING EYES HALF CLOSEDcWIDENING MOVEMENTbEYE WINKbEYELASHES UPcDOWNcFLUTTERING
  1DA21 aSIGNWRITING EYEGAZE-WALLPLANE STRAIGHTdDOUBLEdALTERNATINGbEYEGAZE-FLOORPLANE STRAIGHT
  1DA25 aSIGNWRITING EYEGAZE-FLOORPLANE STRAIGHT DOUBLEdALTERNATINGbEYEGAZE-WALLPLANE CURVED
  1DA28 aSIGNWRITING EYEGAZE-FLOORPLANE CURVEDbEYEGAZE-WALLPLANE CIRCLINGbCHEEKS PUFFEDcNEUTRAL
  1DA2C aSIGNWRITING CHEEKS SUCKEDbTENSE CHEEKS HIGHdMIDDLEdLOWbEARSbNOSE NEUTRALcCONTACTcWRINKLES
  1DA34 aSIGNWRITING NOSE WIGGLESbAIR BLOWING OUTcSUCKING INcBLOW SMALL ROTATIONS
  1DA38 aSIGNWRITING AIR SUCK SMALL ROTATIONSbBREATH INHALEcEXHALEbMOUTH CLOSED NEUTRALdFORWARD
  1DA3D aSIGNWRITING MOUTH CLOSED CONTACTcSMILEdWRINKLEDdOPENcFROWNdWRINKLEDdOPENcOPEN CIRCLE
  1DA45 aSIGNWRITING MOUTH OPEN FORWARDdWRINKLEDdOVALeWRINKLEDeYAWNdRECTANGLEeWRINKLEDeYAWNcKISS
  1DA4E aSIGNWRITING MOUTH KISS FORWARDdWRINKLEDcTENSEdFORWARDdSUCKEDbLIPS PRESSED TOGETHER
  1DA54 aSIGNWRITING LIP LOWER OVER UPPERcUPPER OVER LOWERbMOUTH CORNERScWRINKLES SINGLEdDOUBLE
  1DA59 aSIGNWRITING TONGUE STICKING OUT FARcLICKING LIPScTIP BETWEEN LIPSdTOUCHING INSIDE MOUTH
  1DA5D aSIGNWRITING TONGUE INSIDE MOUTH RELAXEDcMOVES AGAINST CHEEKcCENTRE STICKING OUT
  1DA60 aSIGNWRITING TONGUE CENTRE INSIDE MOUTHbTEETHcMOVEMENTcON TONGUEeMOVEMENTdLIPSeMOVEMENT
  1DA67 aSIGNWRITING TEETH BITE LIPSbMOVEMENT-WALLPLANE JAWbMOVEMENT-FLOORPLANE JAWbNECKbHAIR
  1DA6C aSIGNWRITING EXCITEMENTbSHOULDER HIP SPINEdPOSITIONSbWALLPLANE SHOULDER HIP MOVE
  1DA70 aSIGNWRITING FLOORPLANE SHOULDER HIP MOVEbSHOULDER TILTING FROM WAIST
  1DA72 aSIGNWRITING TORSO-WALLPLANE STRAIGHT STRETCHcCURVED BENDbTORSO-FLOORPLANE TWISTING
  1DA75 aSIGNWRITING UPPER BODY TILTING FROM HIP JOINTSbLIMB COMBINATIONcLENGTH-1cLENGTH-2
  1DA79 aSIGNWRITING LIMB LENGTH-3cLENGTH-4cLENGTH-5cLENGTH-6cLENGTH-7bFINGER
  1DA7F aSIGNWRITING LOCATION-WALLPLANE SPACEbLOCATION-FLOORPLANE SPACEbLOCATION HEIGHTcWIDTH
  1DA83 aSIGNWRITING LOCATION DEPTHcHEAD NECKcTORSOcLIMBS DIGITSbCOMMAbFULL STOPbSEMICOLONbCOLON
  1DA8B aSIGNWRITING PARENTHESIS
  1DA9B aSIGNWRITING FILL MODIFIER-2cMODIFIER-3cMODIFIER-4cMODIFIER-5cMODIFIER-6
  1DAA1 aSIGNWRITING ROTATION MODIFIER-2cMODIFIER-3cMODIFIER-4cMODIFIER-5cMODIFIER-6cMODIFIER-7
  1DAA7 aSIGNWRITING ROTATION MODIFIER-8cMODIFIER-9cMODIFIER-10cMODIFIER-11cMODIFIER-12
  1DAAC aSIGNWRITING ROTATION MODIFIER-13cMODIFIER-14cMODIFIER-15cMODIFIER-16
  1DF00 aLATIN SMALL LETTER FENG DIGRAPH WITH TRILLdREVERSED SCRIPT G
  1DF02 aLATIN LETTER SMALL CAPITAL TURNED GbSMALL LETTER REVERSED K
  1DF04 aLATIN LETTER SMALL CAPITAL L WITH BELTbSMALL LETTER LEZH WITH RETROFLEX HOOK
  1DF06 aLATIN SMALL LETTER TURNED Y WITH BELTdREVERSED ENG
  1DF08 aLATIN SMALL LETTER TURNED R WITH LONG LEG AND RETROFLEX HOOK
  1DF09 aLATIN SMALL LETTER T WITH HOOK AND RETROFLEX HOOK
  1DF0A aLATIN LETTER RETROFLEX CLICK WITH RETROFLEX HOOKbSMALL LETTER ESH WITH DOUBLE BAR
  1DF0C aLATIN SMALL LETTER ESH WITH DOUBLE BAR AND CURLdTURNED T WITH CURL
  1DF0E aLATIN LETTER INVERTED GLOTTAL STOP WITH CURLcSTRETCHED C WITH CURLcSMALL CAPITAL TURNED K
  1DF11 aLATIN SMALL LETTER L WITH FISHHOOKdDEZH DIGRAPH WITH PALATAL HOOK
  1DF13 aLATIN SMALL LETTER L WITH BELT AND PALATAL HOOKdENG WITH PALATAL HOOK
  1DF15 aLATIN SMALL LETTER TURNED R WITH PALATAL HOOKdR WITH FISHHOOK AND PALATAL HOOK
  1DF17 aLATIN SMALL LETTER TESH DIGRAPH WITH PALATAL HOOKdEZH WITH PALATAL HOOK
  1DF19 aLATIN SMALL LETTER DEZH DIGRAPH WITH RETROFLEX HOOKdI WITH STROKE AND RETROFLEX HOOK
  1DF1B aLATIN SMALL LETTER O WITH RETROFLEX HOOKdTESH DIGRAPH WITH RETROFLEX HOOK
  1DF1D aLATIN SMALL LETTER C WITH RETROFLEX HOOKdS WITH CURL
  1E000 aCOMBINING GLAGOLITIC LETTER AZUdBUKYdVEDEdGLAGOLIdDOBROdYESTUdZHIVETE
  1E008 aCOMBINING GLAGOLITIC LETTER ZEMLJAdIZHEdINITIAL IZHEdIdDJERVIdKAKOdLJUDIJEdMYSLITEdNASHI
  1E011 aCOMBINING GLAGOLITIC LETTER ONUdPOKOJIdRITSIdSLOVOdTVRIDOdUKUdFRITUdHERU
  1E01B aCOMBINING GLAGOLITIC LETTER SHTAdTSIdCHRIVIdSHAdYERUdYERIdYATI
  1E023 aCOMBINING GLAGOLITIC LETTER YUdSMALL YUS
  1E026 aCOMBINING GLAGOLITIC LETTER YOdIOTATED SMALL YUSdBIG YUSdIOTATED BIG YUSdFITA
  1E100 aNYIAKENG PUACHUE HMONG LETTER MAeTSAeNTAeTAeHAeNAeXAeNKAeCAeLAeSAeZAeNCAeNTSAeKAeDAeNYA
  1E111 aNYIAKENG PUACHUE HMONG LETTER NRAeVAeNTXAeTXAeFAeRAeQAeYAeNQAePAeXYAeNPAeDLAeNPLAeHAHeMLA
  1E121 aNYIAKENG PUACHUE HMONG LETTER PLAeGAeRRAeAeAAeIeUeOeOOeEeEEeW
  1E130 aNYIAKENG PUACHUE HMONG TONE-BdTONE-MdTONE-JdTONE-VdTONE-SdTONE-GdTONE-DdSIGN FOR PERSON
  1E138 aNYIAKENG PUACHUE HMONG SIGN FOR THINGfLOCATIONfANIMALfINVERTEBRATEeXW XW
  1E13D aNYIAKENG PUACHUE HMONG SYLLABLE LENGTHENER
  1E140 aNYIAKENG PUACHUE HMONG DIGIT ZEROeONEeTWOeTHREEeFOUReFIVEeSIXeSEVENeEIGHTeNINE
  1E14E aNYIAKENG PUACHUE HMONG LOGOGRAM NYAJdCIRCLED CA
  1E290 aTOTO LETTER PAcBAcTAcDAcKAcGAcMAcNAcNGAcSAcCHAcYAcWAcJAcHAcRAcLAcIcBREATHY IcIU
  1E2A4 aTOTO LETTER BREATHY IUcUcEcBREATHY EcEOcBREATHY EOcOcAEcBREATHY AEcAbSIGN RISING TONE
  1E2C0 aWANCHO LETTER AAcAcBAcCAcDAcGAcYAcPHAcLAcNAcPAcTAcTHAcFAcSAcSHAcJAcZAcWAcVAcKAcOcAUcRAcMA
  1E2D9 aWANCHO LETTER KHAcHAcEcIcNGAcUcLLHAcTSAcTRAcONGcAANGcANGcINGcONcENcAANcNYAcUENcYIH
  1E2EC aWANCHO TONE TUPcTUPNIcKOIcKOINIbDIGIT ZEROcONEcTWOcTHREEcFOURcFIVEcSIXcSEVENcEIGHTcNINE
  1E2FF aWANCHO NGUN SIGN
  1E7E0 aETHIOPIC SYLLABLE HHYAcHHYUcHHYIcHHYAAcHHYEEcHHYEcHHYO
  1E7E8 aETHIOPIC SYLLABLE GURAGE HHWAcHHWIcHHWEEcHHWE
  1E7ED aETHIOPIC SYLLABLE GURAGE MWIdMWEE
  1E7F0 aETHIOPIC SYLLABLE GURAGE QWIdQWEEdQWEdBWIdBWEEdKWIdKWEEdKWEdGWIdGWEEdGWEdFWIdFWEEdPWI
  1E7FE aETHIOPIC SYLLABLE GURAGE PWEE
  1E800 aMENDE KIKAKUI SYLLABLE M001 KIdM002 KAdM003 KUdM065 KEEdM095 KEdM076 KOOdM048 KOdM179 KUA
  1E808 aMENDE KIKAKUI SYLLABLE M004 WIdM005 WAdM006 WUdM126 WEEdM118 WEdM114 WOOdM045 WOdM194 WUI
  1E810 aMENDE KIKAKUI SYLLABLE M143 WEIdM061 WVIdM049 WVAdM139 WVEdM007 MINdM008 MANdM009 MUN
  1E817 aMENDE KIKAKUI SYLLABLE M059 MENdM094 MONdM154 MUANdM189 MUENdM010 BIdM011 BAdM012 BU
  1E81E aMENDE KIKAKUI SYLLABLE M150 BEEdM097 BEdM103 BOOdM138 BOdM013 IdM014 AdM015 UdM163 EE
  1E826 aMENDE KIKAKUI SYLLABLE M100 EdM165 OOdM147 OdM137 EIdM131 INdM135 INdM195 ANdM178 EN
  1E82E aMENDE KIKAKUI SYLLABLE M019 SIdM020 SAdM021 SUdM162 SEEdM116 SEdM136 SOOdM079 SOdM196 SIA
  1E836 aMENDE KIKAKUI SYLLABLE M025 LIdM026 LAdM027 LUdM084 LEEdM073 LEdM054 LOOdM153 LO
  1E83D aMENDE KIKAKUI SYLLABLE M110 LONG LEdM016 DIdM017 DAdM018 DUdM089 DEEdM180 DOOdM181 DO
  1E844 aMENDE KIKAKUI SYLLABLE M022 TIdM023 TAdM024 TUdM091 TEEdM055 TEdM104 TOOdM069 TOdM028 JI
  1E84C aMENDE KIKAKUI SYLLABLE M029 JAdM030 JUdM157 JEEdM113 JEdM160 JOOdM063 JOdM175 LONG JO
  1E853 aMENDE KIKAKUI SYLLABLE M031 YIdM032 YAdM033 YUdM109 YEEdM080 YEdM141 YOOdM121 YOdM034 FI
  1E85B aMENDE KIKAKUI SYLLABLE M035 FAdM036 FUdM078 FEEdM075 FEdM133 FOOdM088 FOdM197 FUA
  1E862 aMENDE KIKAKUI SYLLABLE M101 FANdM037 NINdM038 NANdM039 NUNdM117 NENdM169 NONdM176 HI
  1E869 aMENDE KIKAKUI SYLLABLE M041 HAdM186 HUdM040 HEEdM096 HEdM042 HOOdM140 HOdM083 HEEI
  1E870 aMENDE KIKAKUI SYLLABLE M128 HOOUdM053 HINdM130 HANdM087 HUNdM052 HENdM193 HONdM046 HUAN
  1E877 aMENDE KIKAKUI SYLLABLE M090 NGGIdM043 NGGAdM082 NGGUdM115 NGGEEdM146 NGGEdM156 NGGOO
  1E87D aMENDE KIKAKUI SYLLABLE M120 NGGOdM159 NGGAAdM127 NGGUAdM086 LONG NGGEdM106 LONG NGGOO
  1E882 aMENDE KIKAKUI SYLLABLE M183 LONG NGGOdM155 GIdM111 GAdM168 GUdM190 GEEdM166 GUEI
  1E888 aMENDE KIKAKUI SYLLABLE M167 GUANdM184 NGENdM057 NGONdM177 NGUANdM068 PIdM099 PAdM050 PU
  1E88F aMENDE KIKAKUI SYLLABLE M081 PEEdM051 PEdM102 POOdM066 POdM145 MBIdM062 MBAdM122 MBU
  1E896 aMENDE KIKAKUI SYLLABLE M047 MBEEdM188 MBEEdM072 MBEdM172 MBOOdM174 MBOdM187 MBUU
  1E89C aMENDE KIKAKUI SYLLABLE M161 LONG MBEdM105 LONG MBOOdM142 LONG MBOdM132 KPIdM092 KPA
  1E8A1 aMENDE KIKAKUI SYLLABLE M074 KPUdM044 KPEEdM108 KPEdM112 KPOOdM158 KPOdM124 GBIdM056 GBA
  1E8A8 aMENDE KIKAKUI SYLLABLE M148 GBUdM093 GBEEdM107 GBEdM071 GBOOdM070 GBOdM171 RAdM123 NDI
  1E8AF aMENDE KIKAKUI SYLLABLE M129 NDAdM125 NDUdM191 NDEEdM119 NDEdM067 NDOOdM064 NDOdM152 NJA
  1E8B6 aMENDE KIKAKUI SYLLABLE M192 NJUdM149 NJEEdM134 NJOOdM182 VIdM185 VAdM151 VUdM173 VEE
  1E8BD aMENDE KIKAKUI SYLLABLE M085 VEdM144 VOOdM077 VOdM164 NYINdM058 NYANdM170 NYUNdM098 NYEN
  1E8C4 aMENDE KIKAKUI SYLLABLE M060 NYON
  1E8C7 aMENDE KIKAKUI DIGIT ONEdTWOdTHREEdFOURdFIVEdSIXdSEVENdEIGHTdNINEcCOMBINING NUMBER TEENS
  1E8D1 aMENDE KIKAKUI COMBINING NUMBER TENSeHUNDREDSeTHOUSANDSeTEN THOUSANDSeHUNDRED THOUSANDS
  1E8D6 aMENDE KIKAKUI COMBINING NUMBER MILLIONS
  1E900 aADLAM CAPITAL LETTER ALIFdDAALIdLAAMdMIIMdBAdSINNYIIYHEdPEdBHEdRAdEdFAdIdOdDHAdYHEdWAW
  1E910 aADLAM CAPITAL LETTER NUNdKAFdYAdUdJIIMdCHIdHAdQAAFdGAdNYAdTUdNHAdVAdKHAdGBEdZALdKPOdSHA
  1E922 aADLAM SMALL LETTER ALIFdDAALIdLAAMdMIIMdBAdSINNYIIYHEdPEdBHEdRAdEdFAdIdOdDHAdYHEdWAWdNUN
  1E933 aADLAM SMALL LETTER KAFdYAdUdJIIMdCHIdHAdQAAFdGAdNYAdTUdNHAdVAdKHAdGBEdZALdKPOdSHA
  1E944 aADLAM ALIF LENGTHENERbVOWEL LENGTHENERbGEMINATION MARKbHAMZAbCONSONANT MODIFIER
  1E949 aADLAM GEMINATE CONSONANT MODIFIERbNUKTAbNASALIZATION MARK
  1E950 aADLAM DIGIT ZEROcONEcTWOcTHREEcFOURcFIVEcSIXcSEVENcEIGHTcNINE
  1E95E aADLAM INITIAL EXCLAMATION MARKcQUESTION MARK
  1EC71 aINDIC SIYAQ NUMBER ONEdTWOdTHREEdFOURdFIVEdSIXdSEVENdEIGHTdNINEdTENdTWENTYdTHIRTYdFORTY
  1EC7E aINDIC SIYAQ NUMBER FIFTYdSIXTYdSEVENTYdEIGHTYdNINETYdONE HUNDREDdTWO HUNDRED
  1EC85 aINDIC SIYAQ NUMBER THREE HUNDREDdFOUR HUNDREDdFIVE HUNDREDdSIX HUNDREDdSEVEN HUNDRED
  1EC8A aINDIC SIYAQ NUMBER EIGHT HUNDREDdNINE HUNDREDdONE THOUSANDdTWO THOUSANDdTHREE THOUSAND
  1EC8F aINDIC SIYAQ NUMBER FOUR THOUSANDdFIVE THOUSANDdSIX THOUSANDdSEVEN THOUSANDdEIGHT THOUSAND
  1EC94 aINDIC SIYAQ NUMBER NINE THOUSANDdTEN THOUSANDdTWENTY THOUSANDdTHIRTY THOUSAND
  1EC98 aINDIC SIYAQ NUMBER FORTY THOUSANDdFIFTY THOUSANDdSIXTY THOUSANDdSEVENTY THOUSAND
  1EC9C aINDIC SIYAQ NUMBER EIGHTY THOUSANDdNINETY THOUSANDdLAKHdLAKHANcLAKH MARKcNUMBER KAROR
  1ECA2 aINDIC SIYAQ NUMBER KARORANdPREFIXED ONEeTWOeTHREEeFOUReFIVEeSIXeSEVENeEIGHTeNINE
  1ECAC aINDIC SIYAQ PLACEHOLDERcFRACTION ONE QUARTEReHALFdTHREE QUARTERScRUPEE MARK
  1ECB1 aINDIC SIYAQ NUMBER ALTERNATE ONEeTWOeTEN THOUSANDcALTERNATE LAKH MARK
  1ED01 aOTTOMAN SIYAQ NUMBER ONEdTWOdTHREEdFOURdFIVEdSIXdSEVENdEIGHTdNINEdTENdTWENTYdTHIRTYdFORTY
  1ED0E aOTTOMAN SIYAQ NUMBER FIFTYdSIXTYdSEVENTYdEIGHTYdNINETYdONE HUNDREDdTWO HUNDRED
  1ED15 aOTTOMAN SIYAQ NUMBER THREE HUNDREDdFOUR HUNDREDdFIVE HUNDREDdSIX HUNDREDdSEVEN HUNDRED
  1ED1A aOTTOMAN SIYAQ NUMBER EIGHT HUNDREDdNINE HUNDREDdONE THOUSANDdTWO THOUSANDdTHREE THOUSAND
  1ED1F aOTTOMAN SIYAQ NUMBER FOUR THOUSANDdFIVE THOUSANDdSIX THOUSANDdSEVEN THOUSAND
  1ED23 aOTTOMAN SIYAQ NUMBER EIGHT THOUSANDdNINE THOUSANDdTEN THOUSANDdTWENTY THOUSAND
  1ED27 aOTTOMAN SIYAQ NUMBER THIRTY THOUSANDdFORTY THOUSANDdFIFTY THOUSANDdSIXTY THOUSAND
  1ED2B aOTTOMAN SIYAQ NUMBER SEVENTY THOUSANDdEIGHTY THOUSANDdNINETY THOUSANDcMARRATAN
  1ED2F aOTTOMAN SIYAQ ALTERNATE NUMBER TWOeTHREEeFOUReFIVEeSIXeSEVENeEIGHTeNINEeTENeFOUR HUNDRED
  1ED39 aOTTOMAN SIYAQ ALTERNATE NUMBER SIX HUNDREDeTWO THOUSANDeTEN THOUSANDcFRACTION ONE HALF
  1ED3D aOTTOMAN SIYAQ FRACTION ONE SIXTH
  1EE00 aARABIC MATHEMATICAL ALEFcBEHcJEEMcDAL
  1EE05 aARABIC MATHEMATICAL WAWcZAINcHAHcTAHcYEHcKAFcLAMcMEEMcNOONcSEENcAINcFEHcSADcQAFcREHcSHEEN
  1EE15 aARABIC MATHEMATICAL TEHcTHEHcKHAHcTHALcDADcZAHcGHAINcDOTLESS BEHdNOONdFEHdQAF
  1EE21 aARABIC MATHEMATICAL INITIAL BEHdJEEM
  1EE24 aARABIC MATHEMATICAL INITIAL HEH
  1EE27 aARABIC MATHEMATICAL INITIAL HAH
  1EE29 aARABIC MATHEMATICAL INITIAL YEHdKAFdLAMdMEEMdNOONdSEENdAINdFEHdSADdQAF
  1EE34 aARABIC MATHEMATICAL INITIAL SHEENdTEHdTHEHdKHAH
  1EE39 aARABIC MATHEMATICAL INITIAL DAD
  1EE3B aARABIC MATHEMATICAL INITIAL GHAIN
  1EE42 aARABIC MATHEMATICAL TAILED JEEM
  1EE47 aARABIC MATHEMATICAL TAILED HAH
  1EE49 aARABIC MATHEMATICAL TAILED YEH
  1EE4B aARABIC MATHEMATICAL TAILED LAM
  1EE4D aARABIC MATHEMATICAL TAILED NOONdSEENdAIN
  1EE51 aARABIC MATHEMATICAL TAILED SADdQAF
  1EE54 aARABIC MATHEMATICAL TAILED SHEEN
  1EE57 aARABIC MATHEMATICAL TAILED KHAH
  1EE59 aARABIC MATHEMATICAL TAILED DAD
  1EE5B aARABIC MATHEMATICAL TAILED GHAIN
  1EE5D aARABIC MATHEMATICAL TAILED DOTLESS NOON
  1EE5F aARABIC MATHEMATICAL TAILED DOTLESS QAF
  1EE61 aARABIC MATHEMATICAL STRETCHED BEHdJEEM
  1EE64 aARABIC MATHEMATICAL STRETCHED HEH
  1EE67 aARABIC MATHEMATICAL STRETCHED HAHdTAHdYEHdKAF
  1EE6C aARABIC MATHEMATICAL STRETCHED MEEMdNOONdSEENdAINdFEHdSADdQAF
  1EE74 aARABIC MATHEMATICAL STRETCHED SHEENdTEHdTHEHdKHAH
  1EE79 aARABIC MATHEMATICAL STRETCHED DADdZAHdGHAINdDOTLESS BEH
  1EE7E aARABIC MATHEMATICAL STRETCHED DOTLESS FEH
  1EE80 aARABIC MATHEMATICAL LOOPED ALEFdBEHdJEEMdDALdHEHdWAWdZAINdHAHdTAHdYEH
  1EE8B aARABIC MATHEMATICAL LOOPED LAMdMEEMdNOONdSEENdAINdFEHdSADdQAFdREHdSHEENdTEHdTHEHdKHAH
  1EE98 aARABIC MATHEMATICAL LOOPED THALdDADdZAHdGHAIN
  1EEA1 aARABIC MATHEMATICAL DOUBLE-STRUCK BEHdJEEMdDAL
  1EEA5 aARABIC MATHEMATICAL DOUBLE-STRUCK WAWdZAINdHAHdTAHdYEH
  1EEAB aARABIC MATHEMATICAL DOUBLE-STRUCK LAMdMEEMdNOONdSEENdAINdFEHdSADdQAFdREHdSHEENdTEHdTHEH
  1EEB7 aARABIC MATHEMATICAL DOUBLE-STRUCK KHAHdTHALdDADdZAHdGHAIN
  1EEF0 aARABIC MATHEMATICAL OPERATOR MEEM WITH HAH WITH TATWEELdHAH WITH DAL
  1F000 aMAHJONG TILE EAST WINDcSOUTH WINDcWEST WINDcNORTH WINDcRED DRAGONcGREEN DRAGON
  1F006 aMAHJONG TILE WHITE DRAGONcONE OF CHARACTERScTWO OF CHARACTERScTHREE OF CHARACTERS
  1F00A aMAHJONG TILE FOUR OF CHARACTERScFIVE OF CHARACTERScSIX OF CHARACTERScSEVEN OF CHARACTERS
  1F00E aMAHJONG TILE EIGHT OF CHARACTERScNINE OF CHARACTERScONE OF BAMBOOScTWO OF BAMBOOS
  1F012 aMAHJONG TILE THREE OF BAMBOOScFOUR OF BAMBOOScFIVE OF BAMBOOScSIX OF BAMBOOS
  1F016 aMAHJONG TILE SEVEN OF BAMBOOScEIGHT OF BAMBOOScNINE OF BAMBOOScONE OF CIRCLES
  1F01A aMAHJONG TILE TWO OF CIRCLEScTHREE OF CIRCLEScFOUR OF CIRCLEScFIVE OF CIRCLES
  1F01E aMAHJONG TILE SIX OF CIRCLEScSEVEN OF CIRCLEScEIGHT OF CIRCLEScNINE OF CIRCLEScPLUMcORCHID
  1F024 aMAHJONG TILE BAMBOOcCHRYSANTHEMUMcSPRINGcSUMMERcAUTUMNcWINTERcJOKERcBACK
  1F030 aDOMINO TILE HORIZONTAL BACKcHORIZONTAL-00-00cHORIZONTAL-00-01cHORIZONTAL-00-02
  1F034 aDOMINO TILE HORIZONTAL-00-03cHORIZONTAL-00-04cHORIZONTAL-00-05cHORIZONTAL-00-06
  1F038 aDOMINO TILE HORIZONTAL-01-00cHORIZONTAL-01-01cHORIZONTAL-01-02cHORIZONTAL-01-03
  1F03C aDOMINO TILE HORIZONTAL-01-04cHORIZONTAL-01-05cHORIZONTAL-01-06cHORIZONTAL-02-00
  1F040 aDOMINO TILE HORIZONTAL-02-01cHORIZONTAL-02-02cHORIZONTAL-02-03cHORIZONTAL-02-04
  1F044 aDOMINO TILE HORIZONTAL-02-05cHORIZONTAL-02-06cHORIZONTAL-03-00cHORIZONTAL-03-01
  1F048 aDOMINO TILE HORIZONTAL-03-02cHORIZONTAL-03-03cHORIZONTAL-03-04cHORIZONTAL-03-05
  1F04C aDOMINO TILE HORIZONTAL-03-06cHORIZONTAL-04-00cHORIZONTAL-04-01cHORIZONTAL-04-02
  1F050 aDOMINO TILE HORIZONTAL-04-03cHORIZONTAL-04-04cHORIZONTAL-04-05cHORIZONTAL-04-06
  1F054 aDOMINO TILE HORIZONTAL-05-00cHORIZONTAL-05-01cHORIZONTAL-05-02cHORIZONTAL-05-03
  1F058 aDOMINO TILE HORIZONTAL-05-04cHORIZONTAL-05-05cHORIZONTAL-05-06cHORIZONTAL-06-00
  1F05C aDOMINO TILE HORIZONTAL-06-01cHORIZONTAL-06-02cHORIZONTAL-06-03cHORIZONTAL-06-04
  1F060 aDOMINO TILE HORIZONTAL-06-05cHORIZONTAL-06-06cVERTICAL BACKcVERTICAL-00-00cVERTICAL-00-01
  1F065 aDOMINO TILE VERTICAL-00-02cVERTICAL-00-03cVERTICAL-00-04cVERTICAL-00-05cVERTICAL-00-06
  1F06A aDOMINO TILE VERTICAL-01-00cVERTICAL-01-01cVERTICAL-01-02cVERTICAL-01-03cVERTICAL-01-04
  1F06F aDOMINO TILE VERTICAL-01-05cVERTICAL-01-06cVERTICAL-02-00cVERTICAL-02-01cVERTICAL-02-02
  1F074 aDOMINO TILE VERTICAL-02-03cVERTICAL-02-04cVERTICAL-02-05cVERTICAL-02-06cVERTICAL-03-00
  1F079 aDOMINO TILE VERTICAL-03-01cVERTICAL-03-02cVERTICAL-03-03cVERTICAL-03-04cVERTICAL-03-05
  1F07E aDOMINO TILE VERTICAL-03-06cVERTICAL-04-00cVERTICAL-04-01cVERTICAL-04-02cVERTICAL-04-03
  1F083 aDOMINO TILE VERTICAL-04-04cVERTICAL-04-05cVERTICAL-04-06cVERTICAL-05-00cVERTICAL-05-01
  1F088 aDOMINO TILE VERTICAL-05-02cVERTICAL-05-03cVERTICAL-05-04cVERTICAL-05-05cVERTICAL-05-06
  1F08D aDOMINO TILE VERTICAL-06-00cVERTICAL-06-01cVERTICAL-06-02cVERTICAL-06-03cVERTICAL-06-04
  1F092 aDOMINO TILE VERTICAL-06-05cVERTICAL-06-06
  1F0A0 aPLAYING CARD BACKcACE OF SPADEScTWO OF SPADEScTHREE OF SPADEScFOUR OF SPADES
  1F0A5 aPLAYING CARD FIVE OF SPADEScSIX OF SPADEScSEVEN OF SPADEScEIGHT OF SPADEScNINE OF SPADES
  1F0AA aPLAYING CARD TEN OF SPADEScJACK OF SPADEScKNIGHT OF SPADEScQUEEN OF SPADEScKING OF SPADES
  1F0B1 aPLAYING CARD ACE OF HEARTScTWO OF HEARTScTHREE OF HEARTScFOUR OF HEARTScFIVE OF HEARTS
  1F0B6 aPLAYING CARD SIX OF HEARTScSEVEN OF HEARTScEIGHT OF HEARTScNINE OF HEARTScTEN OF HEARTS
  1F0BB aPLAYING CARD JACK OF HEARTScKNIGHT OF HEARTScQUEEN OF HEARTScKING OF HEARTScRED JOKER
  1F0C1 aPLAYING CARD ACE OF DIAMONDScTWO OF DIAMONDScTHREE OF DIAMONDScFOUR OF DIAMONDS
  1F0C5 aPLAYING CARD FIVE OF DIAMONDScSIX OF DIAMONDScSEVEN OF DIAMONDScEIGHT OF DIAMONDS
  1F0C9 aPLAYING CARD NINE OF DIAMONDScTEN OF DIAMONDScJACK OF DIAMONDScKNIGHT OF DIAMONDS
  1F0CD aPLAYING CARD QUEEN OF DIAMONDScKING OF DIAMONDScBLACK JOKER
  1F0D1 aPLAYING CARD ACE OF CLUBScTWO OF CLUBScTHREE OF CLUBScFOUR OF CLUBScFIVE OF CLUBS
  1F0D6 aPLAYING CARD SIX OF CLUBScSEVEN OF CLUBScEIGHT OF CLUBScNINE OF CLUBScTEN OF CLUBS
  1F0DB aPLAYING CARD JACK OF CLUBScKNIGHT OF CLUBScQUEEN OF CLUBScKING OF CLUBScWHITE JOKERcFOOL
  1F0E1 aPLAYING CARD TRUMP-1cTRUMP-2cTRUMP-3cTRUMP-4cTRUMP-5cTRUMP-6cTRUMP-7cTRUMP-8cTRUMP-9
  1F0EA aPLAYING CARD TRUMP-10cTRUMP-11cTRUMP-12cTRUMP-13cTRUMP-14cTRUMP-15cTRUMP-16cTRUMP-17
  1F0F2 aPLAYING CARD TRUMP-18cTRUMP-19cTRUMP-20cTRUMP-21
  1F100 aDIGIT ZERO FULL STOPcCOMMAbONE COMMAbTWO COMMAbTHREE COMMAbFOUR COMMAbFIVE COMMA
  1F107 aDIGIT SIX COMMAbSEVEN COMMAbEIGHT COMMAbNINE COMMAaDINGBAT CIRCLED SANS-SERIF DIGIT ZERO
  1F10C aDINGBAT NEGATIVE CIRCLED SANS-SERIF DIGIT ZEROaCIRCLED ZERO WITH SLASH
  1F10E aCIRCLED ANTICLOCKWISE ARROWbDOLLAR SIGN WITH OVERLAID BACKSLASH
  1F110 aPARENTHESIZED LATIN CAPITAL LETTER AeBeCeDeEeFeGeHeIeJeKeLeMeNeOePeQeReSeTeUeVeWeXeYeZ
  1F12A aTORTOISE SHELL BRACKETED LATIN CAPITAL LETTER SaCIRCLED ITALIC LATIN CAPITAL LETTER CfR
  1F12D aCIRCLED CDbWZaCOPYLEFT SYMBOLaSQUARED LATIN CAPITAL LETTER AeBeCeDeEeFeGeHeIeJeKeLeMeNeO
  1F13F aSQUARED LATIN CAPITAL LETTER PeQeReSeTeUeVeWeXeYeZbHVbMVbSDbSSbPPVbWC
  1F150 aNEGATIVE CIRCLED LATIN CAPITAL LETTER AfBfCfDfEfFfGfHfIfJfKfLfMfNfOfPfQfRfSfTfUfVfWfXfYfZ
  1F16A aRAISED MC SIGNbMD SIGNbMR SIGNaCIRCLED CCbC WITH OVERLAID BACKSLASHbHUMAN FIGURE
  1F170 aNEGATIVE SQUARED LATIN CAPITAL LETTER AfBfCfDfEfFfGfHfIfJfKfLfMfNfOfPfQfRfSfTfUfVfWfXfYfZ
  1F18A aCROSSED NEGATIVE SQUARED LATIN CAPITAL LETTER PaNEGATIVE SQUARED ICcPAcSAcABcWCaSQUARE DJ
  1F191 aSQUARED CLbCOOLbFREEbIDbNEWbNGbOKbSOSbUP WITH EXCLAMATION MARKbVSbTHREE DbSECOND SCREEN
  1F19D aSQUARED TWO KbFOUR KbEIGHT KbFIVE POINT ONEbSEVEN POINT ONEbTWENTY-TWO POINT TWObSIXTY P
  1F1A4 aSQUARED ONE HUNDRED TWENTY PbLATIN SMALL LETTER DbHCbHDRbHI-RESbLOSSLESSbSHVbUHDbVOD
  1F1AD aMASK WORK SYMBOL
  1F1E6 aREGIONAL INDICATOR SYMBOL LETTER AeBeCeDeEeFeGeHeIeJeKeLeMeNeOePeQeReSeTeUeVeWeXeYeZ
  1F200 aSQUARE HIRAGANA HOKAaSQUARED KATAKANA KOKOcSA
  1F210 aSQUARED CJK UNIFIED IDEOGRAPH-624BdIDEOGRAPH-5B57dIDEOGRAPH-53CCbKATAKANA DE
  1F214 aSQUARED CJK UNIFIED IDEOGRAPH-4E8CdIDEOGRAPH-591AdIDEOGRAPH-89E3dIDEOGRAPH-5929
  1F218 aSQUARED CJK UNIFIED IDEOGRAPH-4EA4dIDEOGRAPH-6620dIDEOGRAPH-7121dIDEOGRAPH-6599
  1F21C aSQUARED CJK UNIFIED IDEOGRAPH-524DdIDEOGRAPH-5F8CdIDEOGRAPH-518DdIDEOGRAPH-65B0
  1F220 aSQUARED CJK UNIFIED IDEOGRAPH-521DdIDEOGRAPH-7D42dIDEOGRAPH-751FdIDEOGRAPH-8CA9
  1F224 aSQUARED CJK UNIFIED IDEOGRAPH-58F0dIDEOGRAPH-5439dIDEOGRAPH-6F14dIDEOGRAPH-6295
  1F228 aSQUARED CJK UNIFIED IDEOGRAPH-6355dIDEOGRAPH-4E00dIDEOGRAPH-4E09dIDEOGRAPH-904A
  1F22C aSQUARED CJK UNIFIED IDEOGRAPH-5DE6dIDEOGRAPH-4E2DdIDEOGRAPH-53F3dIDEOGRAPH-6307
  1F230 aSQUARED CJK UNIFIED IDEOGRAPH-8D70dIDEOGRAPH-6253dIDEOGRAPH-7981dIDEOGRAPH-7A7A
  1F234 aSQUARED CJK UNIFIED IDEOGRAPH-5408dIDEOGRAPH-6E80dIDEOGRAPH-6709dIDEOGRAPH-6708
  1F238 aSQUARED CJK UNIFIED IDEOGRAPH-7533dIDEOGRAPH-5272dIDEOGRAPH-55B6dIDEOGRAPH-914D
  1F240 aTORTOISE SHELL BRACKETED CJK UNIFIED IDEOGRAPH-672CfIDEOGRAPH-4E09fIDEOGRAPH-4E8C
  1F243 aTORTOISE SHELL BRACKETED CJK UNIFIED IDEOGRAPH-5B89fIDEOGRAPH-70B9fIDEOGRAPH-6253
  1F246 aTORTOISE SHELL BRACKETED CJK UNIFIED IDEOGRAPH-76D7fIDEOGRAPH-52DDfIDEOGRAPH-6557
  1F250 aCIRCLED IDEOGRAPH ADVANTAGEcACCEPT
  1F260 aROUNDED SYMBOL FOR FUdLUdSHOUdXIdSHUANGXIdCAI
  1F300 aCYCLONEaFOGGYaCLOSED UMBRELLAaNIGHT WITH STARSaSUNRISE OVER MOUNTAINSaSUNRISE
  1F306 aCITYSCAPE AT DUSKaSUNSET OVER BUILDINGSaRAINBOWaBRIDGE AT NIGHTaWATER WAVEaVOLCANO
  1F30C aMILKY WAYaEARTH GLOBE EUROPE-AFRICAcAMERICAScASIA-AUSTRALIAaGLOBE WITH MERIDIANS
  1F311 aNEW MOON SYMBOLaWAXING CRESCENT MOON SYMBOLaFIRST QUARTER MOON SYMBOL
  1F314 aWAXING GIBBOUS MOON SYMBOLaFULL MOON SYMBOLaWANING GIBBOUS MOON SYMBOL
  1F317 aLAST QUARTER MOON SYMBOLaWANING CRESCENT MOON SYMBOLaCRESCENT MOONaNEW MOON WITH FACE
  1F31B aFIRST QUARTER MOON WITH FACEaLAST QUARTER MOON WITH FACEaFULL MOON WITH FACE
  1F31E aSUN WITH FACEaGLOWING STARaSHOOTING STARaTHERMOMETERaBLACK DROPLETaWHITE SUN
  1F324 aWHITE SUN WITH SMALL CLOUDcBEHIND CLOUDeWITH RAINaCLOUD WITH RAINcSNOWcLIGHTNINGcTORNADO
  1F32B aFOGaWIND BLOWING FACEaHOT DOGaTACOaBURRITOaCHESTNUTaSEEDLINGaEVERGREEN TREE
  1F333 aDECIDUOUS TREEaPALM TREEaCACTUSaHOT PEPPERaTULIPaCHERRY BLOSSOMaROSEaHIBISCUSaSUNFLOWER
  1F33C aBLOSSOMaEAR OF MAIZEcRICEaHERBaFOUR LEAF CLOVERaMAPLE LEAFaFALLEN LEAF
  1F343 aLEAF FLUTTERING IN WINDaMUSHROOMaTOMATOaAUBERGINEaGRAPESaMELONaWATERMELONaTANGERINEaLEMON
  1F34C aBANANAaPINEAPPLEaRED APPLEaGREEN APPLEaPEARaPEACHaCHERRIESaSTRAWBERRYaHAMBURGER
  1F355 aSLICE OF PIZZAaMEAT ON BONEaPOULTRY LEGaRICE CRACKERbBALLaCOOKED RICEaCURRY AND RICE
  1F35C aSTEAMING BOWLaSPAGHETTIaBREADaFRENCH FRIESaROASTED SWEET POTATOaDANGOaODENaSUSHI
  1F364 aFRIED SHRIMPaFISH CAKE WITH SWIRL DESIGNaSOFT ICE CREAMaSHAVED ICEaICE CREAMaDOUGHNUT
  1F36A aCOOKIEaCHOCOLATE BARaCANDYaLOLLIPOPaCUSTARDaHONEY POTaSHORTCAKEaBENTO BOXaPOT OF FOOD
  1F373 aCOOKINGaFORK AND KNIFEaTEACUP WITHOUT HANDLEaSAKE BOTTLE AND CUPaWINE GLASS
  1F378 aCOCKTAIL GLASSaTROPICAL DRINKaBEER MUGaCLINKING BEER MUGSaBABY BOTTLE
  1F37D aFORK AND KNIFE WITH PLATEaBOTTLE WITH POPPING CORKaPOPCORNaRIBBONaWRAPPED PRESENT
  1F382 aBIRTHDAY CAKEaJACK-O-LANTERNaCHRISTMAS TREEaFATHER CHRISTMASaFIREWORKSaFIREWORK SPARKLER
  1F388 aBALLOONaPARTY POPPERaCONFETTI BALLaTANABATA TREEaCROSSED FLAGSaPINE DECORATION
  1F38E aJAPANESE DOLLSaCARP STREAMERaWIND CHIMEaMOON VIEWING CEREMONYaSCHOOL SATCHEL
  1F393 aGRADUATION CAPaHEART WITH TIP ON THE LEFTaBOUQUET OF FLOWERSaMILITARY MEDAL
  1F397 aREMINDER RIBBONaMUSICAL KEYBOARD WITH JACKSaSTUDIO MICROPHONEaLEVEL SLIDERaCONTROL KNOBS
  1F39C aBEAMED ASCENDING MUSICAL NOTESbDESCENDING MUSICAL NOTESaFILM FRAMESaADMISSION TICKETS
  1F3A0 aCAROUSEL HORSEaFERRIS WHEELaROLLER COASTERaFISHING POLE AND FISHaMICROPHONEaMOVIE CAMERA
  1F3A6 aCINEMAaHEADPHONEaARTIST PALETTEaTOP HATaCIRCUS TENTaTICKETaCLAPPER BOARDaPERFORMING ARTS
  1F3AE aVIDEO GAMEaDIRECT HITaSLOT MACHINEaBILLIARDSaGAME DIEaBOWLINGaFLOWER PLAYING CARDS
  1F3B5 aMUSICAL NOTEaMULTIPLE MUSICAL NOTESaSAXOPHONEaGUITARaMUSICAL KEYBOARDaTRUMPETaVIOLIN
  1F3BC aMUSICAL SCOREaRUNNING SHIRT WITH SASHaTENNIS RACQUET AND BALLaSKI AND SKI BOOT
  1F3C0 aBASKETBALL AND HOOPaCHEQUERED FLAGaSNOWBOARDERaRUNNERaSURFERaSPORTS MEDALaTROPHY
  1F3C7 aHORSE RACINGaAMERICAN FOOTBALLaRUGBY FOOTBALLaSWIMMERaWEIGHT LIFTERaGOLFER
  1F3CD aRACING MOTORCYCLEbCARaCRICKET BAT AND BALLaVOLLEYBALLaFIELD HOCKEY STICK AND BALL
  1F3D2 aICE HOCKEY STICK AND PUCKaTABLE TENNIS PADDLE AND BALLaSNOW CAPPED MOUNTAINaCAMPING
  1F3D6 aBEACH WITH UMBRELLAaBUILDING CONSTRUCTIONaHOUSE BUILDINGSaCITYSCAPE
  1F3DA aDERELICT HOUSE BUILDINGaCLASSICAL BUILDINGaDESERTbISLANDaNATIONAL PARKaSTADIUM
  1F3E0 aHOUSE BUILDINGbWITH GARDENaOFFICE BUILDINGaJAPANESE POST OFFICEaEUROPEAN POST OFFICE
  1F3E5 aHOSPITALaBANKaAUTOMATED TELLER MACHINEaHOTELaLOVE HOTELaCONVENIENCE STOREaSCHOOL
  1F3EC aDEPARTMENT STOREaFACTORYaIZAKAYA LANTERNaJAPANESE CASTLEaEUROPEAN CASTLEaWHITE PENNANT
  1F3F2 aBLACK PENNANTaWAVING WHITE FLAGbBLACK FLAGaROSETTEaBLACK ROSETTEaLABEL
  1F3F8 aBADMINTON RACQUET AND SHUTTLECOCKaBOW AND ARROWaAMPHORA
  1F3FB aEMOJI MODIFIER FITZPATRICK TYPE-1-2dTYPE-3dTYPE-4dTYPE-5dTYPE-6aRATaMOUSEaOX
  1F403 aWATER BUFFALOaCOWaTIGERaLEOPARDaRABBITaCATaDRAGONaCROCODILEaWHALEaSNAILaSNAKEaHORSEaRAM
  1F410 aGOATaSHEEPaMONKEYaROOSTERaCHICKENaDOGaPIGaBOARaELEPHANTaOCTOPUSaSPIRAL SHELLaBUGaANT
  1F41D aHONEYBEEaLADY BEETLEaFISHaTROPICAL FISHaBLOWFISHaTURTLEaHATCHING CHICKaBABY CHICK
  1F425 aFRONT-FACING BABY CHICKaBIRDaPENGUINaKOALAaPOODLEaDROMEDARY CAMELaBACTRIAN CAMELaDOLPHIN
  1F42D aMOUSE FACEaCOW FACEaTIGER FACEaRABBIT FACEaCAT FACEaDRAGON FACEaSPOUTING WHALEaHORSE FACE
  1F435 aMONKEY FACEaDOG FACEaPIG FACEaFROG FACEaHAMSTER FACEaWOLF FACEaBEAR FACEaPANDA FACE
  1F43D aPIG NOSEaPAW PRINTSaCHIPMUNKaEYESaEYEaEARaNOSEaMOUTHaTONGUE
  1F446 aWHITE UP POINTING BACKHAND INDEXbDOWN POINTING BACKHAND INDEX
  1F448 aWHITE LEFT POINTING BACKHAND INDEXbRIGHT POINTING BACKHAND INDEXaFISTED HAND SIGN
  1F44B aWAVING HAND SIGNaOK HAND SIGNaTHUMBS UP SIGNbDOWN SIGNaCLAPPING HANDS SIGN
  1F450 aOPEN HANDS SIGNaCROWNaWOMANS HATaEYEGLASSESaNECKTIEaT-SHIRTaJEANSaDRESSaKIMONOaBIKINI
  1F45A aWOMANS CLOTHESaPURSEaHANDBAGaPOUCHaMANS SHOEaATHLETIC SHOEaHIGH-HEELED SHOEaWOMANS SANDAL
  1F462 aWOMANS BOOTSaFOOTPRINTSaBUST IN SILHOUETTEaBUSTS IN SILHOUETTEaBOYaGIRLaMANaWOMANaFAMILY
  1F46B aMAN AND WOMAN HOLDING HANDSaTWO MEN HOLDING HANDSbWOMEN HOLDING HANDSaPOLICE OFFICER
  1F46F aWOMAN WITH BUNNY EARSaBRIDE WITH VEILaPERSON WITH BLOND HAIRaMAN WITH GUA PI MAOcTURBAN
  1F474 aOLDER MANbWOMANaBABYaCONSTRUCTION WORKERaPRINCESSaJAPANESE OGREbGOBLINaGHOSTaBABY ANGEL
  1F47D aEXTRATERRESTRIAL ALIENaALIEN MONSTERaIMPaSKULLaINFORMATION DESK PERSONaGUARDSMANaDANCER
  1F484 aLIPSTICKaNAIL POLISHaFACE MASSAGEaHAIRCUTaBARBER POLEaSYRINGEaPILLaKISS MARKaLOVE LETTER
  1F48D aRINGaGEM STONEaKISSaBOUQUETaCOUPLE WITH HEARTaWEDDINGaBEATING HEARTaBROKEN HEART
  1F495 aTWO HEARTSaSPARKLING HEARTaGROWING HEARTaHEART WITH ARROWaBLUE HEARTaGREEN HEART
  1F49B aYELLOW HEARTaPURPLE HEARTaHEART WITH RIBBONaREVOLVING HEARTSaHEART DECORATION
  1F4A0 aDIAMOND SHAPE WITH A DOT INSIDEaELECTRIC LIGHT BULBaANGER SYMBOLaBOMBaSLEEPING SYMBOL
  1F4A5 aCOLLISION SYMBOLaSPLASHING SWEAT SYMBOLaDROPLETaDASH SYMBOLaPILE OF POOaFLEXED BICEPS
  1F4AB aDIZZY SYMBOLaSPEECH BALLOONaTHOUGHT BALLOONaWHITE FLOWERaHUNDRED POINTS SYMBOLaMONEY BAG
  1F4B1 aCURRENCY EXCHANGEaHEAVY DOLLAR SIGNaCREDIT CARDaBANKNOTE WITH YEN SIGNcDOLLAR SIGN
  1F4B6 aBANKNOTE WITH EURO SIGNcPOUND SIGNaMONEY WITH WINGSaCHART WITH UPWARDS TREND AND YEN SIGN
  1F4BA aSEATaPERSONAL COMPUTERaBRIEFCASEaMINIDISCaFLOPPY DISKaOPTICAL DISCaDVDaFILE FOLDER
  1F4C2 aOPEN FILE FOLDERaPAGE WITH CURLbFACING UPaCALENDARaTEAR-OFF CALENDARaCARD INDEX
  1F4C8 aCHART WITH UPWARDS TRENDcDOWNWARDS TRENDaBAR CHARTaCLIPBOARDaPUSHPINaROUND PUSHPIN
  1F4CE aPAPERCLIPaSTRAIGHT RULERaTRIANGULAR RULERaBOOKMARK TABSaLEDGERaNOTEBOOK
  1F4D4 aNOTEBOOK WITH DECORATIVE COVERaCLOSED BOOKaOPEN BOOKaGREEN BOOKaBLUE BOOKaORANGE BOOK
  1F4DA aBOOKSaNAME BADGEaSCROLLaMEMOaTELEPHONE RECEIVERaPAGERaFAX MACHINEaSATELLITE ANTENNA
  1F4E2 aPUBLIC ADDRESS LOUDSPEAKERaCHEERING MEGAPHONEaOUTBOX TRAYaINBOX TRAYaPACKAGE
  1F4E7 aE-MAIL SYMBOLaINCOMING ENVELOPEaENVELOPE WITH DOWNWARDS ARROW ABOVE
  1F4EA aCLOSED MAILBOX WITH LOWERED FLAGdRAISED FLAGaOPEN MAILBOX WITH RAISED FLAGdLOWERED FLAG
  1F4EE aPOSTBOXaPOSTAL HORNaNEWSPAPERaMOBILE PHONEcWITH RIGHTWARDS ARROW AT LEFTaVIBRATION MODE
  1F4F4 aMOBILE PHONE OFFaNO MOBILE PHONESaANTENNA WITH BARSaCAMERAbWITH FLASHaVIDEO CAMERA
  1F4FA aTELEVISIONaRADIOaVIDEOCASSETTEaFILM PROJECTORaPORTABLE STEREOaPRAYER BEADS
  1F500 aTWISTED RIGHTWARDS ARROWSaCLOCKWISE RIGHTWARDS AND LEFTWARDS OPEN CIRCLE ARROWS
  1F502 aCLOCKWISE RIGHTWARDS AND LEFTWARDS OPEN CIRCLE ARROWS WITH CIRCLED ONE OVERLAY
  1F503 aCLOCKWISE DOWNWARDS AND UPWARDS OPEN CIRCLE ARROWS
  1F504 aANTICLOCKWISE DOWNWARDS AND UPWARDS OPEN CIRCLE ARROWSaLOW BRIGHTNESS SYMBOL
  1F506 aHIGH BRIGHTNESS SYMBOLaSPEAKER WITH CANCELLATION STROKEaSPEAKERbWITH ONE SOUND WAVE
  1F50A aSPEAKER WITH THREE SOUND WAVESaBATTERYaELECTRIC PLUGaLEFT-POINTING MAGNIFYING GLASS
  1F50E aRIGHT-POINTING MAGNIFYING GLASSaLOCK WITH INK PENaCLOSED LOCK WITH KEYaKEYaLOCKaOPEN LOCK
  1F514 aBELLbWITH CANCELLATION STROKEaBOOKMARKaLINK SYMBOLaRADIO BUTTON
  1F519 aBACK WITH LEFTWARDS ARROW ABOVEaEND WITH LEFTWARDS ARROW ABOVE
  1F51B aON WITH EXCLAMATION MARK WITH LEFT RIGHT ARROW ABOVEaSOON WITH RIGHTWARDS ARROW ABOVE
  1F51D aTOP WITH UPWARDS ARROW ABOVEaNO ONE UNDER EIGHTEEN SYMBOLaKEYCAP TEN
  1F520 aINPUT SYMBOL FOR LATIN CAPITAL LETTERSeSMALL LETTERSdNUMBERSdSYMBOLSdLATIN LETTERSaFIRE
  1F526 aELECTRIC TORCHaWRENCHaHAMMERaNUT AND BOLTaHOCHOaPISTOLaMICROSCOPEaTELESCOPEaCRYSTAL BALL
  1F52F aSIX POINTED STAR WITH MIDDLE DOTaJAPANESE SYMBOL FOR BEGINNERaTRIDENT EMBLEM
  1F532 aBLACK SQUARE BUTTONaWHITE SQUARE BUTTONaLARGE RED CIRCLEbBLUE CIRCLEbORANGE DIAMOND
  1F537 aLARGE BLUE DIAMONDaSMALL ORANGE DIAMONDbBLUE DIAMONDaUP-POINTING RED TRIANGLE
  1F53B aDOWN-POINTING RED TRIANGLEaUP-POINTING SMALL RED TRIANGLE
  1F53D aDOWN-POINTING SMALL RED TRIANGLEaLOWER RIGHT SHADOWED WHITE CIRCLE
  1F53F aUPPER RIGHT SHADOWED WHITE CIRCLEaCIRCLED CROSS POMMEE
  1F541 aCROSS POMMEE WITH HALF-CIRCLE BELOWbPOMMEEaNOTCHED LEFT SEMICIRCLE WITH THREE DOTS
  1F544 aNOTCHED RIGHT SEMICIRCLE WITH THREE DOTSaSYMBOL FOR MARKS CHAPTERaWHITE LATIN CROSS
  1F547 aHEAVY LATIN CROSSaCELTIC CROSSaOM SYMBOLaDOVE OF PEACEaKAABAaMOSQUEaSYNAGOGUE
  1F54E aMENORAH WITH NINE BRANCHESaBOWL OF HYGIEIAaCLOCK FACE ONE OCLOCKcTWO OCLOCKcTHREE OCLOCK
  1F553 aCLOCK FACE FOUR OCLOCKcFIVE OCLOCKcSIX OCLOCKcSEVEN OCLOCKcEIGHT OCLOCKcNINE OCLOCK
  1F559 aCLOCK FACE TEN OCLOCKcELEVEN OCLOCKcTWELVE OCLOCKcONE-THIRTYcTWO-THIRTYcTHREE-THIRTY
  1F55F aCLOCK FACE FOUR-THIRTYcFIVE-THIRTYcSIX-THIRTYcSEVEN-THIRTYcEIGHT-THIRTYcNINE-THIRTY
  1F565 aCLOCK FACE TEN-THIRTYcELEVEN-THIRTYcTWELVE-THIRTYaRIGHT SPEAKERcWITH ONE SOUND WAVE
  1F56A aRIGHT SPEAKER WITH THREE SOUND WAVESaBULLHORNbWITH SOUND WAVESaRINGING BELLaBOOKaCANDLE
  1F570 aMANTELPIECE CLOCKaBLACK SKULL AND CROSSBONESaNO PIRACYaHOLE
  1F574 aMAN IN BUSINESS SUIT LEVITATINGaSLEUTH OR SPYaDARK SUNGLASSESaSPIDERbWEBaJOYSTICK
  1F57A aMAN DANCINGaLEFT HAND TELEPHONE RECEIVERaTELEPHONE RECEIVER WITH PAGE
  1F57D aRIGHT HAND TELEPHONE RECEIVERaWHITE TOUCHTONE TELEPHONEaBLACK TOUCHTONE TELEPHONE
  1F580 aTELEPHONE ON TOP OF MODEMaCLAMSHELL MOBILE PHONEaBACK OF ENVELOPEaSTAMPED ENVELOPE
  1F584 aENVELOPE WITH LIGHTNINGaFLYING ENVELOPEaPEN OVER STAMPED ENVELOPEaLINKED PAPERCLIPS
  1F588 aBLACK PUSHPINaLOWER LEFT PENCILcBALLPOINT PENcFOUNTAIN PENcPAINTBRUSHcCRAYON
  1F58E aLEFT WRITING HANDaTURNED OK HAND SIGNaRAISED HAND WITH FINGERS SPLAYED
  1F591 aREVERSED RAISED HAND WITH FINGERS SPLAYEDbTHUMBS UP SIGNcDOWN SIGNbVICTORY HAND
  1F595 aREVERSED HAND WITH MIDDLE FINGER EXTENDED
  1F596 aRAISED HAND WITH PART BETWEEN MIDDLE AND RING FINGERSaWHITE DOWN POINTING LEFT HAND INDEX
  1F598 aSIDEWAYS WHITE LEFT POINTING INDEXcRIGHT POINTING INDEXbBLACK LEFT POINTING INDEX
  1F59B aSIDEWAYS BLACK RIGHT POINTING INDEXaBLACK LEFT POINTING BACKHAND INDEX
  1F59D aBLACK RIGHT POINTING BACKHAND INDEXaSIDEWAYS WHITE UP POINTING INDEXcDOWN POINTING INDEX
  1F5A0 aSIDEWAYS BLACK UP POINTING INDEXcDOWN POINTING INDEXaBLACK UP POINTING BACKHAND INDEX
  1F5A3 aBLACK DOWN POINTING BACKHAND INDEXbHEARTaDESKTOP COMPUTERaKEYBOARD AND MOUSE
  1F5A7 aTHREE NETWORKED COMPUTERSaPRINTERaPOCKET CALCULATORaBLACK HARD SHELL FLOPPY DISK
  1F5AB aWHITE HARD SHELL FLOPPY DISKaSOFT SHELL FLOPPY DISKaTAPE CARTRIDGEaWIRED KEYBOARD
  1F5AF aONE BUTTON MOUSEaTWO BUTTON MOUSEaTHREE BUTTON MOUSEaTRACKBALLaOLD PERSONAL COMPUTER
  1F5B4 aHARD DISKaSCREENaPRINTER ICONaFAX ICONaOPTICAL DISC ICONaDOCUMENT WITH TEXTdAND PICTURE
  1F5BB aDOCUMENT WITH PICTUREaFRAME WITH PICTUREcTILEScAN XaBLACK FOLDERaFOLDERaOPEN FOLDER
  1F5C2 aCARD INDEX DIVIDERSbFILE BOXaFILE CABINETaEMPTY NOTEcPAGEcPADaNOTEbPAGEbPAD
  1F5CB aEMPTY DOCUMENTbPAGEbPAGESaDOCUMENTaPAGEaPAGESaWASTEBASKETaSPIRAL NOTE PADbCALENDAR PAD
  1F5D4 aDESKTOP WINDOWaMINIMIZEaMAXIMIZEaOVERLAPaCLOCKWISE RIGHT AND LEFT SEMICIRCLE ARROWS
  1F5D9 aCANCELLATION XaINCREASE FONT SIZE SYMBOLaDECREASE FONT SIZE SYMBOLaCOMPRESSIONaOLD KEY
  1F5DE aROLLED-UP NEWSPAPERaPAGE WITH CIRCLED TEXTaSTOCK CHARTaDAGGER KNIFEaLIPS
  1F5E3 aSPEAKING HEAD IN SILHOUETTEaTHREE RAYS ABOVEcBELOWcLEFTcRIGHTaLEFT SPEECH BUBBLE
  1F5E9 aRIGHT SPEECH BUBBLEaTWO SPEECH BUBBLESaTHREE SPEECH BUBBLESaLEFT THOUGHT BUBBLE
  1F5ED aRIGHT THOUGHT BUBBLEaLEFT ANGER BUBBLEaRIGHT ANGER BUBBLEaMOOD BUBBLE
  1F5F1 aLIGHTNING MOOD BUBBLEbMOODaBALLOT BOX WITH BALLOTbSCRIPT XbBOX WITH SCRIPT X
  1F5F6 aBALLOT BOLD SCRIPT XbBOX WITH BOLD SCRIPT XaLIGHT CHECK MARKaBALLOT BOX WITH BOLD CHECK
  1F5FA aWORLD MAPaMOUNT FUJIaTOKYO TOWERaSTATUE OF LIBERTYaSILHOUETTE OF JAPANaMOYAI
  1F600 aGRINNING FACEcWITH SMILING EYESaFACE WITH TEARS OF JOYaSMILING FACE WITH OPEN MOUTH
  1F604 aSMILING FACE WITH OPEN MOUTH AND SMILING EYESgCOLD SWEATgTIGHTLY-CLOSED EYESdHALOdHORNS
  1F609 aWINKING FACEaSMILING FACE WITH SMILING EYESaFACE SAVOURING DELICIOUS FOODaRELIEVED FACE
  1F60D aSMILING FACE WITH HEART-SHAPED EYESdSUNGLASSESaSMIRKING FACEaNEUTRAL FACE
  1F611 aEXPRESSIONLESS FACEaUNAMUSED FACEaFACE WITH COLD SWEATaPENSIVE FACEaCONFUSED FACE
  1F616 aCONFOUNDED FACEaKISSING FACEaFACE THROWING A KISSaKISSING FACE WITH SMILING EYES
  1F61A aKISSING FACE WITH CLOSED EYESaFACE WITH STUCK-OUT TONGUEeAND WINKING EYE
  1F61D aFACE WITH STUCK-OUT TONGUE AND TIGHTLY-CLOSED EYESaDISAPPOINTED FACEaWORRIED FACE
  1F620 aANGRY FACEaPOUTING FACEaCRYING FACEaPERSEVERING FACEaFACE WITH LOOK OF TRIUMPH
  1F625 aDISAPPOINTED BUT RELIEVED FACEaFROWNING FACE WITH OPEN MOUTHaANGUISHED FACEaFEARFUL FACE
  1F629 aWEARY FACEaSLEEPY FACEaTIRED FACEaGRIMACING FACEaLOUDLY CRYING FACEaFACE WITH OPEN MOUTH
  1F62F aHUSHED FACEaFACE WITH OPEN MOUTH AND COLD SWEATbSCREAMING IN FEARaASTONISHED FACE
  1F633 aFLUSHED FACEaSLEEPING FACEaDIZZY FACEaFACE WITHOUT MOUTHbWITH MEDICAL MASK
  1F638 aGRINNING CAT FACE WITH SMILING EYESaCAT FACE WITH TEARS OF JOY
  1F63A aSMILING CAT FACE WITH OPEN MOUTHeHEART-SHAPED EYESaCAT FACE WITH WRY SMILE
  1F63D aKISSING CAT FACE WITH CLOSED EYESaPOUTING CAT FACEaCRYING CAT FACEaWEARY CAT FACE
  1F641 aSLIGHTLY FROWNING FACEbSMILING FACEaUPSIDE-DOWN FACEaFACE WITH ROLLING EYES
  1F645 aFACE WITH NO GOOD GESTUREcOK GESTUREaPERSON BOWING DEEPLYaSEE-NO-EVIL MONKEY
  1F649 aHEAR-NO-EVIL MONKEYaSPEAK-NO-EVIL MONKEYaHAPPY PERSON RAISING ONE HAND
  1F64C aPERSON RAISING BOTH HANDS IN CELEBRATIONbFROWNINGbWITH POUTING FACEcFOLDED HANDS
  1F650 aNORTH WEST POINTING LEAFaSOUTH WEST POINTING LEAFaNORTH EAST POINTING LEAF
  1F653 aSOUTH EAST POINTING LEAFaTURNED NORTH WEST POINTING LEAFbSOUTH WEST POINTING LEAF
  1F656 aTURNED NORTH EAST POINTING LEAFbSOUTH EAST POINTING LEAFaNORTH WEST POINTING VINE LEAF
  1F659 aSOUTH WEST POINTING VINE LEAFaNORTH EAST POINTING VINE LEAFaSOUTH EAST POINTING VINE LEAF
  1F65C aHEAVY NORTH WEST POINTING VINE LEAFbSOUTH WEST POINTING VINE LEAF
  1F65E aHEAVY NORTH EAST POINTING VINE LEAFbSOUTH EAST POINTING VINE LEAFaNORTH WEST POINTING BUD
  1F661 aSOUTH WEST POINTING BUDaNORTH EAST POINTING BUDaSOUTH EAST POINTING BUD
  1F664 aHEAVY NORTH WEST POINTING BUDbSOUTH WEST POINTING BUDbNORTH EAST POINTING BUD
  1F667 aHEAVY SOUTH EAST POINTING BUDaHOLLOW QUILT SQUARE ORNAMENTeIN BLACK SQUARE
  1F66A aSOLID QUILT SQUARE ORNAMENTeIN BLACK SQUAREaLEFTWARDS ROCKETaUPWARDS ROCKET
  1F66E aRIGHTWARDS ROCKETaDOWNWARDS ROCKETaSCRIPT LIGATURE ET ORNAMENT
  1F671 aHEAVY SCRIPT LIGATURE ET ORNAMENTaLIGATURE OPEN ET ORNAMENT
  1F673 aHEAVY LIGATURE OPEN ET ORNAMENTbAMPERSAND ORNAMENTaSWASH AMPERSAND ORNAMENT
  1F676 aSANS-SERIF HEAVY DOUBLE TURNED COMMA QUOTATION MARK ORNAMENT
  1F677 aSANS-SERIF HEAVY DOUBLE COMMA QUOTATION MARK ORNAMENT
  1F678 aSANS-SERIF HEAVY LOW DOUBLE COMMA QUOTATION MARK ORNAMENTaHEAVY INTERROBANG ORNAMENT
  1F67A aSANS-SERIF INTERROBANG ORNAMENTaHEAVY SANS-SERIF INTERROBANG ORNAMENTaVERY HEAVY SOLIDUS
  1F67D aVERY HEAVY REVERSE SOLIDUSaCHECKER BOARDaREVERSE CHECKER BOARDaROCKETaHELICOPTER
  1F682 aSTEAM LOCOMOTIVEaRAILWAY CARaHIGH-SPEED TRAINcWITH BULLET NOSEaTRAINaMETROaLIGHT RAIL
  1F689 aSTATIONaTRAMbCARaBUSaONCOMING BUSaTROLLEYBUSaBUS STOPaMINIBUSaAMBULANCEaFIRE ENGINE
  1F693 aPOLICE CARaONCOMING POLICE CARaTAXIaONCOMING TAXIaAUTOMOBILEaONCOMING AUTOMOBILE
  1F699 aRECREATIONAL VEHICLEaDELIVERY TRUCKaARTICULATED LORRYaTRACTORaMONORAILaMOUNTAIN RAILWAY
  1F69F aSUSPENSION RAILWAYaMOUNTAIN CABLEWAYaAERIAL TRAMWAYaSHIPaROWBOATaSPEEDBOAT
  1F6A5 aHORIZONTAL TRAFFIC LIGHTaVERTICAL TRAFFIC LIGHTaCONSTRUCTION SIGN
  1F6A8 aPOLICE CARS REVOLVING LIGHTaTRIANGULAR FLAG ON POSTaDOORaNO ENTRY SIGNaSMOKING SYMBOL
  1F6AD aNO SMOKING SYMBOLaPUT LITTER IN ITS PLACE SYMBOLaDO NOT LITTER SYMBOL
  1F6B0 aPOTABLE WATER SYMBOLaNON-POTABLE WATER SYMBOLaBICYCLEaNO BICYCLESaBICYCLIST
  1F6B5 aMOUNTAIN BICYCLISTaPEDESTRIANaNO PEDESTRIANSaCHILDREN CROSSINGaMENS SYMBOLaWOMENS SYMBOL
  1F6BB aRESTROOMaBABY SYMBOLaTOILETaWATER CLOSETaSHOWERaBATHaBATHTUBaPASSPORT CONTROLaCUSTOMS
  1F6C4 aBAGGAGE CLAIMaLEFT LUGGAGEaTRIANGLE WITH ROUNDED CORNERSaPROHIBITED SIGN
  1F6C8 aCIRCLED INFORMATION SOURCEaBOYS SYMBOLaGIRLS SYMBOLaCOUCH AND LAMPaSLEEPING ACCOMMODATION
  1F6CD aSHOPPING BAGSaBELLHOP BELLaBEDaPLACE OF WORSHIPaOCTAGONAL SIGNaSHOPPING TROLLEYaSTUPA
  1F6D4 aPAGODAaHINDU TEMPLEaHUTaELEVATOR
  1F6DD aPLAYGROUND SLIDEaWHEELaRING BUOYaHAMMER AND WRENCHaSHIELDaOIL DRUMaMOTORWAYaRAILWAY TRACK
  1F6E5 aMOTOR BOATaUP-POINTING MILITARY AIRPLANEbAIRPLANEbSMALL AIRPLANEaSMALL AIRPLANE
  1F6EA aNORTHEAST-POINTING AIRPLANEaAIRPLANE DEPARTUREbARRIVING
  1F6F0 aSATELLITEaONCOMING FIRE ENGINEaDIESEL LOCOMOTIVEaPASSENGER SHIPaSCOOTERaMOTOR SCOOTER
  1F6F6 aCANOEaSLEDaFLYING SAUCERaSKATEBOARDaAUTO RICKSHAWaPICKUP TRUCKaROLLER SKATE
  1F700 aALCHEMICAL SYMBOL FOR QUINTESSENCEdAIRdFIREdEARTHdWATERdAQUAFORTISdAQUA REGIAeREGIA-2
  1F708 aALCHEMICAL SYMBOL FOR AQUA VITAEeVITAE-2dVINEGARdVINEGAR-2dVINEGAR-3dSULFUR
  1F70E aALCHEMICAL SYMBOL FOR PHILOSOPHERS SULFURdBLACK SULFURdMERCURY SUBLIMATEeSUBLIMATE-2
  1F712 aALCHEMICAL SYMBOL FOR MERCURY SUBLIMATE-3dCINNABARdSALTdNITREdVITRIOLdVITRIOL-2dROCK SALT
  1F719 aALCHEMICAL SYMBOL FOR ROCK SALT-2dGOLDdSILVERdIRON OREeORE-2dCROCUS OF IRON
  1F71F aALCHEMICAL SYMBOL FOR REGULUS OF IRONdCOPPER OREdIRON-COPPER OREdSUBLIMATE OF COPPER
  1F723 aALCHEMICAL SYMBOL FOR CROCUS OF COPPERfCOPPER-2dCOPPER ANTIMONIATE
  1F726 aALCHEMICAL SYMBOL FOR SALT OF COPPER ANTIMONIATEdSUBLIMATE OF SALT OF COPPERdVERDIGRIS
  1F729 aALCHEMICAL SYMBOL FOR TIN OREdLEAD OREdANTIMONY OREdSUBLIMATE OF ANTIMONY
  1F72D aALCHEMICAL SYMBOL FOR SALT OF ANTIMONYdSUBLIMATE OF SALT OF ANTIMONYdVINEGAR OF ANTIMONY
  1F730 aALCHEMICAL SYMBOL FOR REGULUS OF ANTIMONYfANTIMONY-2dREGULUSdREGULUS-2dREGULUS-3
  1F735 aALCHEMICAL SYMBOL FOR REGULUS-4dALKALIdALKALI-2dMARCASITEdSAL-AMMONIACdARSENICdREALGAR
  1F73C aALCHEMICAL SYMBOL FOR REALGAR-2dAURIPIGMENTdBISMUTH OREdTARTARdTARTAR-2dQUICK LIMEdBORAX
  1F743 aALCHEMICAL SYMBOL FOR BORAX-2dBORAX-3dALUMdOILdSPIRITdTINCTUREdGUMdWAXdPOWDERdCALXdTUTTY
  1F74E aALCHEMICAL SYMBOL FOR CAPUT MORTUUMdSCEPTER OF JOVEdCADUCEUSdTRIDENTdSTARRED TRIDENT
  1F753 aALCHEMICAL SYMBOL FOR LODESTONEdSOAPdURINEdHORSE DUNGdASHESdPOT ASHESdBRICK
  1F75A aALCHEMICAL SYMBOL FOR POWDERED BRICKdAMALGAMdSTRATUM SUPER STRATUMfSTRATUM-2dSUBLIMATION
  1F75F aALCHEMICAL SYMBOL FOR PRECIPITATEdDISTILLdDISSOLVEdDISSOLVE-2dPURIFYdPUTREFACTION
  1F765 aALCHEMICAL SYMBOL FOR CRUCIBLEdCRUCIBLE-2dCRUCIBLE-3dCRUCIBLE-4dCRUCIBLE-5dALEMBIC
  1F76B aALCHEMICAL SYMBOL FOR BATH OF MARYfVAPOURSdRETORTdHOURdNIGHTdDAY-NIGHTdMONTHdHALF DRAM
  1F773 aALCHEMICAL SYMBOL FOR HALF OUNCE
  1F780 aBLACK LEFT-POINTING ISOSCELES RIGHT TRIANGLEbUP-POINTING ISOSCELES RIGHT TRIANGLE
  1F782 aBLACK RIGHT-POINTING ISOSCELES RIGHT TRIANGLEbDOWN-POINTING ISOSCELES RIGHT TRIANGLE
  1F784 aBLACK SLIGHTLY SMALL CIRCLEaMEDIUM BOLD WHITE CIRCLEaBOLD WHITE CIRCLEaHEAVY WHITE CIRCLE
  1F788 aVERY HEAVY WHITE CIRCLEaEXTREMELY HEAVY WHITE CIRCLE
  1F78A aWHITE CIRCLE CONTAINING BLACK SMALL CIRCLEaROUND TARGETaBLACK TINY SQUARE
  1F78D aBLACK SLIGHTLY SMALL SQUAREaLIGHT WHITE SQUAREaMEDIUM WHITE SQUAREaBOLD WHITE SQUARE
  1F791 aHEAVY WHITE SQUAREaVERY HEAVY WHITE SQUAREaEXTREMELY HEAVY WHITE SQUARE
  1F794 aWHITE SQUARE CONTAINING BLACK VERY SMALL SQUAREeMEDIUM SQUAREaSQUARE TARGET
  1F797 aBLACK TINY DIAMONDbVERY SMALL DIAMONDbMEDIUM SMALL DIAMOND
  1F79A aWHITE DIAMOND CONTAINING BLACK VERY SMALL DIAMONDeMEDIUM DIAMONDaDIAMOND TARGET
  1F79D aBLACK TINY LOZENGEbVERY SMALL LOZENGEbMEDIUM SMALL LOZENGE
  1F7A0 aWHITE LOZENGE CONTAINING BLACK SMALL LOZENGEaTHIN GREEK CROSSaLIGHT GREEK CROSS
  1F7A3 aMEDIUM GREEK CROSSaBOLD GREEK CROSSaVERY BOLD GREEK CROSSbHEAVY GREEK CROSS
  1F7A7 aEXTREMELY HEAVY GREEK CROSSaTHIN SALTIREaLIGHT SALTIREaMEDIUM SALTIREaBOLD SALTIRE
  1F7AC aHEAVY SALTIREaVERY HEAVY SALTIREaEXTREMELY HEAVY SALTIREaLIGHT FIVE SPOKED ASTERISK
  1F7B0 aMEDIUM FIVE SPOKED ASTERISKaBOLD FIVE SPOKED ASTERISKaHEAVY FIVE SPOKED ASTERISK
  1F7B3 aVERY HEAVY FIVE SPOKED ASTERISKaEXTREMELY HEAVY FIVE SPOKED ASTERISK
  1F7B5 aLIGHT SIX SPOKED ASTERISKaMEDIUM SIX SPOKED ASTERISKaBOLD SIX SPOKED ASTERISK
  1F7B8 aHEAVY SIX SPOKED ASTERISKaVERY HEAVY SIX SPOKED ASTERISK
  1F7BA aEXTREMELY HEAVY SIX SPOKED ASTERISKaLIGHT EIGHT SPOKED ASTERISK
  1F7BC aMEDIUM EIGHT SPOKED ASTERISKaBOLD EIGHT SPOKED ASTERISKaHEAVY EIGHT SPOKED ASTERISK
  1F7BF aVERY HEAVY EIGHT SPOKED ASTERISKaLIGHT THREE POINTED BLACK STAR
  1F7C1 aMEDIUM THREE POINTED BLACK STARaTHREE POINTED BLACK STAR
  1F7C3 aMEDIUM THREE POINTED PINWHEEL STARaLIGHT FOUR POINTED BLACK STAR
  1F7C5 aMEDIUM FOUR POINTED BLACK STARaFOUR POINTED BLACK STARaMEDIUM FOUR POINTED PINWHEEL STAR
  1F7C8 aREVERSE LIGHT FOUR POINTED PINWHEEL STARaLIGHT FIVE POINTED BLACK STAR
  1F7CA aHEAVY FIVE POINTED BLACK STARaMEDIUM SIX POINTED BLACK STARaHEAVY SIX POINTED BLACK STAR
  1F7CD aSIX POINTED PINWHEEL STARaMEDIUM EIGHT POINTED BLACK STARaHEAVY EIGHT POINTED BLACK STAR
  1F7D0 aVERY HEAVY EIGHT POINTED BLACK STARaHEAVY EIGHT POINTED PINWHEEL STAR
  1F7D2 aLIGHT TWELVE POINTED BLACK STARaHEAVY TWELVE POINTED BLACK STARdPINWHEEL STAR
  1F7D5 aCIRCLED TRIANGLEaNEGATIVE CIRCLED TRIANGLEaCIRCLED SQUAREaNEGATIVE CIRCLED SQUARE
  1F7E0 aLARGE ORANGE CIRCLEbYELLOW CIRCLEbGREEN CIRCLEbPURPLE CIRCLEbBROWN CIRCLEbRED SQUARE
  1F7E6 aLARGE BLUE SQUAREbORANGE SQUAREbYELLOW SQUAREbGREEN SQUAREbPURPLE SQUAREbBROWN SQUARE
  1F7F0 aHEAVY EQUALS SIGN
  1F800 aLEFTWARDS ARROW WITH SMALL TRIANGLE ARROWHEADaUPWARDS ARROW WITH SMALL TRIANGLE ARROWHEAD
  1F802 aRIGHTWARDS ARROW WITH SMALL TRIANGLE ARROWHEAD
  1F803 aDOWNWARDS ARROW WITH SMALL TRIANGLE ARROWHEAD
  1F804 aLEFTWARDS ARROW WITH MEDIUM TRIANGLE ARROWHEAD
  1F805 aUPWARDS ARROW WITH MEDIUM TRIANGLE ARROWHEAD
  1F806 aRIGHTWARDS ARROW WITH MEDIUM TRIANGLE ARROWHEAD
  1F807 aDOWNWARDS ARROW WITH MEDIUM TRIANGLE ARROWHEAD
  1F808 aLEFTWARDS ARROW WITH LARGE TRIANGLE ARROWHEADaUPWARDS ARROW WITH LARGE TRIANGLE ARROWHEAD
  1F80A aRIGHTWARDS ARROW WITH LARGE TRIANGLE ARROWHEAD
  1F80B aDOWNWARDS ARROW WITH LARGE TRIANGLE ARROWHEAD
  1F810 aLEFTWARDS ARROW WITH SMALL EQUILATERAL ARROWHEAD
  1F811 aUPWARDS ARROW WITH SMALL EQUILATERAL ARROWHEAD
  1F812 aRIGHTWARDS ARROW WITH SMALL EQUILATERAL ARROWHEAD
  1F813 aDOWNWARDS ARROW WITH SMALL EQUILATERAL ARROWHEAD
  1F814 aLEFTWARDS ARROW WITH EQUILATERAL ARROWHEADaUPWARDS ARROW WITH EQUILATERAL ARROWHEAD
  1F816 aRIGHTWARDS ARROW WITH EQUILATERAL ARROWHEADaDOWNWARDS ARROW WITH EQUILATERAL ARROWHEAD
  1F818 aHEAVY LEFTWARDS ARROW WITH EQUILATERAL ARROWHEADbUPWARDS ARROW WITH EQUILATERAL ARROWHEAD
  1F81A aHEAVY RIGHTWARDS ARROW WITH EQUILATERAL ARROWHEAD
  1F81B aHEAVY DOWNWARDS ARROW WITH EQUILATERAL ARROWHEAD
  1F81C aHEAVY LEFTWARDS ARROW WITH LARGE EQUILATERAL ARROWHEAD
  1F81D aHEAVY UPWARDS ARROW WITH LARGE EQUILATERAL ARROWHEAD
  1F81E aHEAVY RIGHTWARDS ARROW WITH LARGE EQUILATERAL ARROWHEAD
  1F81F aHEAVY DOWNWARDS ARROW WITH LARGE EQUILATERAL ARROWHEAD
  1F820 aLEFTWARDS TRIANGLE-HEADED ARROW WITH NARROW SHAFT
  1F821 aUPWARDS TRIANGLE-HEADED ARROW WITH NARROW SHAFT
  1F822 aRIGHTWARDS TRIANGLE-HEADED ARROW WITH NARROW SHAFT
  1F823 aDOWNWARDS TRIANGLE-HEADED ARROW WITH NARROW SHAFT
  1F824 aLEFTWARDS TRIANGLE-HEADED ARROW WITH MEDIUM SHAFT
  1F825 aUPWARDS TRIANGLE-HEADED ARROW WITH MEDIUM SHAFT
  1F826 aRIGHTWARDS TRIANGLE-HEADED ARROW WITH MEDIUM SHAFT
  1F827 aDOWNWARDS TRIANGLE-HEADED ARROW WITH MEDIUM SHAFT
  1F828 aLEFTWARDS TRIANGLE-HEADED ARROW WITH BOLD SHAFT
  1F829 aUPWARDS TRIANGLE-HEADED ARROW WITH BOLD SHAFT
  1F82A aRIGHTWARDS TRIANGLE-HEADED ARROW WITH BOLD SHAFT
  1F82B aDOWNWARDS TRIANGLE-HEADED ARROW WITH BOLD SHAFT
  1F82C aLEFTWARDS TRIANGLE-HEADED ARROW WITH HEAVY SHAFT
  1F82D aUPWARDS TRIANGLE-HEADED ARROW WITH HEAVY SHAFT
  1F82E aRIGHTWARDS TRIANGLE-HEADED ARROW WITH HEAVY SHAFT
  1F82F aDOWNWARDS TRIANGLE-HEADED ARROW WITH HEAVY SHAFT
  1F830 aLEFTWARDS TRIANGLE-HEADED ARROW WITH VERY HEAVY SHAFT
  1F831 aUPWARDS TRIANGLE-HEADED ARROW WITH VERY HEAVY SHAFT
  1F832 aRIGHTWARDS TRIANGLE-HEADED ARROW WITH VERY HEAVY SHAFT
  1F833 aDOWNWARDS TRIANGLE-HEADED ARROW WITH VERY HEAVY SHAFTaLEFTWARDS FINGER-POST ARROW
  1F835 aUPWARDS FINGER-POST ARROWaRIGHTWARDS FINGER-POST ARROWaDOWNWARDS FINGER-POST ARROW
  1F838 aLEFTWARDS SQUARED ARROWaUPWARDS SQUARED ARROWaRIGHTWARDS SQUARED ARROW
  1F83B aDOWNWARDS SQUARED ARROWaLEFTWARDS COMPRESSED ARROWaUPWARDS COMPRESSED ARROW
  1F83E aRIGHTWARDS COMPRESSED ARROWaDOWNWARDS COMPRESSED ARROWaLEFTWARDS HEAVY COMPRESSED ARROW
  1F841 aUPWARDS HEAVY COMPRESSED ARROWaRIGHTWARDS HEAVY COMPRESSED ARROW
  1F843 aDOWNWARDS HEAVY COMPRESSED ARROWaLEFTWARDS HEAVY ARROWaUPWARDS HEAVY ARROW
  1F846 aRIGHTWARDS HEAVY ARROWaDOWNWARDS HEAVY ARROW
  1F850 aLEFTWARDS SANS-SERIF ARROWaUPWARDS SANS-SERIF ARROWaRIGHTWARDS SANS-SERIF ARROW
  1F853 aDOWNWARDS SANS-SERIF ARROWaNORTH WEST SANS-SERIF ARROWbEAST SANS-SERIF ARROW
  1F856 aSOUTH EAST SANS-SERIF ARROWbWEST SANS-SERIF ARROWaLEFT RIGHT SANS-SERIF ARROW
  1F859 aUP DOWN SANS-SERIF ARROW
  1F860 aWIDE-HEADED LEFTWARDS LIGHT BARB ARROWbUPWARDS LIGHT BARB ARROW
  1F862 aWIDE-HEADED RIGHTWARDS LIGHT BARB ARROWbDOWNWARDS LIGHT BARB ARROW
  1F864 aWIDE-HEADED NORTH WEST LIGHT BARB ARROWcEAST LIGHT BARB ARROWbSOUTH EAST LIGHT BARB ARROW
  1F867 aWIDE-HEADED SOUTH WEST LIGHT BARB ARROWbLEFTWARDS BARB ARROWbUPWARDS BARB ARROW
  1F86A aWIDE-HEADED RIGHTWARDS BARB ARROWbDOWNWARDS BARB ARROWbNORTH WEST BARB ARROW
  1F86D aWIDE-HEADED NORTH EAST BARB ARROWbSOUTH EAST BARB ARROWcWEST BARB ARROW
  1F870 aWIDE-HEADED LEFTWARDS MEDIUM BARB ARROWbUPWARDS MEDIUM BARB ARROW
  1F872 aWIDE-HEADED RIGHTWARDS MEDIUM BARB ARROWbDOWNWARDS MEDIUM BARB ARROW
  1F874 aWIDE-HEADED NORTH WEST MEDIUM BARB ARROWcEAST MEDIUM BARB ARROW
  1F876 aWIDE-HEADED SOUTH EAST MEDIUM BARB ARROWcWEST MEDIUM BARB ARROW
  1F878 aWIDE-HEADED LEFTWARDS HEAVY BARB ARROWbUPWARDS HEAVY BARB ARROW
  1F87A aWIDE-HEADED RIGHTWARDS HEAVY BARB ARROWbDOWNWARDS HEAVY BARB ARROW
  1F87C aWIDE-HEADED NORTH WEST HEAVY BARB ARROWcEAST HEAVY BARB ARROWbSOUTH EAST HEAVY BARB ARROW
  1F87F aWIDE-HEADED SOUTH WEST HEAVY BARB ARROWbLEFTWARDS VERY HEAVY BARB ARROW
  1F881 aWIDE-HEADED UPWARDS VERY HEAVY BARB ARROWbRIGHTWARDS VERY HEAVY BARB ARROW
  1F883 aWIDE-HEADED DOWNWARDS VERY HEAVY BARB ARROWbNORTH WEST VERY HEAVY BARB ARROW
  1F885 aWIDE-HEADED NORTH EAST VERY HEAVY BARB ARROWbSOUTH EAST VERY HEAVY BARB ARROW
  1F887 aWIDE-HEADED SOUTH WEST VERY HEAVY BARB ARROW
  1F890 aLEFTWARDS TRIANGLE ARROWHEADaUPWARDS TRIANGLE ARROWHEADaRIGHTWARDS TRIANGLE ARROWHEAD
  1F893 aDOWNWARDS TRIANGLE ARROWHEADaLEFTWARDS WHITE ARROW WITHIN TRIANGLE ARROWHEAD
  1F895 aUPWARDS WHITE ARROW WITHIN TRIANGLE ARROWHEAD
  1F896 aRIGHTWARDS WHITE ARROW WITHIN TRIANGLE ARROWHEAD
  1F897 aDOWNWARDS WHITE ARROW WITHIN TRIANGLE ARROWHEADaLEFTWARDS ARROW WITH NOTCHED TAIL
  1F899 aUPWARDS ARROW WITH NOTCHED TAILaRIGHTWARDS ARROW WITH NOTCHED TAIL
  1F89B aDOWNWARDS ARROW WITH NOTCHED TAILaHEAVY ARROW SHAFT WIDTH ONEeTWO THIRDSeONE HALFfTHIRD
  1F8A0 aLEFTWARDS BOTTOM-SHADED WHITE ARROWaRIGHTWARDS BOTTOM SHADED WHITE ARROW
  1F8A2 aLEFTWARDS TOP SHADED WHITE ARROWaRIGHTWARDS TOP SHADED WHITE ARROW
  1F8A4 aLEFTWARDS LEFT-SHADED WHITE ARROWaRIGHTWARDS RIGHT-SHADED WHITE ARROW
  1F8A6 aLEFTWARDS RIGHT-SHADED WHITE ARROWaRIGHTWARDS LEFT-SHADED WHITE ARROW
  1F8A8 aLEFTWARDS BACK-TILTED SHADOWED WHITE ARROWaRIGHTWARDS BACK-TILTED SHADOWED WHITE ARROW
  1F8AA aLEFTWARDS FRONT-TILTED SHADOWED WHITE ARROWaRIGHTWARDS FRONT-TILTED SHADOWED WHITE ARROW
  1F8AC aWHITE ARROW SHAFT WIDTH ONEeTWO THIRDS
  1F8B0 aARROW POINTING UPWARDS THEN NORTH WESTcRIGHTWARDS THEN CURVING SOUTH WEST
  1F900 aCIRCLED CROSS FORMEE WITH FOUR DOTSeTWO DOTScFORMEEaLEFT HALF CIRCLE WITH FOUR DOTS
  1F904 aLEFT HALF CIRCLE WITH THREE DOTSeTWO DOTSeDOTcCIRCLEaDOWNWARD FACING HOOKcNOTCHED HOOK
  1F90A aDOWNWARD FACING HOOK WITH DOTcNOTCHED HOOK WITH DOTaPINCHED FINGERSaWHITE HEART
  1F90E aBROWN HEARTaPINCHING HANDaZIPPER-MOUTH FACEaMONEY-MOUTH FACEaFACE WITH THERMOMETER
  1F913 aNERD FACEaTHINKING FACEaFACE WITH HEAD-BANDAGEaROBOT FACEaHUGGING FACEaSIGN OF THE HORNS
  1F919 aCALL ME HANDaRAISED BACK OF HANDaLEFT-FACING FISTaRIGHT-FACING FISTaHANDSHAKE
  1F91E aHAND WITH INDEX AND MIDDLE FINGERS CROSSEDaI LOVE YOU HAND SIGNaFACE WITH COWBOY HAT
  1F921 aCLOWN FACEaNAUSEATED FACEaROLLING ON THE FLOOR LAUGHINGaDROOLING FACEaLYING FACE
  1F926 aFACE PALMaSNEEZING FACEaFACE WITH ONE EYEBROW RAISEDaGRINNING FACE WITH STAR EYES
  1F92A aGRINNING FACE WITH ONE LARGE AND ONE SMALL EYEaFACE WITH FINGER COVERING CLOSED LIPS
  1F92C aSERIOUS FACE WITH SYMBOLS COVERING MOUTH
  1F92D aSMILING FACE WITH SMILING EYES AND HAND COVERING MOUTHaFACE WITH OPEN MOUTH VOMITING
  1F92F aSHOCKED FACE WITH EXPLODING HEADaPREGNANT WOMANaBREAST-FEEDINGaPALMS UP TOGETHERaSELFIE
  1F934 aPRINCEaMAN IN TUXEDOaMOTHER CHRISTMASaSHRUGaPERSON DOING CARTWHEELaJUGGLINGaFENCER
  1F93B aMODERN PENTATHLONaWRESTLERSaWATER POLOaHANDBALLaDIVING MASKaWILTED FLOWER
  1F941 aDRUM WITH DRUMSTICKSaCLINKING GLASSESaTUMBLER GLASSaSPOONaGOAL NETaRIFLE
  1F947 aFIRST PLACE MEDALaSECOND PLACE MEDALaTHIRD PLACE MEDALaBOXING GLOVEaMARTIAL ARTS UNIFORM
  1F94C aCURLING STONEaLACROSSE STICK AND BALLaSOFTBALLaFLYING DISCaCROISSANTaAVOCADOaCUCUMBER
  1F953 aBACONaPOTATOaCARROTaBAGUETTE BREADaGREEN SALADaSHALLOW PAN OF FOODaSTUFFED FLATBREADaEGG
  1F95B aGLASS OF MILKaPEANUTSaKIWIFRUITaPANCAKESaDUMPLINGaFORTUNE COOKIEaTAKEOUT BOXaCHOPSTICKS
  1F963 aBOWL WITH SPOONaCUP WITH STRAWaCOCONUTaBROCCOLIaPIEaPRETZELaCUT OF MEATaSANDWICH
  1F96B aCANNED FOODaLEAFY GREENaMANGOaMOON CAKEaBAGEL
  1F970 aSMILING FACE WITH SMILING EYES AND THREE HEARTSaYAWNING FACEaSMILING FACE WITH TEAR
  1F973 aFACE WITH PARTY HORN AND PARTY HATcUNEVEN EYES AND WAVY MOUTHaOVERHEATED FACE
  1F976 aFREEZING FACEaNINJAaDISGUISED FACEaFACE HOLDING BACK TEARSbWITH PLEADING EYESaSARI
  1F97C aLAB COATaGOGGLESaHIKING BOOTaFLAT SHOEaCRABaLION FACEaSCORPIONaTURKEYaUNICORN FACEaEAGLE
  1F986 aDUCKaBATaSHARKaOWLaFOX FACEaBUTTERFLYaDEERaGORILLAaLIZARDaRHINOCEROSaSHRIMPaSQUID
  1F992 aGIRAFFE FACEaZEBRA FACEaHEDGEHOGaSAUROPODaT-REXaCRICKETaKANGAROOaLLAMAaPEACOCK
  1F99B aHIPPOPOTAMUSaPARROTaRACCOONaLOBSTERaMOSQUITOaMICROBEaBADGERaSWANaMAMMOTHaDODOaSLOTHaOTTER
  1F9A7 aORANGUTANaSKUNKaFLAMINGOaOYSTERaBEAVERaBISONaSEALaGUIDE DOGaPROBING CANE
  1F9B0 aEMOJI COMPONENT RED HAIRcCURLY HAIRcBALDcWHITE HAIRaBONEaLEGaFOOTaTOOTHaSUPERHERO
  1F9B9 aSUPERVILLAINaSAFETY VESTaEAR WITH HEARING AIDaMOTORIZED WHEELCHAIRaMANUAL WHEELCHAIR
  1F9BE aMECHANICAL ARMbLEGaCHEESE WEDGEaCUPCAKEaSALT SHAKERaBEVERAGE BOXaGARLICaONIONaFALAFEL
  1F9C7 aWAFFLEaBUTTERaMATE DRINKaICE CUBEaBUBBLE TEAaTROLLaSTANDING PERSONaKNEELING PERSON
  1F9CF aDEAF PERSONaFACE WITH MONOCLEaADULTaCHILDaOLDER ADULTaBEARDED PERSON
  1F9D5 aPERSON WITH HEADSCARFbIN STEAMY ROOMbCLIMBINGbIN LOTUS POSITIONaMAGEaFAIRYaVAMPIRE
  1F9DC aMERPERSONaELFaGENIEaZOMBIEaBRAINaORANGE HEARTaBILLED CAPaSCARFaGLOVESaCOATaSOCKS
  1F9E7 aRED GIFT ENVELOPEaFIRECRACKERaJIGSAW PUZZLE PIECEaTEST TUBEaPETRI DISHaDNA DOUBLE HELIX
  1F9ED aCOMPASSaABACUSaFIRE EXTINGUISHERaTOOLBOXaBRICKaMAGNETaLUGGAGEaLOTION BOTTLE
  1F9F5 aSPOOL OF THREADaBALL OF YARNaSAFETY PINaTEDDY BEARaBROOMaBASKETaROLL OF PAPERaBAR OF SOAP
  1F9FD aSPONGEaRECEIPTaNAZAR AMULETaNEUTRAL CHESS KINGcQUEENcROOKcBISHOPcKNIGHTcPAWN
  1FA06 aWHITE CHESS KNIGHT ROTATED FORTY-FIVE DEGREES
  1FA07 aBLACK CHESS KNIGHT ROTATED FORTY-FIVE DEGREES
  1FA08 aNEUTRAL CHESS KNIGHT ROTATED FORTY-FIVE DEGREESaWHITE CHESS KING ROTATED NINETY DEGREES
  1FA0A aWHITE CHESS QUEEN ROTATED NINETY DEGREEScROOK ROTATED NINETY DEGREES
  1FA0C aWHITE CHESS BISHOP ROTATED NINETY DEGREEScKNIGHT ROTATED NINETY DEGREES
  1FA0E aWHITE CHESS PAWN ROTATED NINETY DEGREESaBLACK CHESS KING ROTATED NINETY DEGREES
  1FA10 aBLACK CHESS QUEEN ROTATED NINETY DEGREEScROOK ROTATED NINETY DEGREES
  1FA12 aBLACK CHESS BISHOP ROTATED NINETY DEGREEScKNIGHT ROTATED NINETY DEGREES
  1FA14 aBLACK CHESS PAWN ROTATED NINETY DEGREESaNEUTRAL CHESS KING ROTATED NINETY DEGREES
  1FA16 aNEUTRAL CHESS QUEEN ROTATED NINETY DEGREEScROOK ROTATED NINETY DEGREES
  1FA18 aNEUTRAL CHESS BISHOP ROTATED NINETY DEGREEScKNIGHT ROTATED NINETY DEGREES
  1FA1A aNEUTRAL CHESS PAWN ROTATED NINETY DEGREES
  1FA1B aWHITE CHESS KNIGHT ROTATED ONE HUNDRED THIRTY-FIVE DEGREES
  1FA1C aBLACK CHESS KNIGHT ROTATED ONE HUNDRED THIRTY-FIVE DEGREES
  1FA1D aNEUTRAL CHESS KNIGHT ROTATED ONE HUNDRED THIRTY-FIVE DEGREESaWHITE CHESS TURNED KING
  1FA1F aWHITE CHESS TURNED QUEENdROOKdBISHOPdKNIGHTdPAWNaBLACK CHESS TURNED KINGdQUEENdROOK
  1FA27 aBLACK CHESS TURNED BISHOPdKNIGHTdPAWNaNEUTRAL CHESS TURNED KINGdQUEENdROOKdBISHOPdKNIGHT
  1FA2F aNEUTRAL CHESS TURNED PAWNaWHITE CHESS KNIGHT ROTATED TWO HUNDRED TWENTY-FIVE DEGREES
  1FA31 aBLACK CHESS KNIGHT ROTATED TWO HUNDRED TWENTY-FIVE DEGREES
  1FA32 aNEUTRAL CHESS KNIGHT ROTATED TWO HUNDRED TWENTY-FIVE DEGREES
  1FA33 aWHITE CHESS KING ROTATED TWO HUNDRED SEVENTY DEGREES
  1FA34 aWHITE CHESS QUEEN ROTATED TWO HUNDRED SEVENTY DEGREES
  1FA35 aWHITE CHESS ROOK ROTATED TWO HUNDRED SEVENTY DEGREES
  1FA36 aWHITE CHESS BISHOP ROTATED TWO HUNDRED SEVENTY DEGREES
  1FA37 aWHITE CHESS KNIGHT ROTATED TWO HUNDRED SEVENTY DEGREES
  1FA38 aWHITE CHESS PAWN ROTATED TWO HUNDRED SEVENTY DEGREES
  1FA39 aBLACK CHESS KING ROTATED TWO HUNDRED SEVENTY DEGREES
  1FA3A aBLACK CHESS QUEEN ROTATED TWO HUNDRED SEVENTY DEGREES
  1FA3B aBLACK CHESS ROOK ROTATED TWO HUNDRED SEVENTY DEGREES
  1FA3C aBLACK CHESS BISHOP ROTATED TWO HUNDRED SEVENTY DEGREES
  1FA3D aBLACK CHESS KNIGHT ROTATED TWO HUNDRED SEVENTY DEGREES
  1FA3E aBLACK CHESS PAWN ROTATED TWO HUNDRED SEVENTY DEGREES
  1FA3F aNEUTRAL CHESS KING ROTATED TWO HUNDRED SEVENTY DEGREES
  1FA40 aNEUTRAL CHESS QUEEN ROTATED TWO HUNDRED SEVENTY DEGREES
  1FA41 aNEUTRAL CHESS ROOK ROTATED TWO HUNDRED SEVENTY DEGREES
  1FA42 aNEUTRAL CHESS BISHOP ROTATED TWO HUNDRED SEVENTY DEGREES
  1FA43 aNEUTRAL CHESS KNIGHT ROTATED TWO HUNDRED SEVENTY DEGREES
  1FA44 aNEUTRAL CHESS PAWN ROTATED TWO HUNDRED SEVENTY DEGREES
  1FA45 aWHITE CHESS KNIGHT ROTATED THREE HUNDRED FIFTEEN DEGREES
  1FA46 aBLACK CHESS KNIGHT ROTATED THREE HUNDRED FIFTEEN DEGREES
  1FA47 aNEUTRAL CHESS KNIGHT ROTATED THREE HUNDRED FIFTEEN DEGREESaWHITE CHESS EQUIHOPPER
  1FA49 aBLACK CHESS EQUIHOPPERaNEUTRAL CHESS EQUIHOPPER
  1FA4B aWHITE CHESS EQUIHOPPER ROTATED NINETY DEGREES
  1FA4C aBLACK CHESS EQUIHOPPER ROTATED NINETY DEGREES
  1FA4D aNEUTRAL CHESS EQUIHOPPER ROTATED NINETY DEGREESaWHITE CHESS KNIGHT-QUEENcKNIGHT-ROOK
  1FA50 aWHITE CHESS KNIGHT-BISHOPaBLACK CHESS KNIGHT-QUEENcKNIGHT-ROOKcKNIGHT-BISHOP
  1FA60 aXIANGQI RED GENERALcMANDARINcELEPHANTcHORSEcCHARIOTcCANNONcSOLDIERbBLACK GENERALcMANDARIN
  1FA69 aXIANGQI BLACK ELEPHANTcHORSEcCHARIOTcCANNONcSOLDIER
  1FA70 aBALLET SHOESaONE-PIECE SWIMSUITaBRIEFSaSHORTSaTHONG SANDAL
  1FA78 aDROP OF BLOODaADHESIVE BANDAGEaSTETHOSCOPEaX-RAYaCRUTCH
  1FA80 aYO-YOaKITEaPARACHUTEaBOOMERANGaMAGIC WANDaPINATAaNESTING DOLLS
  1FA90 aRINGED PLANETaCHAIRaRAZORaAXEaDIYA LAMPaBANJOaMILITARY HELMETaACCORDIONaLONG DRUMaCOIN
  1FA9A aCARPENTRY SAWaSCREWDRIVERaLADDERaHOOKaMIRRORaWINDOWaPLUNGERaSEWING NEEDLEaKNOTaBUCKET
  1FAA4 aMOUSE TRAPaTOOTHBRUSHaHEADSTONEaPLACARDaROCKaMIRROR BALLaIDENTIFICATION CARDaLOW BATTERY
  1FAAC aHAMSA
  1FAB0 aFLYaWORMaBEETLEaCOCKROACHaPOTTED PLANTaWOODaFEATHERaLOTUSaCORALaEMPTY NESTaNEST WITH EGGS
  1FAC0 aANATOMICAL HEARTaLUNGSaPEOPLE HUGGINGaPREGNANT MANbPERSONaPERSON WITH CROWN
  1FAD0 aBLUEBERRIESaBELL PEPPERaOLIVEaFLATBREADaTAMALEaFONDUEaTEAPOTaPOURING LIQUIDaBEANSaJAR
  1FAE0 aMELTING FACEaSALUTING FACEaFACE WITH OPEN EYES AND HAND OVER MOUTHcPEEKING EYE
  1FAE4 aFACE WITH DIAGONAL MOUTHaDOTTED LINE FACEaBITING LIPaBUBBLES
  1FAF0 aHAND WITH INDEX FINGER AND THUMB CROSSEDaRIGHTWARDS HANDaLEFTWARDS HANDaPALM DOWN HAND
  1FAF4 aPALM UP HANDaINDEX POINTING AT THE VIEWERaHEART HANDS
  1FB00 aBLOCK SEXTANT-1bSEXTANT-2bSEXTANT-12bSEXTANT-3bSEXTANT-13bSEXTANT-23bSEXTANT-123
  1FB07 aBLOCK SEXTANT-4bSEXTANT-14bSEXTANT-24bSEXTANT-124bSEXTANT-34bSEXTANT-134bSEXTANT-234
  1FB0E aBLOCK SEXTANT-1234bSEXTANT-5bSEXTANT-15bSEXTANT-25bSEXTANT-125bSEXTANT-35bSEXTANT-235
  1FB15 aBLOCK SEXTANT-1235bSEXTANT-45bSEXTANT-145bSEXTANT-245bSEXTANT-1245bSEXTANT-345
  1FB1B aBLOCK SEXTANT-1345bSEXTANT-2345bSEXTANT-12345bSEXTANT-6bSEXTANT-16bSEXTANT-26bSEXTANT-126
  1FB22 aBLOCK SEXTANT-36bSEXTANT-136bSEXTANT-236bSEXTANT-1236bSEXTANT-46bSEXTANT-146bSEXTANT-1246
  1FB29 aBLOCK SEXTANT-346bSEXTANT-1346bSEXTANT-2346bSEXTANT-12346bSEXTANT-56bSEXTANT-156
  1FB2F aBLOCK SEXTANT-256bSEXTANT-1256bSEXTANT-356bSEXTANT-1356bSEXTANT-2356bSEXTANT-12356
  1FB35 aBLOCK SEXTANT-456bSEXTANT-1456bSEXTANT-2456bSEXTANT-12456bSEXTANT-3456bSEXTANT-13456
  1FB3B aBLOCK SEXTANT-23456aLOWER LEFT BLOCK DIAGONAL LOWER MIDDLE LEFT TO LOWER CENTREjRIGHT
  1FB3E aLOWER LEFT BLOCK DIAGONAL UPPER MIDDLE LEFT TO LOWER CENTREjRIGHTfLEFT TO LOWER CENTRE
  1FB41 aLOWER RIGHT BLOCK DIAGONAL UPPER MIDDLE LEFT TO UPPER CENTREjRIGHT
  1FB43 aLOWER RIGHT BLOCK DIAGONAL LOWER MIDDLE LEFT TO UPPER CENTREjRIGHTfLEFT TO UPPER CENTRE
  1FB46 aLOWER RIGHT BLOCK DIAGONAL LOWER MIDDLE LEFT TO UPPER MIDDLE RIGHT
  1FB47 aLOWER RIGHT BLOCK DIAGONAL LOWER CENTRE TO LOWER MIDDLE RIGHTfLEFT TO LOWER MIDDLE RIGHT
  1FB49 aLOWER RIGHT BLOCK DIAGONAL LOWER CENTRE TO UPPER MIDDLE RIGHTfLEFT TO UPPER MIDDLE RIGHT
  1FB4B aLOWER RIGHT BLOCK DIAGONAL LOWER CENTRE TO UPPER RIGHT
  1FB4C aLOWER LEFT BLOCK DIAGONAL UPPER CENTRE TO UPPER MIDDLE RIGHTfLEFT TO UPPER MIDDLE RIGHT
  1FB4E aLOWER LEFT BLOCK DIAGONAL UPPER CENTRE TO LOWER MIDDLE RIGHTfLEFT TO LOWER MIDDLE RIGHT
  1FB50 aLOWER LEFT BLOCK DIAGONAL UPPER CENTRE TO LOWER RIGHTfMIDDLE LEFT TO LOWER MIDDLE RIGHT
  1FB52 aUPPER RIGHT BLOCK DIAGONAL LOWER MIDDLE LEFT TO LOWER CENTREjRIGHT
  1FB54 aUPPER RIGHT BLOCK DIAGONAL UPPER MIDDLE LEFT TO LOWER CENTREjRIGHTfLEFT TO LOWER CENTRE
  1FB57 aUPPER LEFT BLOCK DIAGONAL UPPER MIDDLE LEFT TO UPPER CENTREjRIGHT
  1FB59 aUPPER LEFT BLOCK DIAGONAL LOWER MIDDLE LEFT TO UPPER CENTREjRIGHTfLEFT TO UPPER CENTRE
  1FB5C aUPPER LEFT BLOCK DIAGONAL LOWER MIDDLE LEFT TO UPPER MIDDLE RIGHT
  1FB5D aUPPER LEFT BLOCK DIAGONAL LOWER CENTRE TO LOWER MIDDLE RIGHTfLEFT TO LOWER MIDDLE RIGHT
  1FB5F aUPPER LEFT BLOCK DIAGONAL LOWER CENTRE TO UPPER MIDDLE RIGHTfLEFT TO UPPER MIDDLE RIGHT
  1FB61 aUPPER LEFT BLOCK DIAGONAL LOWER CENTRE TO UPPER RIGHT
  1FB62 aUPPER RIGHT BLOCK DIAGONAL UPPER CENTRE TO UPPER MIDDLE RIGHTfLEFT TO UPPER MIDDLE RIGHT
  1FB64 aUPPER RIGHT BLOCK DIAGONAL UPPER CENTRE TO LOWER MIDDLE RIGHTfLEFT TO LOWER MIDDLE RIGHT
  1FB66 aUPPER RIGHT BLOCK DIAGONAL UPPER CENTRE TO LOWER RIGHTfMIDDLE LEFT TO LOWER MIDDLE RIGHT
  1FB68 aUPPER AND RIGHT AND LOWER TRIANGULAR THREE QUARTERS BLOCK
  1FB69 aLEFT AND LOWER AND RIGHT TRIANGULAR THREE QUARTERS BLOCK
  1FB6A aUPPER AND LEFT AND LOWER TRIANGULAR THREE QUARTERS BLOCK
  1FB6B aLEFT AND UPPER AND RIGHT TRIANGULAR THREE QUARTERS BLOCKbTRIANGULAR ONE QUARTER BLOCK
  1FB6D aUPPER TRIANGULAR ONE QUARTER BLOCKaRIGHT TRIANGULAR ONE QUARTER BLOCK
  1FB6F aLOWER TRIANGULAR ONE QUARTER BLOCKaVERTICAL ONE EIGHTH BLOCK-2dBLOCK-3dBLOCK-4dBLOCK-5
  1FB74 aVERTICAL ONE EIGHTH BLOCK-6dBLOCK-7aHORIZONTAL ONE EIGHTH BLOCK-2dBLOCK-3dBLOCK-4dBLOCK-5
  1FB7A aHORIZONTAL ONE EIGHTH BLOCK-6dBLOCK-7aLEFT AND LOWER ONE EIGHTH BLOCK
  1FB7D aLEFT AND UPPER ONE EIGHTH BLOCKaRIGHT AND UPPER ONE EIGHTH BLOCKcLOWER ONE EIGHTH BLOCK
  1FB80 aUPPER AND LOWER ONE EIGHTH BLOCKaHORIZONTAL ONE EIGHTH BLOCK-1358aUPPER ONE QUARTER BLOCK
  1FB83 aUPPER THREE EIGHTHS BLOCKbFIVE EIGHTHS BLOCKbTHREE QUARTERS BLOCKbSEVEN EIGHTHS BLOCK
  1FB87 aRIGHT ONE QUARTER BLOCKbTHREE EIGHTHS BLOCKbFIVE EIGHTHS BLOCKbTHREE QUARTERS BLOCK
  1FB8B aRIGHT SEVEN EIGHTHS BLOCKaLEFT HALF MEDIUM SHADEaRIGHT HALF MEDIUM SHADE
  1FB8E aUPPER HALF MEDIUM SHADEaLOWER HALF MEDIUM SHADEaINVERSE MEDIUM SHADE
  1FB91 aUPPER HALF BLOCK AND LOWER HALF INVERSE MEDIUM SHADE
  1FB92 aUPPER HALF INVERSE MEDIUM SHADE AND LOWER HALF BLOCK
  1FB94 aLEFT HALF INVERSE MEDIUM SHADE AND RIGHT HALF BLOCKaCHECKER BOARD FILL
  1FB96 aINVERSE CHECKER BOARD FILLaHEAVY HORIZONTAL FILLaUPPER LEFT TO LOWER RIGHT FILL
  1FB99 aUPPER RIGHT TO LOWER LEFT FILLbAND LOWER TRIANGULAR HALF BLOCK
  1FB9B aLEFT AND RIGHT TRIANGULAR HALF BLOCKaUPPER LEFT TRIANGULAR MEDIUM SHADE
  1FB9D aUPPER RIGHT TRIANGULAR MEDIUM SHADEaLOWER RIGHT TRIANGULAR MEDIUM SHADE
  1FB9F aLOWER LEFT TRIANGULAR MEDIUM SHADE
  1FBA0 aBOX DRAWINGS LIGHT DIAGONAL UPPER CENTRE TO MIDDLE LEFTiRIGHTeMIDDLE LEFT TO LOWER CENTRE
  1FBA3 aBOX DRAWINGS LIGHT DIAGONAL MIDDLE RIGHT TO LOWER CENTRE
  1FBA4 aBOX DRAWINGS LIGHT DIAGONAL UPPER CENTRE TO MIDDLE LEFT TO LOWER CENTRE
  1FBA5 aBOX DRAWINGS LIGHT DIAGONAL UPPER CENTRE TO MIDDLE RIGHT TO LOWER CENTRE
  1FBA6 aBOX DRAWINGS LIGHT DIAGONAL MIDDLE LEFT TO LOWER CENTRE TO MIDDLE RIGHT
  1FBA7 aBOX DRAWINGS LIGHT DIAGONAL MIDDLE LEFT TO UPPER CENTRE TO MIDDLE RIGHT
  1FBA8 aBOX DRAWINGS LIGHT DIAGONAL UPPER CENTRE TO MIDDLE LEFT AND MIDDLE RIGHT TO LOWER CENTRE
  1FBA9 aBOX DRAWINGS LIGHT DIAGONAL UPPER CENTRE TO MIDDLE RIGHT AND MIDDLE LEFT TO LOWER CENTRE
  1FBAA aBOX DRAWINGS LIGHT DIAGONAL UPPER CENTRE TO MIDDLE RIGHT TO LOWER CENTRE TO MIDDLE LEFT
  1FBAB aBOX DRAWINGS LIGHT DIAGONAL UPPER CENTRE TO MIDDLE LEFT TO LOWER CENTRE TO MIDDLE RIGHT
  1FBAC aBOX DRAWINGS LIGHT DIAGONAL MIDDLE LEFT TO UPPER CENTRE TO MIDDLE RIGHT TO LOWER CENTRE
  1FBAD aBOX DRAWINGS LIGHT DIAGONAL MIDDLE RIGHT TO UPPER CENTRE TO MIDDLE LEFT TO LOWER CENTRE
  1FBAE aBOX DRAWINGS LIGHT DIAGONAL DIAMONDdHORIZONTAL WITH VERTICAL STROKE
  1FBB0 aARROWHEAD-SHAPED POINTERaINVERSE CHECK MARKaLEFT HALF RUNNING MANaRIGHT HALF RUNNING MAN
  1FBB4 aINVERSE DOWNWARDS ARROW WITH TIP LEFTWARDS
  1FBB5 aLEFTWARDS ARROW AND UPPER AND LOWER ONE EIGHTH BLOCK
  1FBB6 aRIGHTWARDS ARROW AND UPPER AND LOWER ONE EIGHTH BLOCK
  1FBB7 aDOWNWARDS ARROW AND RIGHT ONE EIGHTH BLOCKaUPWARDS ARROW AND RIGHT ONE EIGHTH BLOCK
  1FBB9 aLEFT HALF FOLDERaRIGHT HALF FOLDERaVOIDED GREEK CROSSaRIGHT OPEN SQUARED DOT
  1FBBD aNEGATIVE DIAGONAL CROSScMIDDLE RIGHT TO LOWER CENTREcDIAMOND
  1FBC0 aWHITE HEAVY SALTIRE WITH ROUNDED CORNERSaLEFT THIRD WHITE RIGHT POINTING INDEX
  1FBC2 aMIDDLE THIRD WHITE RIGHT POINTING INDEXaRIGHT THIRD WHITE RIGHT POINTING INDEX
  1FBC4 aNEGATIVE SQUARED QUESTION MARKaSTICK FIGUREcWITH ARMS RAISEDcLEANING LEFTdRIGHT
  1FBC9 aSTICK FIGURE WITH DRESSaWHITE UP-POINTING CHEVRON
  1FBF0 aSEGMENTED DIGIT ZEROcONEcTWOcTHREEcFOURcFIVEcSIXcSEVENcEIGHTcNINE
  E0001 aLANGUAGE TAG
  E0020 aTAG SPACEbEXCLAMATION MARKbQUOTATION MARKbNUMBER SIGNbDOLLAR SIGNbPERCENT SIGNbAMPERSAND
  E0027 aTAG APOSTROPHEbLEFT PARENTHESISbRIGHT PARENTHESISbASTERISKbPLUS SIGNbCOMMAbHYPHEN-MINUS
  E002E aTAG FULL STOPbSOLIDUSbDIGIT ZEROcONEcTWOcTHREEcFOURcFIVEcSIXcSEVENcEIGHTcNINEbCOLON
  E003B aTAG SEMICOLONbLESS-THAN SIGNbEQUALS SIGNbGREATER-THAN SIGNbQUESTION MARKbCOMMERCIAL AT
  E0041 aTAG LATIN CAPITAL LETTER AeBeCeDeEeFeGeHeIeJeKeLeMeNeOePeQeReSeTeUeVeWeXeYeZ
  E005B aTAG LEFT SQUARE BRACKETbREVERSE SOLIDUSbRIGHT SQUARE BRACKETbCIRCUMFLEX ACCENTbLOW LINE
  E0060 aTAG GRAVE ACCENTbLATIN SMALL LETTER AeBeCeDeEeFeGeHeIeJeKeLeMeNeOePeQeReSeTeUeVeWeXeYeZ
  E007B aTAG LEFT CURLY BRACKETbVERTICAL LINEbRIGHT CURLY BRACKETbTILDEaCANCEL TAG
  E0100 aVARIATION SELECTOR-17bSELECTOR-18bSELECTOR-19bSELECTOR-20bSELECTOR-21bSELECTOR-22
  E0106 aVARIATION SELECTOR-23bSELECTOR-24bSELECTOR-25bSELECTOR-26bSELECTOR-27bSELECTOR-28
  E010C aVARIATION SELECTOR-29bSELECTOR-30bSELECTOR-31bSELECTOR-32bSELECTOR-33bSELECTOR-34
  E0112 aVARIATION SELECTOR-35bSELECTOR-36bSELECTOR-37bSELECTOR-38bSELECTOR-39bSELECTOR-40
  E0118 aVARIATION SELECTOR-41bSELECTOR-42bSELECTOR-43bSELECTOR-44bSELECTOR-45bSELECTOR-46
  E011E aVARIATION SELECTOR-47bSELECTOR-48bSELECTOR-49bSELECTOR-50bSELECTOR-51bSELECTOR-52
  E0124 aVARIATION SELECTOR-53bSELECTOR-54bSELECTOR-55bSELECTOR-56bSELECTOR-57bSELECTOR-58
  E012A aVARIATION SELECTOR-59bSELECTOR-60bSELECTOR-61bSELECTOR-62bSELECTOR-63bSELECTOR-64
  E0130 aVARIATION SELECTOR-65bSELECTOR-66bSELECTOR-67bSELECTOR-68bSELECTOR-69bSELECTOR-70
  E0136 aVARIATION SELECTOR-71bSELECTOR-72bSELECTOR-73bSELECTOR-74bSELECTOR-75bSELECTOR-76
  E013C aVARIATION SELECTOR-77bSELECTOR-78bSELECTOR-79bSELECTOR-80bSELECTOR-81bSELECTOR-82
  E0142 aVARIATION SELECTOR-83bSELECTOR-84bSELECTOR-85bSELECTOR-86bSELECTOR-87bSELECTOR-88
  E0148 aVARIATION SELECTOR-89bSELECTOR-90bSELECTOR-91bSELECTOR-92bSELECTOR-93bSELECTOR-94
  E014E aVARIATION SELECTOR-95bSELECTOR-96bSELECTOR-97bSELECTOR-98bSELECTOR-99bSELECTOR-100
  E0154 aVARIATION SELECTOR-101bSELECTOR-102bSELECTOR-103bSELECTOR-104bSELECTOR-105bSELECTOR-106
  E015A aVARIATION SELECTOR-107bSELECTOR-108bSELECTOR-109bSELECTOR-110bSELECTOR-111bSELECTOR-112
  E0160 aVARIATION SELECTOR-113bSELECTOR-114bSELECTOR-115bSELECTOR-116bSELECTOR-117bSELECTOR-118
  E0166 aVARIATION SELECTOR-119bSELECTOR-120bSELECTOR-121bSELECTOR-122bSELECTOR-123bSELECTOR-124
  E016C aVARIATION SELECTOR-125bSELECTOR-126bSELECTOR-127bSELECTOR-128bSELECTOR-129bSELECTOR-130
  E0172 aVARIATION SELECTOR-131bSELECTOR-132bSELECTOR-133bSELECTOR-134bSELECTOR-135bSELECTOR-136
  E0178 aVARIATION SELECTOR-137bSELECTOR-138bSELECTOR-139bSELECTOR-140bSELECTOR-141bSELECTOR-142
  E017E aVARIATION SELECTOR-143bSELECTOR-144bSELECTOR-145bSELECTOR-146bSELECTOR-147bSELECTOR-148
  E0184 aVARIATION SELECTOR-149bSELECTOR-150bSELECTOR-151bSELECTOR-152bSELECTOR-153bSELECTOR-154
  E018A aVARIATION SELECTOR-155bSELECTOR-156bSELECTOR-157bSELECTOR-158bSELECTOR-159bSELECTOR-160
  E0190 aVARIATION SELECTOR-161bSELECTOR-162bSELECTOR-163bSELECTOR-164bSELECTOR-165bSELECTOR-166
  E0196 aVARIATION SELECTOR-167bSELECTOR-168bSELECTOR-169bSELECTOR-170bSELECTOR-171bSELECTOR-172
  E019C aVARIATION SELECTOR-173bSELECTOR-174bSELECTOR-175bSELECTOR-176bSELECTOR-177bSELECTOR-178
  E01A2 aVARIATION SELECTOR-179bSELECTOR-180bSELECTOR-181bSELECTOR-182bSELECTOR-183bSELECTOR-184
  E01A8 aVARIATION SELECTOR-185bSELECTOR-186bSELECTOR-187bSELECTOR-188bSELECTOR-189bSELECTOR-190
  E01AE aVARIATION SELECTOR-191bSELECTOR-192bSELECTOR-193bSELECTOR-194bSELECTOR-195bSELECTOR-196
  E01B4 aVARIATION SELECTOR-197bSELECTOR-198bSELECTOR-199bSELECTOR-200bSELECTOR-201bSELECTOR-202
  E01BA aVARIATION SELECTOR-203bSELECTOR-204bSELECTOR-205bSELECTOR-206bSELECTOR-207bSELECTOR-208
  E01C0 aVARIATION SELECTOR-209bSELECTOR-210bSELECTOR-211bSELECTOR-212bSELECTOR-213bSELECTOR-214
  E01C6 aVARIATION SELECTOR-215bSELECTOR-216bSELECTOR-217bSELECTOR-218bSELECTOR-219bSELECTOR-220
  E01CC aVARIATION SELECTOR-221bSELECTOR-222bSELECTOR-223bSELECTOR-224bSELECTOR-225bSELECTOR-226
  E01D2 aVARIATION SELECTOR-227bSELECTOR-228bSELECTOR-229bSELECTOR-230bSELECTOR-231bSELECTOR-232
  E01D8 aVARIATION SELECTOR-233bSELECTOR-234bSELECTOR-235bSELECTOR-236bSELECTOR-237bSELECTOR-238
  E01DE aVARIATION SELECTOR-239bSELECTOR-240bSELECTOR-241bSELECTOR-242bSELECTOR-243bSELECTOR-244
  E01E4 aVARIATION SELECTOR-245bSELECTOR-246bSELECTOR-247bSELECTOR-248bSELECTOR-249bSELECTOR-250
  E01EA aVARIATION SELECTOR-251bSELECTOR-252bSELECTOR-253bSELECTOR-254bSELECTOR-255bSELECTOR-256
"

end Text
end TrackingPlan
