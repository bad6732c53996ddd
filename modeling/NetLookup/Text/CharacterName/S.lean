/-! # Names of characters that begin with S -/

namespace NetLookup.Text.CharacterName

def sNames : String := "
aS IN TRIANGLE aSAFETY PIN bVEST aSAGITTARIUS aSAILBOAT aSAKE BOTTLE AND CUP aSALT SHAKER aSALTIRE
aSALUTING FACE aSAMARITAN ABBREVIATION MARK bLETTER ALAF cBAA cBIT cDALAT cFI cGAMAN cIN cIT cIY
cKAAF cLABAT cMIM cNUN cQUF cRISH cSHAN cSINGAAT cTAAF cTIT cTSAADIY cYUT cZEN bMARK DAGESH
cEPENTHETIC YUT cIN cIN-ALAF cNEQUDAA cOCCLUSION bMODIFIER LETTER EPENTHETIC YUT dI dSHORT A
bPUNCTUATION AFSAAQ cANGED cANNAAU cARKAANU cATMAAU cBAU cMELODIC QITSA cNEQUDAA cQITSA
cSHIYYAALAA cSOF MASHFAAT cTURU cZAEF cZIQAA bVOWEL SIGN A dAA dE dI dLONG A eAA eE eI eU dO
dOVERLONG A eAA dSHORT A dSUKUN dU aSANDWICH aSANS-SERIF HEAVY DOUBLE COMMA QUOTATION MARK
ORNAMENT dTURNED COMMA QUOTATION MARK ORNAMENT cLOW DOUBLE COMMA QUOTATION MARK ORNAMENT
bINTERROBANG ORNAMENT aSARI aSATELLITE bANTENNA aSATURN aSAURASHTRA CONSONANT SIGN HAARU bDANDA
bDIGIT EIGHT cFIVE cFOUR cNINE cONE cSEVEN cSIX cTHREE cTWO cZERO bDOUBLE DANDA bLETTER A cAA cAI
cAU cBA cBHA cCA cCHA cDA cDDA cDDHA cDHA cE cEE cGA cGHA cHA cI cII cJA cJHA cKA cKHA cLA cLLA
cMA cNA cNGA cNNA cNYA cO cOO cPA cPHA cRA cSA cSHA cSSA cTA cTHA cTTA cTTHA cU cUU cVA cVOCALIC L
dLL dR dRR cYA bSIGN ANUSVARA cCANDRABINDU cVIRAMA cVISARGA bVOWEL SIGN AA dAI dAU dE dEE dI dII
dO dOO dU dUU dVOCALIC L eLL eR eRR aSAUROPOD aSAXOPHONE aSCALES aSCARF aSCHOOL bSATCHEL aSCI
aSCOOTER aSCORPION aSCORPIUS aSCREEN aSCREWDRIVER aSCRIPT CAPITAL B cE cF cH cI cL cM cP cR
bLIGATURE ET ORNAMENT bSMALL E cG cL cO aSCROLL aSCRUPLE aSEAL aSEAT aSECOND PLACE MEDAL aSECTION
SIGN aSECTOR aSEDNA aSEE-NO-EVIL MONKEY aSEEDLING aSEGMENT aSEGMENTED DIGIT EIGHT cFIVE cFOUR
cNINE cONE cSEVEN cSIX cTHREE cTWO cZERO aSELFIE aSEMICOLON aSEMIDIRECT PRODUCT WITH BOTTOM CLOSED
aSEMISEXTILE aSEPARATED SYMBOL aSERIOUS FACE WITH SYMBOLS COVERING MOUTH aSERVICE MARK aSESAME DOT
aSESQUIQUADRATE aSET MINUS bTRANSMIT STATE aSEWING NEEDLE aSEXTILE aSGC aSHADOWED WHITE CIRCLE
cLATIN CROSS cSTAR aSHALLOW PAN OF FOOD aSHAMROCK aSHARADA ABBREVIATION SIGN bCONTINUATION SIGN
bDANDA bDIGIT EIGHT cFIVE cFOUR cNINE cONE cSEVEN cSIX cTHREE cTWO cZERO bDOUBLE DANDA bEKAM
bEXTRA SHORT VOWEL MARK bHEADSTROKE bLETTER A cAA cAI cAU cBA cBHA cCA cCHA cDA cDDA cDDHA cDHA cE
cGA cGHA cHA cI cII cJA cJHA cKA cKHA cLA cLLA cMA cNA cNGA cNNA cNYA cO cPA cPHA cRA cSA cSHA
cSSA cTA cTHA cTTA cTTHA cU cUU cVA cVOCALIC L dLL dR dRR cYA bOM bSANDHI MARK bSECTION MARK-1
cMARK-2 bSEPARATOR bSIGN ANUSVARA cAVAGRAHA cCANDRABINDU cINVERTED CANDRABINDU cJIHVAMULIYA cNUKTA
cSIDDHAM cUPADHMANIYA cVIRAMA cVISARGA bSUTRA MARK bVOWEL MODIFIER MARK cSIGN AA dAI dAU dE dI dII
dO dPRISHTHAMATRA E dU dUU dVOCALIC L eLL eR eRR aSHARK aSHAVED ICE aSHAVIAN LETTER ADO cAGE cAH
cAIR cARE cARRAY cASH cAWE cBIB cCHURCH cDEAD cEAR cEAT cEGG cERR cFEE cGAG cHA-HA cHUNG cIAN cICE
cIF cJUDGE cKICK cLOLL cMEASURE cMIME cNUN cOAK cOIL cON cOOZE cOR cOUT cPEEP cROAR cSO cSURE
cTHEY cTHIGH cTOT cUP cVOW cWOE cWOOL cYEA cYEW cZOO aSHEEP aSHIELD aSHIFT IN bOUT aSHINTO SHRINE
aSHIP aSHOCKED FACE WITH EXPLODING HEAD aSHOOTING STAR aSHOPPING BAGS bTROLLEY aSHORT BACKSLANTED
SOUTH ARROW bBENT ARROW POINTING DOWNWARDS THEN NORTH EAST bDOWN TACK dWITH OVERBAR bLEFT TACK
bRIGHTWARDS ARROW ABOVE LEFTWARDS ARROW bSLANTED NORTH ARROW bUP TACK dABOVE SHORT DOWN TACK dWITH
UNDERBAR aSHORTCAKE aSHORTHAND FORMAT CONTINUING OVERLAP cDOWN STEP cLETTER OVERLAP cUP STEP
aSHORTS aSHOULDERED OPEN BOX aSHOWER aSHRIMP aSHRUG aSHUFFLE PRODUCT aSHY aSI aSIDDHAM DANDA
bDOUBLE DANDA bEND OF TEXT MARK bLETTER A cAA cAI cALTERNATE U cAU cBA cBHA cCA cCHA cDA cDDA
cDDHA cDHA cE cGA cGHA cHA cI cII cJA cJHA cKA cKHA cLA cMA cNA cNGA cNNA cNYA cO cPA cPHA cRA cSA
cSHA cSSA cTA cTHA cTHREE-CIRCLE ALTERNATE I cTTA cTTHA cTWO-CIRCLE ALTERNATE I eII cU cUU cVA
cVOCALIC L dLL dR dRR cYA bREPETITION MARK-1 cMARK-2 cMARK-3 bSECTION MARK DOUBLE RING fWITH RAYS
dWITH CIRCLES AND FOUR ENCLOSURES gRAYS gTWO ENCLOSURES eDOUBLE CRESCENTS eQUADRUPLE CRESCENTS
eRAYS AND DOTTED CRESCENTS hDOUBLE CRESCENTS hTRIPLE CRESCENTS eSEPTUPLE CRESCENTS eTRIDENT AND
DOTTED CRESCENTS gU-SHAPED ORNAMENTS eTRIPLE CRESCENTS bSEPARATOR BAR cDOT bSIGN ANUSVARA
cCANDRABINDU cNUKTA cSIDDHAM cVIRAMA cVISARGA bVOWEL SIGN AA dAI dALTERNATE U eUU dAU dE dI dII dO
dU dUU dVOCALIC R eRR aSIDEWAYS BLACK DOWN POINTING INDEX cLEFT POINTING INDEX cRIGHT POINTING
INDEX cUP POINTING INDEX bWHITE DOWN POINTING INDEX cLEFT POINTING INDEX cRIGHT POINTING INDEX cUP
POINTING INDEX aSIGN OF THE HORNS aSIGNWRITING AIR BLOW SMALL ROTATIONS cBLOWING OUT cSUCK SMALL
ROTATIONS cSUCKING IN bBREATH EXHALE cINHALE bBRUSH BETWEEN cMULTIPLE cSINGLE bCHEEKS NEUTRAL
cPUFFED cSUCKED bCOLON bCOMMA bDREAMY EYEBROWS DOWN NEUTRAL dNEUTRAL DOWN eUP dUP NEUTRAL bDYNAMIC
ARROWHEAD LARGE dSMALL cEVERY OTHER TIME cFAST cGRADUAL cRELAXED cSIMULTANEOUS dALTERNATING cSLOW
cTENSE bEARS bEXCITEMENT bEYE BLINK MULTIPLE dSINGLE cWINK bEYEBROWS STRAIGHT DOWN dNEUTRAL dUP
bEYEGAZE-FLOORPLANE CURVED cSTRAIGHT dALTERNATING dDOUBLE bEYEGAZE-WALLPLANE CIRCLING cCURVED
cSTRAIGHT dALTERNATING dDOUBLE bEYELASHES DOWN cFLUTTERING cUP bEYES CLOSED cHALF CLOSED dOPEN
cOPEN cSQUEEZED cWIDE OPEN cWIDENING MOVEMENT bFACE DIRECTION POSITION NOSE FORWARD TILTING fUP OR
DOWN iTILTING bFILL MODIFIER-2 cMODIFIER-3 cMODIFIER-4 cMODIFIER-5 cMODIFIER-6 bFINGER bFLICK
LARGE MULTIPLE dSINGLE cSEQUENTIAL cSMALL MULTIPLE dSINGLE bFLOORPLANE SHOULDER HIP MOVE bFOREHEAD
CONTACT cNEUTRAL cWRINKLED bFULL STOP bGRASP BETWEEN cMULTIPLE cSINGLE bHAIR bHAND-ANGLE cINDEX
dMIDDLE LITTLE eRING dRING LITTLE fOUT dTHUMB eIN eOUT cLITTLE INDEX eTHUMB INDEX THUMB hOUT dUP
cMIDDLE RING LITTLE fIN fOUT cRING DOWN MIDDLE THUMB INDEX CROSS dLITTLE bHAND-CIRCLE cINDEX dBENT
dHINGE dMIDDLE eCROSS LITTLE eCROSSED eLITTLE eRING eTHUMB dRING LITTLE cLITTLE INDEX dUP cMIDDLE
RING LITTLE fBENT dUP cRING LITTLE bHAND-CLAW cFOUR FINGERS CONJOINED cINDEX THUMB CURVE THUMB
INSIDE cMIDDLE RING LITTLE CONJOINED gSIDE cNO THUMB cTHUMB FORWARD dSIDE bHAND-CUP cFIVE FINGERS
SPREAD fOPEN cINDEX dRING LITTLE dTHUMB eOPEN cMIDDLE RING LITTLE cNO THUMB cOPEN dNO THUMB dTHUMB
FORWARD eSIDE cTHUMB FORWARD dSIDE bHAND-CURLICUE cINDEX RING LITTLE ON cMIDDLE RING LITTLE ON
cOPEN bHAND-FIST cFOUR FINGERS CONJOINED BENT cHEEL cINDEX dBENT eOVER MIDDLE dCUPPED dHINGED eLOW
eMIDDLE UP gTHUMB SIDE dMIDDLE eBENT fTHUMB STRAIGHT eCONJOINED fCUPPED gTHUMB FORWARD fHINGED
gTHUMB SIDE fINDEX BENT fMIDDLE BENT fTHUMB FORWARD gSIDE hBENT hCONJOINED eCROSS LITTLE eCROSSED
fTHUMB SIDE eHINGED fSPREAD THUMB SIDE eLITTLE eRAISED KNUCKLES eRING fBENT fCONJOINED eSTRAIGHT
THUMB BENT eTHUMB fANGLED gOUT fBENT fCIRCLED fCONJOINED HINGED fCUPPED fHINGED fHOOKED eUP SPREAD
THUMB FORWARD dRAISED KNUCKLE dRING LITTLE dTHUMB ANGLED IN MIDDLE UP fOUT MIDDLE UP eCIRCLE
eCIRCLED MIDDLE UP eCUPPED MIDDLE UP eCURLICUE eCURVE THUMB INSIDE gUNDER eFORWARD INDEX BENT
gSTRAIGHT eHOOK eHOOKED MIDDLE HINGED gUP eSIDE fBOTH BENT fINDEX BENT gHINGE fTHUMB BENT
gCONJOINED gDIAGONAL dUP MIDDLE HINGED gTHUMB CONJOINED hSIDE cLITTLE BENT dDOWN eOTHERS CIRCLED
eRIPPLE CURVED fSTRAIGHT dINDEX eTHUMB dRAISED KNUCKLE dTHUMB dTOUCHES THUMB dUP cMIDDLE BENT OVER
INDEX dDOWN dLITTLE dRAISED KNUCKLE dRING LITTLE dTHUMB ANGLED INDEX UP fOUT INDEX CROSSED hUP
eCIRCLED INDEX HINGED gUP eCUPPED INDEX UP eHOOKED INDEX UP eLITTLE dUP eTHUMB SIDE cRING DOWN
dINDEX dLITTLE dMIDDLE eCONJOINED eRAISED KNUCKLES dRAISED KNUCKLE dTHUMB dUP cTHUMB dBETWEEN
INDEX MIDDLE gSTRAIGHT eMIDDLE RING eRING LITTLE dFORWARD dHEEL dOVER FOUR RAISED KNUCKLES eTWO
FINGERS dSIDE BENT eCONJOINED eDIAGONAL dUNDER FOUR FINGERS eINDEX BENT eLITTLE UP eTHREE FINGERS
eTWO FINGERS bHAND-FLAT cBETWEEN PALM FACINGS cFIVE FINGERS SPREAD fBENT fFOUR BENT fHINGED gNO
THUMB gTHUMB SIDE fTHUMB FORWARD cFOUR FINGERS eBENT eCONJOINED fSPLIT eHINGED cHEEL dFIVE FINGERS
SPREAD gBENT gFOUR BENT dTHUMB SIDE cSPLIT CENTRE eTHUMB SIDE gBENT dINDEX THUMB SIDE dLITTLE
cTHUMB BENT dFORWARD dSIDE bHAND-HINGE cFIVE FINGERS SPREAD OPEN cFOUR FINGERS CONJOINED cINDEX
dHINGED dMIDDLE LITTLE eRING fCONJOINED dRING LITTLE dTHUMB eLARGE eOPEN eSIDE eSMALL cLITTLE
dINDEX eTHUMB dTHUMB cMIDDLE dRING LITTLE cNO THUMB cOPEN dNO THUMB dTHUMB FORWARD eSIDE cRING
dDOWN INDEX THUMB HOOK MIDDLE cSMALL cTHUMB BETWEEN MIDDLE RING dSIDE eTOUCHING INDEX bHAND-HOOK
cCURLICUE cINDEX RING LITTLE IN fOUT fUNDER cMIDDLE RING LITTLE CONJOINED gIN gOUT dTHUMB cRING
THUMB bHAND-OVAL cFIVE FINGERS SPREAD cINDEX cLITTLE UP cNO THUMB cRING LITTLE cTHUMB FORWARD
dSIDE bHEAD cMOVEMENT CIRCLE cMOVEMENT-FLOORPLANE CURVE dSTRAIGHT cMOVEMENT-WALLPLANE CURVE
dSTRAIGHT dTILT cRIM bLIMB COMBINATION cLENGTH-1 cLENGTH-2 cLENGTH-3 cLENGTH-4 cLENGTH-5 cLENGTH-6
cLENGTH-7 bLIP LOWER OVER UPPER cUPPER OVER LOWER bLIPS PRESSED TOGETHER bLOCATION DEPTH cHEAD
NECK cHEIGHT cLIMBS DIGITS cTORSO cWIDTH bLOCATION-FLOORPLANE SPACE bLOCATION-WALLPLANE SPACE
bMOUTH CLOSED CONTACT dFORWARD dNEUTRAL cCORNERS cFROWN dOPEN dWRINKLED cKISS dFORWARD dWRINKLED
cOPEN CIRCLE dFORWARD dOVAL eWRINKLED eYAWN dRECTANGLE eWRINKLED eYAWN dWRINKLED cSMILE dOPEN
dWRINKLED cTENSE dFORWARD dSUCKED cWRINKLES DOUBLE dSINGLE bMOVEMENT-DIAGONAL AWAY LARGE dLARGEST
dMEDIUM dSMALL cBETWEEN AWAY LARGE eLARGEST eMEDIUM eSMALL dTOWARDS LARGE eLARGEST eMEDIUM eSMALL
cTOWARDS LARGE dLARGEST dMEDIUM dSMALL bMOVEMENT-FLOORPLANE ARM CIRCLE HITTING WALL LARGE DOUBLE
hSINGLE gMEDIUM DOUBLE hSINGLE gSMALL DOUBLE hSINGLE cBEND cBOX LARGE dMEDIUM dSMALL cCHECK
cCORNER LARGE dMEDIUM dSMALL cCROSS cCURVE COMBINED dHITTING CEILING LARGE fSMALL eFLOOR LARGE
fSMALL dLARGE dLARGEST dMEDIUM dSMALL cDOUBLE ALTERNATING eWRIST FLEX dSTRAIGHT dWRIST FLEX
cFINGER CIRCLES HITTING WALL DOUBLE gSINGLE dCONTACT cHUMP HITTING CEILING LARGE DOUBLE gTRIPLE
fSMALL DOUBLE gTRIPLE eFLOOR LARGE DOUBLE fSMALL DOUBLE fTRIPLE LARGE TRIPLE gSMALL TRIPLE dSMALL
cJAW cLOOP HITTING CEILING LARGE DOUBLE gSINGLE fSMALL DOUBLE gSINGLE eFLOOR LARGE DOUBLE gSINGLE
fSMALL DOUBLE gSINGLE dSMALL cPEAKS LARGE dMEDIUM dSMALL cSHAKING PARALLEL cSINGLE STRAIGHT LARGE
eLARGEST eMEDIUM eSMALL dWRIST FLEX cTRIPLE ALTERNATING MOVEMENT eWRIST FLEX dSTRAIGHT MOVEMENT
dWRIST FLEX cWAVE HITTING CEILING LARGE fSMALL eFLOOR LARGE fSMALL dLARGE dSMALL dSNAKE cWRIST
CIRCLE HITTING WALL DOUBLE gSINGLE cZIGZAG LARGE dMEDIUM dSMALL bMOVEMENT-HINGE DOWN SEQUENTIAL
cSIDE TO SIDE SCISSORS cUP DOWN ALTERNATING LARGE fSMALL eLARGE eSMALL dSEQUENTIAL
bMOVEMENT-WALLPLANE ARM CIRCLE MEDIUM DOUBLE fSINGLE eSMALL DOUBLE fSINGLE cBEND LARGE dMEDIUM
dSMALL cBOX LARGE dMEDIUM dSMALL cCHECK LARGE dMEDIUM dSMALL cCORNER LARGE dMEDIUM dROTATION
dSMALL cCROSS cCURVE HALF-CIRCLE LARGE eLARGEST eMEDIUM eSMALL dHITTING CHEST eFRONT WALL dQUARTER
LARGE eLARGEST eMEDIUM eSMALL dTHEN STRAIGHT dTHREE-QUARTER CIRCLE MEDIUM fSMALL cCURVED CROSS
MEDIUM eSMALL cDOUBLE ALTERNATING eWRIST FLEX dSTRAIGHT dWRIST FLEX cFINGER CIRCLES DOUBLE eSINGLE
dCONTACT cHUMP HITTING CHEST eFRONT WALL dLARGE dMEDIUM dSMALL cJAW cLOOP HITTING CHEST eFRONT
WALL dLARGE dMEDIUM dSMALL eDOUBLE cPEAKS LARGE dMEDIUM dSMALL cSHAKING cSINGLE STRAIGHT LARGE
eLARGEST eMEDIUM eSMALL dWRIST FLEX cTRIPLE ALTERNATING eWRIST FLEX dSTRAIGHT MOVEMENT dWRIST FLEX
cWAVE CURVE DOUBLE LARGE fMEDIUM fSMALL eTRIPLE LARGE fMEDIUM fSMALL dDIAGONAL PATH LARGE fMEDIUM
fSMALL dHITTING CHEST eFRONT WALL cWRIST CIRCLE FRONT DOUBLE fSINGLE cZIGZAG LARGE dMEDIUM dSMALL
bNECK bNOSE CONTACT cNEUTRAL cWIGGLES cWRINKLES bPARENTHESIS bROTATION MODIFIER-10 cMODIFIER-11
cMODIFIER-12 cMODIFIER-13 cMODIFIER-14 cMODIFIER-15 cMODIFIER-16 cMODIFIER-2 cMODIFIER-3
cMODIFIER-4 cMODIFIER-5 cMODIFIER-6 cMODIFIER-7 cMODIFIER-8 cMODIFIER-9 bROTATION-FLOORPLANE
ALTERNATING dHITTING CEILING eFLOOR cDOUBLE dHITTING CEILING eFLOOR cSINGLE dHITTING CEILING
eFLOOR bROTATION-WALLPLANE ALTERNATE cALTERNATING HITTING CHEST eFRONT WALL cDOUBLE dHITTING CHEST
eFRONT WALL cSINGLE dHITTING CHEST eFRONT WALL bRUB BETWEEN cMULTIPLE cSINGLE bSEMICOLON bSHOULDER
HIP POSITIONS dSPINE cTILTING FROM WAIST bSQUEEZE FLICK ALTERNATING cLARGE MULTIPLE dSINGLE
cSEQUENTIAL cSMALL MULTIPLE dSINGLE bSTRIKE BETWEEN cMULTIPLE cSINGLE bSURFACE BETWEEN cSYMBOLS
bTEETH cBITE LIPS cMOVEMENT cON LIPS eMOVEMENT dTONGUE eMOVEMENT bTENSE CHEEKS HIGH dLOW dMIDDLE
bTONGUE CENTRE INSIDE MOUTH dSTICKING OUT cINSIDE MOUTH RELAXED cLICKING LIPS cMOVES AGAINST CHEEK
cSTICKING OUT FAR cTIP BETWEEN LIPS dTOUCHING INSIDE MOUTH bTORSO-FLOORPLANE TWISTING
bTORSO-WALLPLANE CURVED BEND cSTRAIGHT STRETCH bTOUCH BETWEEN cMULTIPLE cSINGLE bTRAVEL-FLOORPLANE
ROTATION-FLOORPLANE ALTERNATING dDOUBLE dSINGLE cROTATION-WALLPLANE ALTERNATING dDOUBLE dSINGLE
cSHAKING bTRAVEL-WALLPLANE ARM SPIRAL DOUBLE eSINGLE eTRIPLE cROTATION-FLOORPLANE ALTERNATING
dDOUBLE dSINGLE cROTATION-WALLPLANE ALTERNATING dDOUBLE dSINGLE cSHAKING bUPPER BODY TILTING FROM
HIP JOINTS bWALLPLANE SHOULDER HIP MOVE aSILHOUETTE OF JAPAN aSIMILAR ABOVE GREATER-THAN ABOVE
EQUALS SIGN cLESS-THAN ABOVE EQUALS SIGN bMINUS SIMILAR bOR GREATER-THAN cLESS-THAN aSINE WAVE
aSINGLE CHARACTER INTRODUCER bGRAPHIC CHARACTER INTRODUCER bHIGH-REVERSED-9 QUOTATION MARK
bLEFT-POINTING ANGLE QUOTATION MARK bLOW-9 QUOTATION MARK bRIGHT-POINTING ANGLE QUOTATION MARK
bSHIFT THREE cTWO aSINGLE-SHIFT-2 aSINGLE-SHIFT-3 aSINHALA ARCHAIC DIGIT EIGHT dFIVE dFOUR dNINE
dONE dSEVEN dSIX dTHREE dTWO cNUMBER EIGHTY dFIFTY dFORTY dNINETY dONE HUNDRED eTHOUSAND dSEVENTY
dSIXTY dTEN dTHIRTY dTWENTY bLETTER AAYANNA cAEEYANNA cAEYANNA cAIYANNA cALPAPRAANA BAYANNA
dCAYANNA dDAYANNA dDDAYANNA dGAYANNA dJAYANNA dKAYANNA dPAYANNA dTAYANNA dTTAYANNA cAMBA BAYANNA
cAUYANNA cAYANNA cDANTAJA LAYANNA dNAYANNA dSAYANNA cEEYANNA cEYANNA cFAYANNA cHAYANNA cIIYANNA
cILUUYANNA cILUYANNA cIRUUYANNA cIRUYANNA cIYANNA cKANTAJA NAASIKYAYA cMAHAAPRAANA BAYANNA
dCAYANNA dDAYANNA dDDAYANNA dGAYANNA dJAYANNA dKAYANNA dPAYANNA dTAYANNA dTTAYANNA cMAYANNA
cMUURDHAJA LAYANNA dNAYANNA dSAYANNA cOOYANNA cOYANNA cRAYANNA cSANYAKA DAYANNA dDDAYANNA dGAYANNA
dJAYANNA cTAALUJA NAASIKYAYA dSANYOOGA NAAKSIKYAYA dSAYANNA cUUYANNA cUYANNA cVAYANNA cYAYANNA
bLITH DIGIT EIGHT dFIVE dFOUR dNINE dONE dSEVEN dSIX dTHREE dTWO dZERO bPUNCTUATION KUNDDALIYA
bSIGN AL-LAKUNA cANUSVARAYA cCANDRABINDU cVISARGAYA bVOWEL SIGN AELA-PILLA dDIGA AEDA-PILLA
eGAETTA-PILLA eGAYANUKITTA eIS-PILLA eKOMBUVA ePAA-PILLA dGAETTA-PILLA dGAYANUKITTA dKETTI
AEDA-PILLA eIS-PILLA ePAA-PILLA dKOMBU DEKA dKOMBUVA eHAA AELA-PILLA fDIGA AELA-PILLA fGAYANUKITTA
aSIX PETALLED BLACK AND WHITE FLORETTE bPOINTED BLACK STAR cPINWHEEL STAR cSTAR WITH MIDDLE DOT
aSIX-PER-EM SPACE aSIXTEEN POINTED ASTERISK aSKATEBOARD aSKI AND SKI BOOT aSKIER aSKULL bAND
CROSSBONES aSKUNK aSLANTED EQUAL TO OR GREATER-THAN fWITH DOT INSIDE eLESS-THAN fWITH DOT INSIDE
bNORTH ARROW WITH HOOKED HEAD eHORIZONTAL TAIL aSLAVONIC ASTERISK aSLED aSLEEPING ACCOMMODATION
bFACE bSYMBOL aSLEEPY FACE aSLEUTH OR SPY aSLICE OF PIZZA aSLIGHTLY FROWNING FACE bSMILING FACE
aSLOPE aSLOPING LARGE AND cOR aSLOT MACHINE aSLOTH aSMALL AIRPLANE bAMPERSAND bASTERISK bBLUE
DIAMOND bCOLON bCOMMA bCOMMERCIAL AT bCONTAINS AS MEMBER cWITH OVERBAR dVERTICAL BAR AT END OF
HORIZONTAL STROKE bDOLLAR SIGN bELEMENT OF dWITH OVERBAR eVERTICAL BAR AT END OF HORIZONTAL STROKE
bEM DASH bEQUALS SIGN bEXCLAMATION MARK bFULL STOP bGREATER-THAN SIGN bHYPHEN-MINUS bIDEOGRAPHIC
COMMA bLEFT CURLY BRACKET cPARENTHESIS cTORTOISE SHELL BRACKET bLESS-THAN SIGN bNUMBER SIGN
bORANGE DIAMOND bPERCENT SIGN bPLUS SIGN bQUESTION MARK bREVERSE SOLIDUS bRIGHT CURLY BRACKET
cPARENTHESIS cTORTOISE SHELL BRACKET bROMAN NUMERAL EIGHT dELEVEN dFIFTY dFIVE eHUNDRED dFOUR
dNINE dONE eHUNDRED eTHOUSAND dSEVEN dSIX dTEN dTHREE dTWELVE dTWO bSEMICOLON bTILDE bTWO DOTS
OVER ONE DOT PUNCTUATION bVEE WITH UNDERBAR aSMALLER THAN cOR EQUAL TO aSMASH PRODUCT aSMILE
aSMILING CAT FACE WITH HEART-SHAPED EYES eOPEN MOUTH bFACE WITH HALO dHEART-SHAPED EYES dHORNS
dOPEN MOUTH fAND COLD SWEAT gSMILING EYES gTIGHTLY-CLOSED EYES dSMILING EYES fAND HAND COVERING
MOUTH gTHREE HEARTS dSUNGLASSES dTEAR aSMIRKING FACE aSMOKING SYMBOL aSNAIL aSNAKE aSNEEZING FACE
aSNOW CAPPED MOUNTAIN aSNOWBOARDER aSNOWFLAKE aSNOWMAN bWITHOUT SNOW aSO aSOCCER BALL aSOCKS aSOFT
HYPHEN bICE CREAM bSHELL FLOPPY DISK aSOFTBALL aSOFTWARE-FUNCTION SYMBOL aSOGDIAN COMBINING CURVE
ABOVE dBELOW cDOT ABOVE dBELOW cHOOK ABOVE dBELOW cLONG HOOK BELOW cRESH BELOW cSTROKE BELOW cTWO
DOTS ABOVE eBELOW bINDEPENDENT SHIN bLETTER ALEPH cAYIN cBETH cFETH cGIMEL cHE cHETH cKAPH cLAMEDH
cLESH cMEM cNUN cPE cRESH-AYIN cSADHE cSAMEKH cSHIN cTAW cWAW cYODH cZAYIN bNUMBER ONE dHUNDRED
cTEN cTWENTY bPUNCTUATION CIRCLE WITH DOT cHALF CIRCLE WITH DOT cTWO CIRCLES WITH DOTS dVERTICAL
BARS fWITH DOTS aSOH aSOLID QUILT SQUARE ORNAMENT eIN BLACK SQUARE aSOLIDUS bWITH OVERBAR aSOM
SIGN aSOON WITH RIGHTWARDS ARROW ABOVE aSORA SOMPENG DIGIT EIGHT dFIVE dFOUR dNINE dONE dSEVEN
dSIX dTHREE dTWO dZERO cLETTER AH dBAH dCAH dDAH dEEH dEH dGAH dHAH dIH dJAH dKAH dLAH dMAE dMAH
dNAH dNGAH dNYAH dOH dPAH dRAH dSAH dTAH dUH dVAH dYAH aSOS aSOUND RECORDING COPYRIGHT aSOUTH EAST
ARROW dAND SOUTH WEST ARROW dCROSSING NORTH EAST ARROW dTO CORNER dWITH HOOK cBLACK ARROW cDOUBLE
ARROW cPOINTING BUD dLEAF dVINE LEAF cSANS-SERIF ARROW cTRIANGLE-HEADED ARROW eTO BAR cWHITE ARROW
bWEST ARROW dAND NORTH WEST ARROW dWITH HOOK cBLACK ARROW cDOUBLE ARROW cPOINTING BUD dLEAF dVINE
LEAF cSANS-SERIF ARROW cTRIANGLE-HEADED ARROW eTO BAR cWHITE ARROW aSOYOMBO CLUSTER-INITIAL LETTER
LA dRA dSA dSHA bFINAL CONSONANT SIGN -A eB eD eG eK eL eM eN eNG eR eS eSH bGEMINATION MARK bHEAD
MARK WITH MOON AND SUN hAND FLAME iTRIPLE FLAME bLETTER -A cA cBA cBHA cCA cCHA cDA cDDA cDDHA
cDHA cDZA cGA cGHA cHA cJA cJHA cKA cKHA cKSSA cLA cMA cNA cNGA cNNA cNYA cPA cPHA cRA cSA cSHA
cSSA cTA cTHA cTSA cTSHA cTTA cTTHA cVA cYA cZA cZHA bMARK DOUBLE SHAD cPLUTA cSHAD cTSHEG bSIGN
ANUSVARA cJIHVAMULIYA cUPADHMANIYA cVISARGA bSUBJOINER bTERMINAL MARK-1 cMARK-2 bVOWEL LENGTH MARK
cSIGN AI dAU dE dI dO dOE dU dUE dVOCALIC L eR aSP aSPA aSPACE aSPAGHETTI aSPARKLE aSPARKLES
aSPARKLING HEART aSPEAK-NO-EVIL MONKEY aSPEAKER bWITH CANCELLATION STROKE cONE SOUND WAVE cTHREE
SOUND WAVES aSPEAKING HEAD IN SILHOUETTE aSPEECH BALLOON aSPEEDBOAT aSPESMILO SIGN aSPHERICAL
ANGLE cOPENING LEFT dUP aSPIDER bWEB aSPIRAL CALENDAR PAD bNOTE PAD bSHELL aSPLASHING SWEAT SYMBOL
aSPONGE aSPOOL OF THREAD aSPOON aSPORTS MEDAL aSPOUTING WHALE aSQUARE A OVER M bAARU bAM bANPEA
bAPAATO bARUHUA bAU bBAARERU bBAR bBEETA bBIRU bBORUTO bBQ bBUSSYERU bC OVER KG bCAL bCAP bCC bCD
bCM cCUBED cSQUARED bCO bCORPORATION bCUP bDA bDAASU bDB bDESI bDJ bDL bDM cCUBED cSQUARED bDORU
bEEKAA bERA NAME HEISEI dMEIZI dREIWA dSYOUWA dTAISYOU bERG bESUKUUDO bEV bFM bFOOT bFOUR CORNERS
bGAL bGANMA bGARON bGB bGHZ bGIGA bGINII bGIRUDAA bGPA bGURAMU bGURAMUTON bGY bHA bHAITU
bHEKUTAARU bHERUTU bHG bHIRAGANA HOKA bHON bHOON bHOORU bHP bHPA bHUARADDO bHUIITO bHURAN bHZ
bIMAGE OF dOR EQUAL TO eNOT EQUAL TO bIN bININGU bINTI bIU bK OHM bKA bKAIRI bKARATTO bKARORII bKB
bKCAL bKEESU bKG bKHZ bKIRO bKIROGURAMU bKIROMEETORU bKIROWATTO bKK bKL bKM cCAPITAL cCUBED
cSQUARED bKOOPO bKORUNA bKPA bKT bKUROONE bKURUZEIRO bKV bKW bKYURII bLEFT OPEN BOX OPERATOR bLM
bLN bLOG bLOZENGE bLX bM CUBED cOHM cOVER S eSQUARED cSQUARED bMA bMAHHA bMAIKURO bMAIRU bMANSYON
bMARUKU bMB cSMALL bMEETORU bMEGA bMEGATON bMG bMHZ bMIKURON bMIL bMIRI bMIRIBAARU bML bMM cCUBED
cSQUARED bMOL bMPA bMS bMU A cF cG cL cM cS cV cW bMV cMEGA bMW cMEGA bNA bNANO bNF bNM bNOTTO bNS
bNV bNW bONSU bOOMU bORIGINAL OF dOR EQUAL TO eNOT EQUAL TO bOV bPA cAMPS bPAASENTO bPAATU bPC
bPEEZI bPENIHI bPENSU bPESO bPF bPH bPIASUTORU bPIKO bPIKURU bPM bPOINTO bPONDO bPOSITION
INDICATOR bPPM bPR bPS bPV bPW bRAD cOVER S eSQUARED bREMU bRENTOGEN bRIGHT OPEN BOX OPERATOR
bRIRA bRITTORU bROOT bRUPII bRUUBURU bSAIKURU bSANTIIMU bSENTI bSENTO bSIRINGU bSR bSV bTARGET
bTHZ bTON bUON bV OVER M bWATTO bWB bWITH BOTTOM HALF BLACK cCONTOURED OUTLINE cDIAGONAL
CROSSHATCH FILL cHORIZONTAL FILL cLEFT HALF BLACK cLOWER LEFT DIAGONAL HALF BLACK dRIGHT DIAGONAL
HALF BLACK cORTHOGONAL CROSSHATCH FILL cRIGHT HALF BLACK cTOP HALF BLACK cUPPER LEFT DIAGONAL HALF
BLACK eTO LOWER RIGHT FILL dRIGHT DIAGONAL HALF BLACK eTO LOWER LEFT FILL cVERTICAL FILL bYAADO
bYAARU bYUAN aSQUARED ASTERISK bCJK UNIFIED IDEOGRAPH-4E00 dIDEOGRAPH-4E09 dIDEOGRAPH-4E2D
dIDEOGRAPH-4E8C dIDEOGRAPH-4EA4 dIDEOGRAPH-518D dIDEOGRAPH-521D dIDEOGRAPH-524D dIDEOGRAPH-5272
dIDEOGRAPH-53CC dIDEOGRAPH-53F3 dIDEOGRAPH-5408 dIDEOGRAPH-5439 dIDEOGRAPH-55B6 dIDEOGRAPH-58F0
dIDEOGRAPH-591A dIDEOGRAPH-5929 dIDEOGRAPH-5B57 dIDEOGRAPH-5DE6 dIDEOGRAPH-5F8C dIDEOGRAPH-624B
dIDEOGRAPH-6253 dIDEOGRAPH-6295 dIDEOGRAPH-6307 dIDEOGRAPH-6355 dIDEOGRAPH-6599 dIDEOGRAPH-65B0
dIDEOGRAPH-6620 dIDEOGRAPH-6708 dIDEOGRAPH-6709 dIDEOGRAPH-6E80 dIDEOGRAPH-6F14 dIDEOGRAPH-7121
dIDEOGRAPH-751F dIDEOGRAPH-7533 dIDEOGRAPH-7981 dIDEOGRAPH-7A7A dIDEOGRAPH-7D42 dIDEOGRAPH-89E3
dIDEOGRAPH-8CA9 dIDEOGRAPH-8D70 dIDEOGRAPH-904A dIDEOGRAPH-914D bCL bCOOL bDOT OPERATOR bEIGHT K
bFALLING DIAGONAL SLASH bFIVE POINT ONE bFOUR DOT PUNCTUATION cK bFREE bHC bHDR bHI-RES bHV bID
bKATAKANA DE cKOKO cSA bKEY bLATIN CAPITAL LETTER A eB eC eD eE eF eG eH eI eJ eK eL eM eN eO eP
eQ eR eS eT eU eV eW eX eY eZ cSMALL LETTER D bLOGICAL AND cOR bLOSSLESS bMINUS bMV bNEW bNG bOK
bONE HUNDRED TWENTY P bPLUS bPPV bRISING DIAGONAL SLASH bSALTIRE bSD bSECOND SCREEN bSEVEN POINT
ONE bSHV bSIXTY P bSMALL CIRCLE bSOS bSQUARE bSS bTHREE D bTIMES bTWENTY-TWO POINT TWO bTWO K bUHD
bUP WITH EXCLAMATION MARK bVOD bVS bWC aSQUAT BLACK RIGHTWARDS ARROW aSQUID aSS2 aSS3 aSSA aST
aSTADIUM aSTAFF OF AESCULAPIUS cHERMES aSTAMPED ENVELOPE aSTANDING PERSON aSTAR AND CRESCENT
bEQUALS bOF DAVID bOPERATOR bWITH LEFT HALF BLACK cRIGHT HALF BLACK aSTART OF GUARDED AREA
cHEADING cPROTECTED AREA cSELECTED AREA cSTRING cTEXT aSTATION aSTATUE OF LIBERTY aSTEAM
LOCOMOTIVE aSTEAMING BOWL aSTENOGRAPHIC FULL STOP aSTETHOSCOPE aSTICK FIGURE cLEANING LEFT dRIGHT
cWITH ARMS RAISED dDRESS aSTOCK CHART aSTOPWATCH aSTRAIGHT RULER aSTRAIGHTNESS aSTRAWBERRY aSTRESS
OUTLINED WHITE STAR aSTRICTLY EQUIVALENT TO aSTRING TERMINATOR aSTS aSTUDIO MICROPHONE aSTUFFED
FLATBREAD aSTUPA aSTX aSUB aSUBSCRIPT EIGHT bEQUALS SIGN bFIVE bFOUR bLEFT PARENTHESIS bMINUS
bNINE bONE bPLUS SIGN bRIGHT PARENTHESIS bSEVEN bSIX bTHREE bTWO bZERO aSUBSET ABOVE RIGHTWARDS
ARROW cSUBSET cSUPERSET bOF cABOVE ALMOST EQUAL TO dEQUALS SIGN dNOT EQUAL TO dTILDE OPERATOR cOR
EQUAL TO fWITH DOT ABOVE cWITH NOT EQUAL TO bWITH DOT cMULTIPLICATION SIGN BELOW cPLUS SIGN BELOW
aSUBSTITUTE aSUCCEEDS bABOVE ALMOST EQUAL TO cEQUALS SIGN cNOT ALMOST EQUAL TO dEQUAL TO
cSINGLE-LINE EQUALS SIGN dNOT EQUAL TO bBUT NOT EQUIVALENT TO bOR EQUAL TO cEQUIVALENT TO bUNDER
RELATION aSUMMATION BOTTOM bTOP bWITH INTEGRAL aSUN bBEHIND CLOUD bWITH FACE aSUNDANESE AVAGRAHA
bCONSONANT SIGN PAMINGKAL dPANYAKRA dPANYIKU dPASANGAN MA eWA bDIGIT EIGHT cFIVE cFOUR cNINE cONE
cSEVEN cSIX cTHREE cTWO cZERO bLETTER A cAE cBA cBHA cCA cDA cE cEU cFA cFINAL K dM cGA cHA cI cJA
cKA cKHA cLA cLEU cMA cNA cNGA cNYA cO cPA cQA cRA cREU cSA cSYA cTA cU cVA cWA cXA cYA cZA
bPUNCTUATION BINDU BA SATANGA dCAKRA dDA SATANGA dKA SATANGA dLEU SATANGA dPANGLONG dPURNAMA
dSURYA bSIGN PAMAAEH cPANGLAYAR cPANGWISAD cPANYECEK cVIRAMA bVOWEL SIGN PAMEPET dPANAELAENG
dPANEULEUNG dPANGHULU dPANOLONG dPANYUKU aSUNFLOWER aSUNRISE bOVER MOUNTAINS aSUNSET OVER
BUILDINGS aSUPERHERO aSUPERSCRIPT EIGHT bEQUALS SIGN bFIVE bFOUR bLATIN SMALL LETTER I eN bLEFT
PARENTHESIS bMINUS bNINE bONE bPLUS SIGN bRIGHT PARENTHESIS bSEVEN bSIX bTHREE bTWO bZERO
aSUPERSET ABOVE LEFTWARDS ARROW cSUBSET cSUPERSET bBESIDE AND JOINED BY DASH WITH SUBSET cSUBSET
bOF cABOVE ALMOST EQUAL TO dEQUALS SIGN dNOT EQUAL TO dTILDE OPERATOR cOR EQUAL TO fWITH DOT ABOVE
cWITH NOT EQUAL TO bPRECEDING SOLIDUS bWITH DOT cMULTIPLICATION SIGN BELOW cPLUS SIGN BELOW
aSUPERVILLAIN aSURFACE INTEGRAL aSURFER aSUSHI aSUSPENSION RAILWAY aSWAN aSWASH AMPERSAND ORNAMENT
aSWIMMER aSWUNG DASH aSYLOTI NAGRI LETTER A dBHO dBO dCHO dCO dDDHO dDDO dDHO dDO dE dGHO dGO dHO
dI dJHO dJO dKHO dKO dLO dMO dNO dO dPHO dPO dRO dRRO dSO dTHO dTO dTTHO dTTO dU cPOETRY MARK-1
dMARK-2 dMARK-3 dMARK-4 cSIGN ALTERNATE HASANTA dANUSVARA dDVISVARA dHASANTA cVOWEL SIGN A eE eI
eOO eU aSYMBOL FOR ACKNOWLEDGE cBACKSPACE cBELL cCANCEL cCARRIAGE RETURN cDATA LINK ESCAPE cDELETE
dFORM TWO cDEVICE CONTROL FOUR eONE eTHREE eTWO cEND OF MEDIUM eTEXT eTRANSMISSION fBLOCK cENQUIRY
cESCAPE cFILE SEPARATOR cFORM FEED cGROUP SEPARATOR cHORIZONTAL TABULATION cLINE FEED cMARKS
CHAPTER cNEGATIVE ACKNOWLEDGE cNEWLINE cNULL cRECORD SEPARATOR cSAMARITAN SOURCE cSHIFT IN dOUT
cSPACE cSTART OF HEADING eTEXT cSUBSTITUTE dFORM TWO cSYNCHRONOUS IDLE cTYPE A ELECTRONICS cUNIT
SEPARATOR cVERTICAL TABULATION aSYMMETRY aSYN aSYNAGOGUE aSYNCHRONOUS IDLE aSYRIAC ABBREVIATION
MARK bBARREKH bCOLON SKEWED LEFT dRIGHT bCONTRACTION bDOTTED ZLAMA ANGULAR dHORIZONTAL bEND OF
PARAGRAPH bESASA ABOVE cBELOW bFEMININE DOT bHARKLEAN ASTERISCUS cMETOBELUS cOBELUS bHBASA ABOVE
cBELOW bHBASA-ESASA DOTTED bHORIZONTAL COLON bLETTER ALAPH cBETH cDALATH cDOTLESS DALATH RISH cE
cFINAL SEMKATH cGAMAL dGARSHUNI cHE cHETH cKAPH cLAMADH cMALAYALAM BHA dJA dLLA dLLLA dNGA dNNA
dNNNA dNYA dRA dSSA dTTA cMIM cNUN cPE cPERSIAN BHETH dDHALATH dGHAMAL cQAPH cREVERSED PE cRISH
cSADHE cSEMKATH cSHIN cSOGDIAN FE dKHAPH dZHAIN cSUPERSCRIPT ALAPH cTAW cTETH dGARSHUNI cWAW cYUDH
dHE cZAIN bMUSIC bOBLIQUE LINE ABOVE dBELOW bPTHAHA ABOVE cBELOW cDOTTED bQUSHSHAYA bRBASA ABOVE
cBELOW bRUKKAKHA bRWAHA bSUBLINEAR COLON dSKEWED LEFT eRIGHT cFULL STOP bSUPRALINEAR COLON dSKEWED
LEFT cFULL STOP bTHREE DOTS ABOVE dBELOW bTWO VERTICAL DOTS ABOVE eBELOW bZQAPHA ABOVE cBELOW
cDOTTED aSYRINGE"

end NetLookup.Text.CharacterName
