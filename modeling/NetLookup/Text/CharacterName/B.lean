/-! # Names of characters that begin with B -/

namespace NetLookup.Text.CharacterName

def bNames : String := "
aBABY bANGEL bBOTTLE bCHICK bSYMBOL aBACK OF ENVELOPE bWITH LEFTWARDS ARROW ABOVE aBACK-TILTED
SHADOWED WHITE RIGHTWARDS ARROW aBACKSLANTED SOUTH ARROW WITH HOOKED TAIL eHORIZONTAL TAIL
aBACKSPACE aBACON aBACTRIAN CAMEL aBADGER aBADMINTON RACQUET AND SHUTTLECOCK aBAGEL aBAGGAGE CLAIM
aBAGUETTE BREAD aBALINESE ADEG ADEG bCARIK PAMUNGKAH cPAREREN cSIKI bDIGIT EIGHT cFIVE cFOUR cNINE
cONE cSEVEN cSIX cTHREE cTWO cZERO bLETTER AIKARA cAKARA dTEDUNG cARCHAIC JNYA cASYURA SASAK cBA
dKEMBANG cCA dLACA cDA dMADU dMURDA ALPAPRANA eMAHAPRANA cEF SASAK cEKARA cGA dGORA cHA cIKARA
dTEDUNG cJA dJERA cKA dMAHAPRANA cKAF SASAK cKHOT SASAK cLA dLENGA eTEDUNG cMA cNA dRAMBAT cNGA
cNYA cOKARA dTEDUNG cPA dKAPAL cRA dREPA eTEDUNG cSA dSAGA dSAPA cTA dLATIK dMURDA MAHAPRANA dTAWA
cTZIR SASAK cUKARA dTEDUNG cVE SASAK cWA cYA cZAL SASAK bMUSICAL SYMBOL COMBINING BENDE eENDEP
eGONG eJEGOGAN eKEMPLI fWITH JEGOGAN eKEMPUL fWITH JEGOGAN eTEGEH dDAENG dDAING dDANG eGEDE
eSURANG dDENG dDEUNG dDING dDONG dDUNG dLEFT-HAND CLOSED PLAK fPLUK eOPEN PANG fPING fPUNG
dRIGHT-HAND CLOSED TAK fTUK eOPEN DAG fDUG bPAMADA cLANTANG bPAMENENG bPANTI cLANTANG bSIGN BISAH
cCECEK cREREKAN cSURANG cULU CANDRA dRICEM bVOWEL SIGN LA LENGA fTEDUNG dPEPET eTEDUNG dRA REPA
fTEDUNG dSUKU eILUT dTALING eREPA fTEDUNG eTEDUNG dTEDUNG dULU eSARI bWINDU aBALL OF YARN aBALLET
SHOES aBALLOON aBALLOON-SPOKED ASTERISK aBALLOT BOLD SCRIPT X bBOX cWITH BALLOT dBOLD CHECK
eSCRIPT X dCHECK dLIGHT X dSCRIPT X dX bSCRIPT X bX aBAMUM COLON bCOMBINING MARK KOQNDON
dTUKWENTIS bCOMMA bFULL STOP bLETTER A cEE cFAAMAE cFEE cFOM cFU cI cKA cKEN cKET cKEUX cKI cKO
cKOGHOM cKOVUU cKPA cKU cKYEE cLA cLEEEE cLI cLOQ cLU cM cMA cMBAA cMBEN cMEEEE cMEN cMI cMO cMU
cNA cNDAA cNGA cNGGA cNGKWAEN cNI cNJAEM cNJEE cNJUAE cNSHA cNTEE cNTUU cNU cNUAE cNYI cO cPA cPEE
cPEUX cPHASE-A FIRI dGBIEE FON dGHEUAEGHEUAE dGHEUAERAE dKAFA dKAQ dKET dKEUKEUTNDA dKPOQ dKUOQ
dLAPAQ dLET KUT dLOMMAE dLU dLUAEP dMAEKEUP dMAEM dMAEMBGBIEE dMAEMKPEN dMAEMVEUX dMAENYI dMAESI
dMANSUAE dMAP PIEET dMBANYI dMBAQ dMEUNJOMNDEUQ dMGBASA dMON NGGEUAET dMOOMEUT dMOOMPUQ
dMVEUAENGAM dNAA MFON dNAQ dNDA LEERAEWA dNDAANGGEUAET dNEN dNGANGU dNGGEN dNGKUE MFON dNGKUENZEUM
dNIKA dNJAM dNKAARAE dNKINDI dNSHA dNSHIEE dNTAP eMFAA eNTAA dNTOQPEN dNYET dNYI dNYIT MONGKEUAEQ
dNZA MFON dNZUN MEUT dPA LEERAEWA dPAAM dPAARAE dPAMSHAE dPASHAE dPET dPON MFON PIPAEMBA
fPIPAEMGBIEE ePA NJI PIPAEMBA gPIPAEMGBIEE dPUP dROM dSEUNYAM dSHINDA PA NJI dSHIRAE dSHOQ NSHUT
YUM dSHUENSHUET dSHUM dSISA dSONJAM dSOQ dSOT dSUU dTEUAEN dTEUTEUWEN dTITA MFON dTU MAEMBA dTUAEP
dU YUQ NAE dUNKNOWN dVEE cPHASE-B FEE dFEUX dGHEUGHEN dGHEUGHEUAEM dKAM dKEUAEM dKEUPUQ dKEUYEUX
dKIEEM dKIQ dLAANAE dLAM NSHUT NYAM dLET dLOM NTEUM dMA eNJEUAENA eNJUQA dMBA MAELEE dMBAARAE
dMBEURI dMBIT MBAAKET dMBUOQ dMEUQ dMEUT NGGEET dMFIYAQ dMFON TEUAEQ dMONTIEEN dNDU NJAA dNGGAAM
dNGGEU MBU dNGGUOQ eLARGE dNGKINDI MVOP dNGOM dNSEN dNSHUET dNTIEE SHEUOQ dNYAEMAE dNYI NTEUM
dPARUM dPEESHI dPIT dPUNGAAM dSAKEUAE dSET TU dSHET NJAQ dSHEUAEQTU dSIEE dSUE dTAAM dTU MAEMGBIEE
eNSIEE dVEUM dWUAET dYAFU LEERAEWA dYEURAE cPHASE-C BUNG dFUE dGBAYI dGHAP dGHARAE dKAA dKEN
FATIGUE eLAW dKET dKEUKAQ dKEUM dKEUSEUX dKEUSHEUAEP dKPARAQ dKUOP NKAARAE dKUT dLAM dLAP dLIQ dLU
dMA KEUAERI eNSIEE dMAEMBA dMAESI dMBAA CABBAGE-TREE ePICKET dMBANYI dMBEEKEET dMBERAE dMBEUM
dMBEUX dMBI dMBIRIEEN dMBIT dMBUAEM dMBUE dMGBASAQ dMIEE dMUAE dNANSANAQ dNAQ dNDAM dNDAP
dNDEUAEREE dNDEUT dNDIDA dNDOMBU dNGAQ dNGGEN dNGGU dNGGUAEN NYAM dNGGUEET dNGGUM dNGGUON dNGKAQ
dNGKUE MAEMBA dNGOM dNJAEM dNJAM dNJEEEE dNJEUX dNJUEQ dNSA dNSEUAEN dNSHAQ dNSOM dNSUN dNSUOT
NGOM dNTAA dNTEN dNTEUNGBA dNTU MBIT dNYIR MKPARAQ MEUN dNZA dNZEUM dPEN dPIN dPIRIEEN dRU dSETFON
dSEUX dSHIQ dSHUEQ dSUAET dTAASHAE dTET dTEUTEUX dTITA YUE dTITUAEP dVEUAEPEN dVEUX dWANGKUOQ dWUP
dYAA dYEUQ dYU MUOMAE dYUM dYUWOQ cPHASE-D FAA dFEUFEUAET dGHAA dGHEUAE dKET dKEUAETMEUN dKEUM
dKEUOT MBUAE dKEUP dKU dKUN dKUOM dKUQ dKWAET dKYEE dLEEEE dLET dLEUAEP dLEUM dLIEE dLOQ dLUM dM
dMAENJET dMALEERI dMBAA eSEVEN dMBUO dMEEEE dMEUN dMEUT dMFEUAE dMFEUT dMFIEE dMFO dMFON dMGBEUN
dMGBIEE dMGBOFUM dMONI dMU dMVOP dNDAM dNDEE dNDEUX dNDON dNGGAAM dNGGAAMAE dNGGAP dNGGEUX dNGGUOM
dNGGWAEN dNGKAP dNGKEUAEQ dNGKEURI dNGKIEE dNGKUN dNGKYEE dNI dNJAP dNJEUAEM dNJEUT dNJI dNJIEE
dNJUEQ dNSHEE dNSHUT dNSIEEP dNSIEET dNSUM dNTEE dNTEUM dNTUU dNU dNYAM dNYET dNYI dNYUE dPAP dPEE
dPEUTAE dPIP dPUQ dPUUT dRAEM dREN MUCH eOLD dRII dSAP dSAQ dSEUAEQ dSHEE dSHEUAE dSHEUX dSHII
dSHOQ dSHU dSOT dSUAE dSUE dSUU dTAE dTEEEE dTEUAEN dTEUN dTEUT dTI dTOQ dTU dTUOT dWAP dWUAEN
dYAEMMAE dYEN dYUOM dYUOP dYUWOQ cPHASE-E A dFA dFAQ dFEE dFOM dFU CALL eI eREMEDY dFUE dFUET
dGBET dGBEUX dGHAAMAE dGHET dGHEUAE dGHEUN dGHEUX dGHOM dI dKET dKEUAE dKEUX dKI dKO dKPEUX dKUET
dKUOP dKUT dLAAM dLAP dLAQ dLEUAEM dLOM dLOON dLOOT dLOQ dLU dMA dMAE dMAEM dMAP dMAQ dMBEE dMBEUM
dMEN dMFEUQ dMGBA dMGBEN dMI dMIEE dMON dMUAE dMVI dNA dNAE dNDAA MY HOUSE eSOFTNESS dNDAP dNDIAQ
dNDIQ dNDUN dNGA dNGEUREUT dNGGEEEE dNGGEUAE dNGGEUAET dNGGUAESHAE NYAM dNGGUP dNGGURAE dNGKA
dNGKAAMI dNGKEUAEM dNGKEUX dNGKUM dNGKUP dNGOP dNGOQ dNGUAE dNGUAET dNJAEMLI dNJEE eEPOCH dNJEUX
dNKOM dNSHIEE dNSHUE dNSHUOP dNTAP dNTUM dNYI BETWEEN eCLEAVER dNZAQ dNZUQ dO dPA PEOPLE ePLURAL
dPAA dPAAM dPEEM dPEUT dPEUX dPI dPIEEQ dPIET dPO dPOON dPU dPUAE dPUAQ dPUE dPUM dRAE dRAQ dREUX
dRIMGBA dSAA dSEE dSET dSHEUAEQ dSHIQ dSHO dSHOQ dSOM dSUAEN dTAA dTAAQ dTAEN NTEUM dTAM dTAQ dTEN
dTEU dTEUAEQ dTOO dTOON dTOQ dTUAE dTUM dTUMAE dVEE dVEUAE dVOM dWEUX dWUE dWUO dYAP dYEUAE
dYEUAET dYEUM dYEUX dYIEE dYIT dYOQ COVER eSWIMMING dYUAEN dYUEQ dYUN dYUQ cPHASE-F EE dFOM dKA
dKEN dKET dKO dKPA dKU dKYEE dLA dLI dLOQ dM dMA dMBAA dMBEN dMEEEE dMO dNDAA dNGGA dNGKWAEN dNI
dNJAEM dNJUAE dNSHA dNTEE dNU dNUAE dNYI dPEE dPEUX dPUAE dREE dREN dREUX dRIEE dRII dRU dSAMBA
dSEUX dSHII dSHO dSHU dSI dSUU dTAA dTAE dTET dU dVUEQ dWA dWUE dYA dYOQ cPI cPUAE cPUE cRAE cREE
cREN cREUX cRIEE cRII cRU cSAMBA cSEUX cSHEUX cSHII cSHO cSHU cSI cSUU cTAA cTAE cTEN cTET cTI cU
cWA cWUE cYA cYOQ cYUQ bNJAEMLI bQUESTION MARK bSEMICOLON aBANANA aBANJO aBANK aBANKNOTE WITH
DOLLAR SIGN cEURO SIGN cPOUND SIGN cYEN SIGN aBAR CHART bOF SOAP aBARBER POLE aBASEBALL aBASKET
aBASKETBALL AND HOOP aBASSA VAH COMBINING HIGH TONE dHIGH-LOW TONE dLOW TONE dLOW-MID TONE dMID
TONE cFULL STOP cLETTER A dBA dCE dDHII dDO dE dEE dENNI dFA dGAH dGBU dHWAH dI dJO dKA dKPAH dMBE
dO dOO dPA dSE dTO dU dUWU dVU dWA dWADDA dYEIN dYIE dZO aBAT aBATAK CONSONANT SIGN H dNG bLETTER
A cBA cCA cDA cGA cHA cI cJA cKARO BA cLA cMA cMANDAILING HA dNA dSA cMBA cNA cNDA cNGA cNORTHERN
TA cNYA cPA cPAKPAK WA cRA cSA cSIMALUNGUN A dGA dHA dLA dMA dPA dRA dSA dWA dYA cSOUTHERN TA cU
cWA cYA bPANGOLAT bPANONGONAN bSIGN TOMPI bSYMBOL BINDU JUDUL dNA METEK dPANGOLAT dPINARBORAS
bVOWEL SIGN E dEE dI dKARO I eO dO dPAKPAK E dU eFOR SIMALUNGUN SA aBATH aBATHTUB aBATTERY aBEACH
WITH UMBRELLA aBEAMED ASCENDING MUSICAL NOTES bDESCENDING MUSICAL NOTES bEIGHTH NOTES bSIXTEENTH
NOTES aBEANS aBEAR FACE aBEARDED PERSON aBEATING HEART aBEAVER aBECAUSE aBED aBEER MUG aBEETLE
aBEL aBELL bPEPPER bSYMBOL bWITH CANCELLATION STROKE aBELLHOP BELL aBENGALI ABBREVIATION SIGN
bANJI bAU LENGTH MARK bCURRENCY DENOMINATOR SIXTEEN cNUMERATOR FOUR dONE eLESS THAN THE
DENOMINATOR dTHREE dTWO bDIGIT EIGHT cFIVE cFOUR cNINE cONE cSEVEN cSIX cTHREE cTWO cZERO bGANDA
MARK bISSHAR bLETTER A cAA cAI cAU cBA cBHA cCA cCHA cDA cDDA cDDHA cDHA cE cGA cGHA cHA cI cII
cJA cJHA cKA cKHA cKHANDA TA cLA cMA cNA cNGA cNNA cNYA cO cPA cPHA cRA dWITH LOWER DIAGONAL
eMIDDLE DIAGONAL cRHA cRRA cSA cSHA cSSA cTA cTHA cTTA cTTHA cU cUU cVEDIC ANUSVARA cVOCALIC L dLL
dR dRR cYA cYYA bRUPEE MARK cSIGN bSANDHI MARK bSIGN ANUSVARA cAVAGRAHA cCANDRABINDU cNUKTA
cVIRAMA cVISARGA bVOWEL SIGN AA dAI dAU dE dI dII dO dU dUU dVOCALIC L eLL eR eRR aBENT ARROW
POINTING DOWNWARDS THEN NORTH EAST aBENTO BOX aBENZENE RING cWITH CIRCLE aBET SYMBOL aBETWEEN
aBEVERAGE BOX aBHAIKSUKI DANDA bDIGIT EIGHT cFIVE cFOUR cNINE cONE cSEVEN cSIX cTHREE cTWO cZERO
bDOUBLE DANDA bGAP FILLER-1 cFILLER-2 bHUNDREDS UNIT MARK bLETTER A cAA cAI cAU cBA cBHA cCA cCHA
cDA cDDA cDDHA cDHA cE cGA cGHA cHA cI cII cJA cJHA cKA cKHA cLA cMA cNA cNGA cNNA cNYA cO cPA
cPHA cRA cSA cSHA cSSA cTA cTHA cTTA cTTHA cU cUU cVA cVOCALIC L dR dRR cYA bNUMBER EIGHT cEIGHTY
cFIFTY cFIVE cFORTY cFOUR cNINE cNINETY cONE cSEVEN cSEVENTY cSIX cSIXTY cTEN cTHIRTY cTHREE
cTWENTY cTWO bSIGN ANUSVARA cAVAGRAHA cCANDRABINDU cVIRAMA cVISARGA bVOWEL SIGN AA dAI dAU dE dI
dII dO dU dUU dVOCALIC L eR eRR bWORD SEPARATOR aBICYCLE aBICYCLIST aBIG REVERSE SOLIDUS bSOLIDUS
aBIKINI aBILLED CAP aBILLIARDS aBIOHAZARD SIGN aBIRD aBIRTHDAY CAKE aBISON aBITCOIN SIGN aBITING
LIP aBLACK BOWTIE bCENTRE WHITE STAR bCHESS BISHOP dROTATED NINETY DEGREES eTWO HUNDRED SEVENTY
DEGREES cEQUIHOPPER dROTATED NINETY DEGREES cKING dROTATED NINETY DEGREES eTWO HUNDRED SEVENTY
DEGREES cKNIGHT dROTATED FORTY-FIVE DEGREES eNINETY DEGREES eONE HUNDRED THIRTY-FIVE DEGREES
eTHREE HUNDRED FIFTEEN DEGREES eTWO HUNDRED SEVENTY DEGREES gTWENTY-FIVE DEGREES cKNIGHT-BISHOP
cKNIGHT-QUEEN cKNIGHT-ROOK cPAWN dROTATED NINETY DEGREES eTWO HUNDRED SEVENTY DEGREES cQUEEN
dROTATED NINETY DEGREES eTWO HUNDRED SEVENTY DEGREES cROOK dROTATED NINETY DEGREES eTWO HUNDRED
SEVENTY DEGREES cTURNED BISHOP dKING dKNIGHT dPAWN dQUEEN dROOK bCIRCLE cFOR RECORD cWITH DOWN
ARROW dTWO WHITE DOTS dWHITE DOT RIGHT bCLUB SUIT bCROSS ON SHIELD bCURVED DOWNWARDS AND LEFTWARDS
ARROW eRIGHTWARDS ARROW cLEFTWARDS AND DOWNWARDS ARROW eUPWARDS ARROW cRIGHTWARDS AND DOWNWARDS
ARROW eUPWARDS ARROW cUPWARDS AND LEFTWARDS ARROW eRIGHTWARDS ARROW bDIAMOND cCENTRED cMINUS WHITE
X cON CROSS cSUIT cWITH DOWN ARROW bDOWN POINTING BACKHAND INDEX bDOWN-POINTING DOUBLE TRIANGLE
cISOSCELES RIGHT TRIANGLE cSMALL TRIANGLE cTRIANGLE bDOWNWARDS EQUILATERAL ARROWHEAD bDRAUGHTS
KING cMAN bDROPLET bFLAG bFLORETTE bFOLDER bFOUR POINTED STAR bHARD SHELL FLOPPY DISK bHEART cSUIT
bHEXAGON bHORIZONTAL ELLIPSE bHOURGLASS bLARGE CIRCLE cSQUARE bLEFT LANE MERGE cPOINTING BACKHAND
INDEX dINDEX bLEFT-POINTING DOUBLE TRIANGLE eWITH VERTICAL BAR cISOSCELES RIGHT TRIANGLE cPOINTER
cSMALL TRIANGLE cTRIANGLE bLEFTWARDS BULLET cEQUILATERAL ARROWHEAD bLOWER LEFT TRIANGLE cRIGHT
TRIANGLE bLOZENGE bMEDIUM DIAMOND cDOWN-POINTING TRIANGLE eCENTRED cLEFT-POINTING TRIANGLE
eCENTRED cLOZENGE cRIGHT-POINTING TRIANGLE eCENTRED cSMALL DIAMOND dLOZENGE dSQUARE cSQUARE
cUP-POINTING TRIANGLE eCENTRED bMOON LILITH bNIB bOCTAGON bPARALLELOGRAM bPENNANT bPENTAGON
bPUSHPIN bQUESTION MARK ORNAMENT bRECTANGLE bRIGHT POINTING BACKHAND INDEX dINDEX bRIGHT-POINTING
DOUBLE TRIANGLE eWITH VERTICAL BAR cISOSCELES RIGHT TRIANGLE cPENTAGON cPOINTER cSMALL TRIANGLE
cTRIANGLE dWITH DOUBLE VERTICAL BAR bRIGHTWARDS ARROW cARROWHEAD cBULLET cEQUILATERAL ARROWHEAD
bROSETTE bSAFETY SCISSORS bSCISSORS bSHOGI PIECE bSKULL AND CROSSBONES bSLIGHTLY SMALL CIRCLE
dSQUARE bSMALL DIAMOND cLOZENGE cSQUARE cSTAR bSMILING FACE bSNOWMAN bSPADE SUIT bSQUARE cBUTTON
cCENTRED cFOR STOP bSTAR bSUN WITH RAYS bTELEPHONE bTINY DIAMOND cLOZENGE cSQUARE bTOUCHTONE
TELEPHONE bTRUCK bTWO-WAY LEFT WAY TRAFFIC bUNIVERSAL RECYCLING SYMBOL bUP POINTING BACKHAND INDEX
bUP-POINTING DOUBLE TRIANGLE cISOSCELES RIGHT TRIANGLE cSMALL TRIANGLE cTRIANGLE bUPPER LEFT
TRIANGLE cRIGHT TRIANGLE bUPWARDS EQUILATERAL ARROWHEAD bVERTICAL ELLIPSE cRECTANGLE bVERY SMALL
DIAMOND dLOZENGE dSQUARE aBLACK-FEATHERED NORTH EAST ARROW bRIGHTWARDS ARROW bSOUTH EAST ARROW
aBLACK-LETTER CAPITAL C cH cI cR cZ aBLANK SYMBOL aBLOCK SEXTANT-1 bSEXTANT-12 bSEXTANT-123
bSEXTANT-1234 bSEXTANT-12345 bSEXTANT-12346 bSEXTANT-1235 bSEXTANT-12356 bSEXTANT-1236
bSEXTANT-124 bSEXTANT-1245 bSEXTANT-12456 bSEXTANT-1246 bSEXTANT-125 bSEXTANT-1256 bSEXTANT-126
bSEXTANT-13 bSEXTANT-134 bSEXTANT-1345 bSEXTANT-13456 bSEXTANT-1346 bSEXTANT-1356 bSEXTANT-136
bSEXTANT-14 bSEXTANT-145 bSEXTANT-1456 bSEXTANT-146 bSEXTANT-15 bSEXTANT-156 bSEXTANT-16
bSEXTANT-2 bSEXTANT-23 bSEXTANT-234 bSEXTANT-2345 bSEXTANT-23456 bSEXTANT-2346 bSEXTANT-235
bSEXTANT-2356 bSEXTANT-236 bSEXTANT-24 bSEXTANT-245 bSEXTANT-2456 bSEXTANT-25 bSEXTANT-256
bSEXTANT-26 bSEXTANT-3 bSEXTANT-34 bSEXTANT-345 bSEXTANT-3456 bSEXTANT-346 bSEXTANT-35
bSEXTANT-356 bSEXTANT-36 bSEXTANT-4 bSEXTANT-45 bSEXTANT-456 bSEXTANT-46 bSEXTANT-5 bSEXTANT-56
bSEXTANT-6 aBLOSSOM aBLOWFISH aBLUE BOOK bHEART aBLUEBERRIES aBOAR aBOLD EIGHT SPOKED ASTERISK
bFIVE SPOKED ASTERISK bGREEK CROSS bSALTIRE bSIX SPOKED ASTERISK bWHITE CIRCLE cSQUARE aBOM aBOMB
aBONE aBOOK aBOOKMARK bTABS aBOOKS aBOOMERANG aBOPOMOFO FINAL LETTER G dH dK dP dT bLETTER A cAH
cAI cAINN cAM cAN cANG cANN cAU cAUNN cB cBU cC cCH cD cE cEE cEH cEI cEN cENG cENN cER cF cG cGH
cGN cGU cGW cH cI cIH cIM cINN cINNN cIR cIU cJ cJI cK cKW cL cLH cM cN cNG cNGG cNN cO dWITH DOT
ABOVE cOE cOM cONG cONN cOO cOU cP cQ cR cS cSH cT cU cUNN cV cX cZ cZH cZI cZY aBOTTLE WITH
POPPING CORK aBOTTOM ARC ANTICLOCKWISE ARROW bCURLY BRACKET bHALF BLACK CIRCLE cINTEGRAL cLEFT
PARENTHESIS cRIGHT PARENTHESIS bLEFT CORNER cCROP cHALF BRACKET bPARENTHESIS bRIGHT CORNER cCROP
cHALF BRACKET bSQUARE BRACKET dOVER TOP SQUARE BRACKET bTORTOISE SHELL BRACKET aBOUQUET bOF
FLOWERS aBOW AND ARROW aBOWL OF HYGIEIA bWITH SPOON aBOWLING aBOWTIE bWITH LEFT HALF BLACK cRIGHT
HALF BLACK aBOX DRAWINGS DOUBLE DOWN AND HORIZONTAL fLEFT fRIGHT dHORIZONTAL dUP AND HORIZONTAL
fLEFT fRIGHT dVERTICAL eAND HORIZONTAL fLEFT fRIGHT cDOWN DOUBLE AND HORIZONTAL SINGLE fLEFT
SINGLE fRIGHT SINGLE dHEAVY AND HORIZONTAL LIGHT fLEFT LIGHT gUP LIGHT fRIGHT LIGHT gUP LIGHT fUP
HORIZONTAL LIGHT dLIGHT AND HORIZONTAL HEAVY fLEFT HEAVY gUP HEAVY fRIGHT HEAVY gUP HEAVY fUP
HORIZONTAL HEAVY dSINGLE AND HORIZONTAL DOUBLE fLEFT DOUBLE fRIGHT DOUBLE cHEAVY DOUBLE DASH
HORIZONTAL fVERTICAL dDOWN eAND HORIZONTAL fLEFT fRIGHT dHORIZONTAL dLEFT eAND LIGHT RIGHT
dQUADRUPLE DASH HORIZONTAL fVERTICAL dRIGHT dTRIPLE DASH HORIZONTAL fVERTICAL dUP eAND HORIZONTAL
fLEFT fLIGHT DOWN fRIGHT dVERTICAL eAND HORIZONTAL fLEFT fRIGHT cLEFT DOWN HEAVY AND RIGHT UP
LIGHT dHEAVY AND RIGHT DOWN LIGHT gUP LIGHT gVERTICAL LIGHT dLIGHT AND RIGHT DOWN HEAVY gUP HEAVY
gVERTICAL HEAVY dUP HEAVY AND RIGHT DOWN LIGHT cLIGHT ARC DOWN AND LEFT gRIGHT eUP AND LEFT gRIGHT
dDIAGONAL CROSS eDIAMOND eMIDDLE LEFT TO LOWER CENTRE jTO MIDDLE RIGHT hUPPER CENTRE TO MIDDLE
RIGHT mTO LOWER CENTRE fRIGHT TO LOWER CENTRE hUPPER CENTRE TO MIDDLE LEFT TO LOWER CENTRE eUPPER
CENTRE TO MIDDLE LEFT jAND MIDDLE RIGHT TO LOWER CENTRE jTO LOWER CENTRE mTO MIDDLE RIGHT iRIGHT
jAND MIDDLE LEFT TO LOWER CENTRE jTO LOWER CENTRE mTO MIDDLE LEFT fLEFT TO LOWER RIGHT fRIGHT TO
LOWER LEFT dDOUBLE DASH HORIZONTAL fVERTICAL dDOWN eAND HORIZONTAL fLEFT fRIGHT dHORIZONTAL eWITH
VERTICAL STROKE dLEFT eAND HEAVY RIGHT dQUADRUPLE DASH HORIZONTAL fVERTICAL dRIGHT dTRIPLE DASH
HORIZONTAL fVERTICAL dUP eAND HEAVY DOWN fHORIZONTAL fLEFT fRIGHT dVERTICAL eAND HORIZONTAL fLEFT
fRIGHT cRIGHT DOWN HEAVY AND LEFT UP LIGHT dHEAVY AND LEFT DOWN LIGHT gUP LIGHT gVERTICAL LIGHT
dLIGHT AND LEFT DOWN HEAVY gUP HEAVY gVERTICAL HEAVY dUP HEAVY AND LEFT DOWN LIGHT cUP DOUBLE AND
HORIZONTAL SINGLE fLEFT SINGLE fRIGHT SINGLE dHEAVY AND DOWN HORIZONTAL LIGHT fHORIZONTAL LIGHT
fLEFT DOWN LIGHT gLIGHT fRIGHT DOWN LIGHT gLIGHT dLIGHT AND DOWN HORIZONTAL HEAVY fHORIZONTAL
HEAVY fLEFT DOWN HEAVY gHEAVY fRIGHT DOWN HEAVY gHEAVY dSINGLE AND HORIZONTAL DOUBLE fLEFT DOUBLE
fRIGHT DOUBLE cVERTICAL DOUBLE AND HORIZONTAL SINGLE fLEFT SINGLE fRIGHT SINGLE dHEAVY AND
HORIZONTAL LIGHT fLEFT LIGHT fRIGHT LIGHT dLIGHT AND HORIZONTAL HEAVY fLEFT HEAVY fRIGHT HEAVY
dSINGLE AND HORIZONTAL DOUBLE fLEFT DOUBLE fRIGHT DOUBLE aBOXING GLOVE aBOY aBOYS SYMBOL aBPH
aBRAHMI DANDA bDIGIT EIGHT cFIVE cFOUR cNINE cONE cSEVEN cSIX cTHREE cTWO cZERO bDOUBLE DANDA
bLETTER A cAA cAI cAU cBA cBHA cCA cCHA cDA cDDA cDDHA cDHA cE cGA cGHA cHA cI cII cJA cJHA cKA
cKHA cLA cLLA cMA cNA cNGA cNNA cNYA cO cOLD TAMIL LLA eLLLA eNNNA eRRA eSHORT E fO cPA cPHA cRA
cSA cSHA cSSA cTA cTHA cTTA cTTHA cU cUU cVA cVOCALIC L dLL dR dRR cYA bNUMBER EIGHT cEIGHTY
cFIFTY cFIVE cFORTY cFOUR cJOINER cNINE cNINETY cONE dHUNDRED dTHOUSAND cSEVEN cSEVENTY cSIX
cSIXTY cTEN cTHIRTY cTHREE cTWENTY cTWO bPUNCTUATION CRESCENT BAR cDOT cDOUBLE DOT cLINE cLOTUS
bSIGN ANUSVARA cCANDRABINDU cJIHVAMULIYA cOLD TAMIL VIRAMA cUPADHMANIYA cVISARGA bVIRAMA bVOWEL
SIGN AA dAI dAU dBHATTIPROLU AA dE dI dII dO dOLD TAMIL SHORT E gO dU dUU dVOCALIC L eLL eR eRR
aBRAILLE PATTERN BLANK cDOTS-1 cDOTS-12 cDOTS-123 cDOTS-1234 cDOTS-12345 cDOTS-123456
cDOTS-1234567 cDOTS-12345678 cDOTS-1234568 cDOTS-123457 cDOTS-1234578 cDOTS-123458 cDOTS-12346
cDOTS-123467 cDOTS-1234678 cDOTS-123468 cDOTS-12347 cDOTS-123478 cDOTS-12348 cDOTS-1235
cDOTS-12356 cDOTS-123567 cDOTS-1235678 cDOTS-123568 cDOTS-12357 cDOTS-123578 cDOTS-12358
cDOTS-1236 cDOTS-12367 cDOTS-123678 cDOTS-12368 cDOTS-1237 cDOTS-12378 cDOTS-1238 cDOTS-124
cDOTS-1245 cDOTS-12456 cDOTS-124567 cDOTS-1245678 cDOTS-124568 cDOTS-12457 cDOTS-124578
cDOTS-12458 cDOTS-1246 cDOTS-12467 cDOTS-124678 cDOTS-12468 cDOTS-1247 cDOTS-12478 cDOTS-1248
cDOTS-125 cDOTS-1256 cDOTS-12567 cDOTS-125678 cDOTS-12568 cDOTS-1257 cDOTS-12578 cDOTS-1258
cDOTS-126 cDOTS-1267 cDOTS-12678 cDOTS-1268 cDOTS-127 cDOTS-1278 cDOTS-128 cDOTS-13 cDOTS-134
cDOTS-1345 cDOTS-13456 cDOTS-134567 cDOTS-1345678 cDOTS-134568 cDOTS-13457 cDOTS-134578
cDOTS-13458 cDOTS-1346 cDOTS-13467 cDOTS-134678 cDOTS-13468 cDOTS-1347 cDOTS-13478 cDOTS-1348
cDOTS-135 cDOTS-1356 cDOTS-13567 cDOTS-135678 cDOTS-13568 cDOTS-1357 cDOTS-13578 cDOTS-1358
cDOTS-136 cDOTS-1367 cDOTS-13678 cDOTS-1368 cDOTS-137 cDOTS-1378 cDOTS-138 cDOTS-14 cDOTS-145
cDOTS-1456 cDOTS-14567 cDOTS-145678 cDOTS-14568 cDOTS-1457 cDOTS-14578 cDOTS-1458 cDOTS-146
cDOTS-1467 cDOTS-14678 cDOTS-1468 cDOTS-147 cDOTS-1478 cDOTS-148 cDOTS-15 cDOTS-156 cDOTS-1567
cDOTS-15678 cDOTS-1568 cDOTS-157 cDOTS-1578 cDOTS-158 cDOTS-16 cDOTS-167 cDOTS-1678 cDOTS-168
cDOTS-17 cDOTS-178 cDOTS-18 cDOTS-2 cDOTS-23 cDOTS-234 cDOTS-2345 cDOTS-23456 cDOTS-234567
cDOTS-2345678 cDOTS-234568 cDOTS-23457 cDOTS-234578 cDOTS-23458 cDOTS-2346 cDOTS-23467
cDOTS-234678 cDOTS-23468 cDOTS-2347 cDOTS-23478 cDOTS-2348 cDOTS-235 cDOTS-2356 cDOTS-23567
cDOTS-235678 cDOTS-23568 cDOTS-2357 cDOTS-23578 cDOTS-2358 cDOTS-236 cDOTS-2367 cDOTS-23678
cDOTS-2368 cDOTS-237 cDOTS-2378 cDOTS-238 cDOTS-24 cDOTS-245 cDOTS-2456 cDOTS-24567 cDOTS-245678
cDOTS-24568 cDOTS-2457 cDOTS-24578 cDOTS-2458 cDOTS-246 cDOTS-2467 cDOTS-24678 cDOTS-2468
cDOTS-247 cDOTS-2478 cDOTS-248 cDOTS-25 cDOTS-256 cDOTS-2567 cDOTS-25678 cDOTS-2568 cDOTS-257
cDOTS-2578 cDOTS-258 cDOTS-26 cDOTS-267 cDOTS-2678 cDOTS-268 cDOTS-27 cDOTS-278 cDOTS-28 cDOTS-3
cDOTS-34 cDOTS-345 cDOTS-3456 cDOTS-34567 cDOTS-345678 cDOTS-34568 cDOTS-3457 cDOTS-34578
cDOTS-3458 cDOTS-346 cDOTS-3467 cDOTS-34678 cDOTS-3468 cDOTS-347 cDOTS-3478 cDOTS-348 cDOTS-35
cDOTS-356 cDOTS-3567 cDOTS-35678 cDOTS-3568 cDOTS-357 cDOTS-3578 cDOTS-358 cDOTS-36 cDOTS-367
cDOTS-3678 cDOTS-368 cDOTS-37 cDOTS-378 cDOTS-38 cDOTS-4 cDOTS-45 cDOTS-456 cDOTS-4567 cDOTS-45678
cDOTS-4568 cDOTS-457 cDOTS-4578 cDOTS-458 cDOTS-46 cDOTS-467 cDOTS-4678 cDOTS-468 cDOTS-47
cDOTS-478 cDOTS-48 cDOTS-5 cDOTS-56 cDOTS-567 cDOTS-5678 cDOTS-568 cDOTS-57 cDOTS-578 cDOTS-58
cDOTS-6 cDOTS-67 cDOTS-678 cDOTS-68 cDOTS-7 cDOTS-78 cDOTS-8 aBRAIN aBREAD aBREAK PERMITTED HERE
aBREAST-FEEDING aBREVE aBRICK aBRIDE WITH VEIL aBRIDGE AT NIGHT aBRIEFCASE aBRIEFS aBROCCOLI
aBROKEN BAR bCIRCLE WITH NORTHWEST ARROW bHEART aBROOM aBROWN HEART aBS aBUBBLE TEA aBUBBLES
aBUCKET aBUG aBUGINESE END OF SECTION bLETTER A cBA cCA cDA cGA cHA cJA cKA cLA cMA cMPA cNA cNGA
cNGKA cNRA cNYA cNYCA cPA cRA cSA cTA cVA cYA bPALLAWA bVOWEL SIGN AE dE dI dO dU aBUHID LETTER A
cBA cDA cGA cHA cI cKA cLA cMA cNA cNGA cPA cRA cSA cTA cU cWA cYA bVOWEL SIGN I dU aBUILDING
CONSTRUCTION aBULLET bOPERATOR aBULLHORN bWITH SOUND WAVES aBULLSEYE aBURRITO aBUS bSTOP aBUST IN
SILHOUETTE aBUSTS IN SILHOUETTE aBUTTER aBUTTERFLY aBYTE ORDER MARK aBYZANTINE MUSICAL SYMBOL
AGOGI ARGI eARGOTERI eGORGI eGORGOTERI eMESI eMETRIA ePOLI ARGI fGORGI dANATRICHISMA
dANTIKENOKYLISMA dANTIKENOMA dAPESO EKFONITIKON eEXO NEO dAPLI dAPODERMA ARCHAION eNEO dAPOSTROFOI
SYNDESMOS NEO eTELOUS ICHIMATOS dAPOSTROFOS eDIPLI eNEO dAPOTHEMA dARGON dARGOSYNTHETON dARKTIKO
DI eGA eKE eNI ePA eVOU eZO dCHAMILI dCHAMILON dCHOREVMA ARCHAION eNEO dCHROA KLITON eSPATHI
eZYGOS dDASEIA dDIARGON dDIASTOLI APLI MEGALI fMIKRI eDIPLI eTHESEOS dDIESIS APLI DYO DODEKATA
eDIGRAMMOS EX DODEKATA eMONOGRAMMOS TESSERA DODEKATA eTETARTIMORION eTRIGRAMMOS OKTO DODEKATA
eTRITIMORION dDIFTOGGOS OU dDIGORGON ePARESTIGMENON ARISTERA ANO gKATO fDEXIA dDIGRAMMA GG dDIPLI
eARCHAION dDYO dEKSTREPTON dELAFRON dENARXIS KAI FTHORA VOU dENDOFONON dEPEGERMA dETERON
ARGOSYNTHETON ePARAKALESMA dEXO EKFONITIKON dFANEROSIS DIFONIAS eMONOFONIAS eTETRAFONIAS dFHTORA
SKLIRON CHROMA VASIS dFTHORA ARCHAION fDEYTEROU ICHOU eDIATONIKI DI fKE fNANA fNI ANO gKATO fPA
fZO eENARMONIOS ANTIFONIA eI YFESIS TETARTIMORION eMALAKON CHROMA DIFONIAS gMONOFONIAS eNAOS ICHOS
eNENANO eSKLIRON CHROMA SYNAFI gVASIS fDIATONON DI dGENIKI DIESIS eYFESIS dGORGON ARCHAION eNEO
ANO fKATO ePARESTIGMENON ARISTERA fDEXIA dGORGOSYNTHETON dGORTHMIKON N APLOUN fDIPLOUN
dGRONTHISMATA dICHADIN dIMIDIARGON dIMIFONON dIMIFTHORA dIMIFTHORON dISAKIA TELOUS ICHIMATOS dISON
ARCHAION eNEO dKATAVA TROMIKON dKATAVASMA dKATHISTI dKENTIMA ARCHAION eNEO ANO fKATO fMESO
dKENTIMATA eARCHAION eNEO ANO fKATO fMESO dKLASMA eANO eKATO dKONTEVMA eALLO dKORONIS dKOUFISMA
dKRATIMA ALLO eARCHAION eNEO dKRATIMATA dKRATIMOKOUFISMA dKRATIMOYPORROON dKREMASTI dKYLISMA
dLEIMMA DYO CHRONON eENOS CHRONOU eIMISEOS CHRONOU eTESSARON CHRONON eTRION CHRONON dLEMOI
dLYGISMA dMARTYRIA ALLI DEYTEROS ICHOS fPROTOS ICHOS eDEYTEROS ICHOS eLEGETOS ICHOS ePLAGIOS ICHOS
fTETARTOS ICHOS ePROTOS ICHOS ePROTOVARYS ICHOS eTETARTOS ICHOS fLEGETOS ICHOS eTRIFONIAS eTRITOS
ICHOS eVARYS ICHOS dMIKRON ISON dNANA dOLIGON ARCHAION eNEO dOMALON dOXEIA DIPLI eEKFONITIKON eNEO
dOXEIAI ARCHAION dOYRANISMA ARCHAION eNEO dPARAKALESMA ARCHAION eNEO dPARAKLITIKI eARCHAION eNEO
dPARICHON dPELASTON eNEO dPERISPOMENI dPETASMA dPETASTI dPETASTOKOUFISMA dPIASMA ARCHAION eNEO
dPSIFISTOLYGISMA dPSIFISTON eNEO dPSIFISTOPARAKALESMA dPSIFISTOSYNAGMA dPSILI dPSILON dRAPISMA
dREVMA dSAXIMATA dSEISMA eNEO dSIMANSIS ARSEOS fDISIMOU fTETRASIMOU fTRISIMOU eTHESEOS fDISIMOU
fTETRASIMOU fTRISIMOU dSTAVROS eAPODEXIA dSTIGMA dSTRAGGISMATA dSYNAGMA ARCHAION eMETA STAVROU
eNEO dSYNEVMA dSYRMA dSYRMATIKI dTELEIA dTESSERA dTETRAPLI dTHEMA eAPLOUN dTHEMATISMOS ESO eEXO
dTHES KAI APOTHES dTHITA dTINAGMA dTRIA dTRIGORGON dTRIPLI dTROMIKOLYGISMA dTROMIKON ALLO
eARCHAION eNEO dTROMIKOPARAKALESMA dTROMIKOPSIFISTON dTROMIKOSYNAGMA dVAREIA DIPLI eEKFONITIKON
eNEO dVAREIAI ARCHAION dVATHY dXIRON KLASMA dYFEN ANO eKATO dYFESIS APLI DYO DODEKATA eDIGRAMMOS
EX DODEKATA eMONOGRAMMOS TESSERA DODEKATA eTRIGRAMMOS OKTO DODEKATA eTRITIMORION dYPOKRISIS eDIPLI
dYPORROI dYPSILI"

end NetLookup.Text.CharacterName
