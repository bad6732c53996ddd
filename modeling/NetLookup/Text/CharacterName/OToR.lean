/-! # Names of characters that begin with a letter from O to R -/

namespace NetLookup.Text.CharacterName

def oNames : String := "
aOBJECT REPLACEMENT CHARACTER aOBLIQUE ANGLE OPENING DOWN dUP bHYPHEN aOBSERVER EYE SYMBOL aOCR
AMOUNT OF CHECK bBELT BUCKLE bBOW TIE bBRANCH BANK IDENTIFICATION bCHAIR bCUSTOMER ACCOUNT NUMBER
bDASH bDOUBLE BACKSLASH bFORK bHOOK bINVERTED FORK aOCTAGONAL SIGN aOCTOPUS aODEN aOFFICE BUILDING
aOGHAM FEATHER MARK bLETTER AILM cBEITH cCEIRT cCOLL cDAIR cEABHADH cEADHADH cEAMHANCHOLL cFEARN
cGORT cIFIN cIODHADH cLUIS cMUIN cNGEADAL cNION cONN cOR cPEITH cRUIS cSAIL cSTRAIF cTINNE cUATH
cUILLEANN cUR bREVERSED FEATHER MARK bSPACE MARK aOGONEK aOHM SIGN aOIL DRUM aOK HAND SIGN aOL
CHIKI AHAD cDIGIT EIGHT dFIVE dFOUR dNINE dONE dSEVEN dSIX dTHREE dTWO dZERO cGAAHLAA TTUDDAAG
cLETTER AAJ dAAK dAAM dAAW dAG dAL dANG dAT dEDD dEN dEP dERR dIH dINY dIR dIS dLA dLAA dLE dLI
dLO dLU dOB dOH dOTT dOV dUC dUD dUNN dUY cMU TTUDDAG cMU-GAAHLAA TTUDDAAG cPHAARKAA cPUNCTUATION
DOUBLE MUCAAD dMUCAAD cRELAA aOLD CHINESE HOOK MARK cITERATION MARK bHUNGARIAN CAPITAL LETTER A
eAA eAK eAMB eAND eCLOSE E eE eEB eEC eECH eECS eED eEE eEF eEG eEGY eEH eEJ eEK eEL eELY eEM eEMP
eEN eENC eENT eENT-SHAPED SIGN eENY eEP eER eES eESZ eET eETY eEV eEZ eEZS eI eII eNIKOLSBURG OE
fUE eO eOEE eOO eRUDIMENTA OE fUE eSHORT ER eU eUNK eUS eUU cNUMBER FIFTY dFIVE dONE eHUNDRED
eTHOUSAND dTEN cSMALL LETTER A eAA eAK eAMB eAND eCLOSE E eE eEB eEC eECH eECS eED eEE eEF eEG
eEGY eEH eEJ eEK eEL eELY eEM eEMP eEN eENC eENT eENT-SHAPED SIGN eENY eEP eER eES eESZ eET eETY
eEV eEZ eEZS eI eII eNIKOLSBURG OE fUE eO eOEE eOO eRUDIMENTA OE fUE eSHORT ER eU eUNK eUS eUU
bITALIC LETTER A dBE dCHE dDE dE dEF dEKS dEL dEM dEN dER dERS dES dESH dESS dHE dI dII dKA dKE
dKHE dKU dNORTHERN TSE dO dPE dPHE dSHE dSOUTHERN TSE dTE dTHE dU dUU dVE dYE dZE cNUMERAL FIFTY
dFIVE dONE dTEN bKEY bNORTH ARABIAN LETTER AIN eALEF eBEH eDAD eDAL eES-1 eES-2 eES-3 eFEH eGEEM
eGHAIN eHAH eHEH eKAF eKHAH eLAM eMEEM eNOON eQAF eREH eSAD eTAH eTEH eTHAL eTHEH eWAW eYEH eZAH
eZAIN dNUMBER ONE eTEN eTWENTY bPERMIC LETTER AN dBUR dCHERY dDOI dDZHOI dDZITA dE dEF dGAI dHA dI
dIA dIE dKOKE dLEI dMENOE dNENOE dO dOO dPEEI dREI dSHCHOOI dSHOOI dSII dTAI dTSIU dU dVER dVOOI
dYA dYAT dYER dYERI dYERU dYRY dYU dZATA dZHOI bPERSIAN NUMBER HUNDRED dONE dTEN dTWENTY dTWO
cSIGN A dAURAMAZDAA dAURAMAZDAA-2 dAURAMAZDAAHA dBA dBAGA dBUUMISH dCA dDA dDAHYAAUSH dDAHYAAUSH-2
dDI dDU dFA dGA dGU dHA dI dJA dJI dKA dKU dLA dMA dMI dMU dNA dNU dPA dRA dRU dSA dSHA dSSA dTA
dTHA dTU dU dVA dVI dXA dXSHAAYATHIYA dYA dZA cWORD DIVIDER bPERSONAL COMPUTER bSOGDIAN FRACTION
ONE HALF cLETTER ALEPH dALTERNATE AYIN dAYIN dBETH dFINAL ALEPH eBETH eHE eNUN fWITH VERTICAL TAIL
eSADHE fWITH VERTICAL TAIL eTAW fWITH VERTICAL TAIL dGIMEL dHE dHETH dKAPH dLAMEDH dMEM dNUN dPE
dRESH-AYIN-DALETH dSADHE dSAMEKH dSHIN dTAW dWAW dYODH dZAYIN cLIGATURE AYIN-DALETH cNUMBER FIVE
dFOUR dONE eHUNDRED dTEN dTHIRTY dTHREE dTWENTY dTWO bSOUTH ARABIAN LETTER ALEF eAYN eBETH eDALETH
eDHADHE eDHALETH eFE eGHAYN eGIMEL eHE eHETH eKAPH eKHETH eLAMEDH eMEM eNUN eQOPH eRESH eSADHE
eSAMEKH eSAT eSHIN eTAW eTETH eTHAW eTHETH eWAW eYODH eZAYN dNUMBER FIFTY eONE dNUMERIC INDICATOR
bTURKIC LETTER ORKHON A eAB eAD eAEB eAED eAEG eAEK eAEL eAEN eAER eAES eAET eAEY eAG eAL eAN eAQ
eAR eAS eASH eAT eAY eBASH eEC eELT eEM eENC eENG eENT eENY eEP eESH eEZ eI eIC eIQ eO eOE eOEK
eOP eOQ eOT dYENISEI A eAB eAD eAE eAEB eAEG eAEK eAEN eAENG eAET eAEY eAG eAL eANG eAQ eAR eASH
eAT eAY eE eEC eENC eENT eENY eESH eEZ eI eIQ eOE eOEK eOQ bUYGHUR COMBINING DOT ABOVE eBELOW dTWO
DOTS ABOVE fBELOW cLETTER ALEPH dBETH dFINAL HETH dGIMEL-HETH dKAPH dLAMEDH dLESH dMEM dNUN dPE
dRESH dSADHE dSAMEKH dSHIN dTAW dWAW dYODH dZAYIN cPUNCTUATION BAR dFOUR DOTS dTWO BARS eDOTS
aOLDER ADULT bMAN bWOMAN aOLIVE aOM SYMBOL aON WITH EXCLAMATION MARK WITH LEFT RIGHT ARROW ABOVE
aONCOMING AUTOMOBILE bBUS bFIRE ENGINE bPOLICE CAR bTAXI aONE BUTTON MOUSE bDOT LEADER cOVER TWO
DOTS PUNCTUATION aONE-PIECE SWIMSUIT aONION aOPEN BOOK bBOX bCENTRE ASTERISK cBLACK STAR cCROSS
cTEARDROP-SPOKED ASTERISK bFILE FOLDER bFOLDER bHANDS SIGN bLOCK bMAILBOX WITH LOWERED FLAG
dRAISED FLAG bSUBSET bSUPERSET aOPEN-CIRCUIT-OUTPUT H-TYPE SYMBOL bL-TYPE SYMBOL aOPEN-OUTLINED
RIGHTWARDS ARROW aOPERATING SYSTEM COMMAND aOPHIUCHUS aOPPOSITION aOPTICAL DISC cICON aOPTION KEY
aOR WITH DOT INSIDE aORANGE BOOK bHEART aORANGUTAN aORIGINAL OF aORIYA AI LENGTH MARK bAU LENGTH
MARK bDIGIT EIGHT cFIVE cFOUR cNINE cONE cSEVEN cSIX cTHREE cTWO cZERO bFRACTION ONE EIGHTH dHALF
dQUARTER dSIXTEENTH cTHREE QUARTERS dSIXTEENTHS bISSHAR bLETTER A cAA cAI cAU cBA cBHA cCA cCHA
cDA cDDA cDDHA cDHA cE cGA cGHA cHA cI cII cJA cJHA cKA cKHA cLA cLLA cMA cNA cNGA cNNA cNYA cO
cPA cPHA cRA cRHA cRRA cSA cSHA cSSA cTA cTHA cTTA cTTHA cU cUU cVA cVOCALIC L dLL dR dRR cWA cYA
cYYA bSIGN ANUSVARA cAVAGRAHA cCANDRABINDU cNUKTA cOVERLINE cVIRAMA cVISARGA bVOWEL SIGN AA dAI
dAU dE dI dII dO dU dUU dVOCALIC L eLL eR eRR aORNATE LEFT PARENTHESIS bRIGHT PARENTHESIS
aORTHODOX CROSS aOSAGE CAPITAL LETTER A dAH dAI dAIN dBRA dCHA dDHA dE dEHCHA dEHKA dEHPA dEHTA
dEHTSA dEIN dGHA dHA dHYA dI dKA dKHA dKYA dLA dMA dNA dO dOIN dPA dSA dSHA dTA dTSA dTSHA dU dWA
dZA dZHA bSMALL LETTER A dAH dAI dAIN dBRA dCHA dDHA dE dEHCHA dEHKA dEHPA dEHTA dEHTSA dEIN dGHA
dHA dHYA dI dKA dKHA dKYA dLA dMA dNA dO dOIN dPA dSA dSHA dTA dTSA dTSHA dU dWA dZA dZHA aOSC
aOSMANYA DIGIT EIGHT cFIVE cFOUR cNINE cONE cSEVEN cSIX cTHREE cTWO cZERO bLETTER A cAA cALEF cBA
cCAYN cDEEL cDHA cE cEE cFA cGA cHA cI cJA cKAAF cKHA cLAAN cMIIN cNUUN cO cOO cQAAF cRA cSA
cSHIIN cTA cU cWAW cXA cYA aOTTER aOTTOMAN SIYAQ ALTERNATE NUMBER EIGHT eFIVE eFOUR fHUNDRED eNINE
eSEVEN eSIX fHUNDRED eTEN fTHOUSAND eTHREE eTWO fTHOUSAND cFRACTION ONE HALF eSIXTH cMARRATAN
cNUMBER EIGHT eHUNDRED eTHOUSAND dEIGHTY eTHOUSAND dFIFTY eTHOUSAND dFIVE eHUNDRED eTHOUSAND
dFORTY eTHOUSAND dFOUR eHUNDRED eTHOUSAND dNINE eHUNDRED eTHOUSAND dNINETY eTHOUSAND dONE eHUNDRED
eTHOUSAND dSEVEN eHUNDRED eTHOUSAND dSEVENTY eTHOUSAND dSIX eHUNDRED eTHOUSAND dSIXTY eTHOUSAND
dTEN eTHOUSAND dTHIRTY eTHOUSAND dTHREE eHUNDRED eTHOUSAND dTWENTY eTHOUSAND dTWO eHUNDRED
eTHOUSAND aOUNCE SIGN aOUTBOX TRAY aOUTLINED BLACK STAR bGREEK CROSS bLATIN CROSS bWHITE STAR
aOVERHEATED FACE aOVERLAP aOVERLAPPING BLACK SQUARES bWHITE AND BLACK SQUARES cSQUARES aOVERLINE
aOWL aOX aOYSTER"

def pNames : String := "
aPACKAGE aPAD aPADDING CHARACTER aPAGE bFACING UP bWITH CIRCLED TEXT cCURL aPAGER aPAGES aPAGODA
aPAHAWH HMONG CLAN SIGN FAJ eHAM eHAWJ eKHAB eKOO eKWM eLAUJ eLIS eMUAS ePHAB eTHOJ eTSAB eTSHEEJ
eTSWB eVAJ eVWJ eXYOOJ eYAJ eYEEG cCONSONANT AU dCAU dCHAU dHAU dHLAU dHNAU dLAU dMAU dNAU dNCHAU
dNKAU dNLAU dNTHAU dNTSAU dPLHAU dQHAU dRAU dVAU dXAU dYAU cDIGIT EIGHT dFIVE dFOUR dNINE dONE
dSEVEN dSIX dTHREE dTWO dZERO cMARK CIM HOM eKES eKHAV eSO eSUAM eTAUM eTUB cNUMBER HUNDRED
MILLIONS dHUNDREDS dMILLIONS dTEN BILLIONS eTHOUSANDS dTENS dTRILLIONS cSIGN AV dCIM CHEEM eCUAM
TSHOOJ eHAIS LUS NTOG NTOG eNRES TOS ePUB DAWB eTSOV ROG eTXWV fCHWV dHLI dHNUB dIB YAM dLOS dMEEJ
SUAB eTSEEB dMUS dNQIG dNTUJ dTAU dTHIRD-STAGE HLI dTXHEEJ CEEV dVOS FEEM eLUB eNRUA eSEEV eTHIAB
eTHOM eTSHAB CEEB dXAUS dXIAB dXYEEM FAIB eNTXIV eRHO eTOV dXYOO dZWJ THAJ cVOWEL KAAB dKAAV dKAB
dKAIB dKAIV dKAUB dKAUV dKAV dKAWB dKAWV dKEB dKEEB dKEEV dKEV dKIAB dKIAV dKIB dKIV dKOB dKOOB
dKOOV dKOV dKUAB dKUAV dKUB dKUV dKWB dKWV aPALLAS aPALM BRANCH bDOWN HAND bTREE bUP HAND aPALMS
UP TOGETHER aPALMYRENE LEFT-POINTING FLEURON bLETTER ALEPH cAYIN cBETH cDALETH cFINAL NUN cGIMEL
cHE cHETH cKAPH cLAMEDH cMEM cNUN cPE cQOPH cRESH cSADHE cSAMEKH cSHIN cTAW cTETH cWAW cYODH
cZAYIN bNUMBER FIVE cFOUR cONE cTEN cTHREE cTWENTY cTWO bRIGHT-POINTING FLEURON aPANCAKES aPANDA
FACE aPAPERCLIP aPARACHUTE aPARAGRAPH SEPARATOR aPARAGRAPHOS aPARAGRAPHUS MARK aPARALLEL TO bWITH
HORIZONTAL STROKE cTILDE OPERATOR aPARENTHESIZED DIGIT EIGHT cFIVE cFOUR cNINE cONE cSEVEN cSIX
cTHREE cTWO bHANGUL CHIEUCH dA cCIEUC dA dU cHIEUH dA cIEUNG dA cKHIEUKH dA cKIYEOK dA cMIEUM dA
cNIEUN dA cPHIEUPH dA cPIEUP dA cRIEUL dA cSIOS dA cTHIEUTH dA cTIKEUT dA bIDEOGRAPH ALLIANCE
cCALL cCONGRATULATION cEARTH cEIGHT cENTERPRISE cFESTIVAL cFINANCIAL cFIRE cFIVE cFOUR cHAVE
cLABOR cMETAL cMOON cNAME cNINE cONE cREACH cREPRESENT cRESOURCE cREST cSELF cSEVEN cSIX cSOCIETY
cSPECIAL cSTOCK cSTUDY cSUN cSUPERVISE cTEN cTHREE cTWO cWATER cWOOD bKOREAN CHARACTER O HU dOJEON
bLATIN CAPITAL LETTER A eB eC eD eE eF eG eH eI eJ eK eL eM eN eO eP eQ eR eS eT eU eV eW eX eY eZ
cSMALL LETTER A eB eC eD eE eF eG eH eI eJ eK eL eM eN eO eP eQ eR eS eT eU eV eW eX eY eZ bNUMBER
EIGHTEEN cELEVEN cFIFTEEN cFOURTEEN cNINETEEN cSEVENTEEN cSIXTEEN cTEN cTHIRTEEN cTWELVE cTWENTY
aPARROT aPART ALTERNATION MARK aPARTIAL DIFFERENTIAL bLINE BACKWARD cDOWN cFORWARD cUP
aPARTIALLY-RECYCLED PAPER SYMBOL aPARTNERSHIP SIGN aPARTY POPPER aPASSED SYMBOL aPASSENGER SHIP
aPASSIVE-PULL-DOWN-OUTPUT SYMBOL aPASSIVE-PULL-UP-OUTPUT SYMBOL aPASSPORT CONTROL aPAU CIN HAU
GLOTTAL STOP fFINAL fVARIANT dLETTER A eBA eCA eCHA eDA eE eFA eFINAL K fL fM fN fNG fP fT fW fY
eGA eHA eI eIA eKA eKHA eLA eMA eNA eNGA eO ePA ePHA eRA eSA eTA eTHA eU eUA eVA eZA dLOW-FALLING
TONE fFINAL fLONG gFINAL dMID-LEVEL TONE fFINAL fLONG FINAL dRISING TONE fFINAL fLONG gFINAL
dSANDHI GLOTTAL STOP gFINAL eTONE fFINAL fLONG gFINAL aPAW PRINTS aPDF aPDI aPEACE SYMBOL aPEACH
aPEACOCK aPEANUTS aPEAR aPEDESTRIAN aPEN OVER STAMPED ENVELOPE aPENCIL aPENGUIN aPENSIVE FACE
aPENTAGRAM aPEOPLE HUGGING aPER MILLE SIGN bSIGN bTEN THOUSAND SIGN aPERCENT SIGN aPERFORMING ARTS
aPERMANENT PAPER SIGN aPERPENDICULAR bWITH S aPERSEVERING FACE aPERSON BOWING DEEPLY bCLIMBING
bDOING CARTWHEEL bFROWNING bIN LOTUS POSITION cSTEAMY ROOM bRAISING BOTH HANDS IN CELEBRATION
bWITH BALL cBLOND HAIR cCROWN cFOLDED HANDS cHEADSCARF cPOUTING FACE aPERSONAL COMPUTER
aPERSPECTIVE aPESETA SIGN aPESO SIGN aPETRI DISH aPHAGS-PA DOUBLE HEAD MARK bLETTER A cALTERNATE
YA cASPIRATED FA cBA cCA cCANDRABINDU cCHA cDA cDDA cDZA cE cEE cFA cGA cGGA cHA cI cJA cKA cKHA
cLA cMA cNA cNGA cNNA cNYA cO cPA cPHA cQA cRA cSA cSHA cSMALL A cTA cTHA cTSA cTSHA cTTA cTTHA cU
cVOICED HA cVOICELESS SHA cWA cXA cYA cZA cZHA bMARK DOUBLE SHAD cSHAD bSINGLE HEAD MARK
bSUBJOINED LETTER RA dWA dYA bSUPERFIXED LETTER RA aPHAISTOS DISC SIGN ARROW dBEE dBEEHIVE
dBOOMERANG dBOW dBULLS LEG dCAPTIVE dCARPENTRY PLANE dCAT dCHILD dCLUB dCOLUMN dCOMB dCOMBINING
OBLIQUE STROKE dDOLIUM dDOVE dEAGLE dFLUTE dGAUNTLET dGRATER dHELMET dHIDE dHORN dLID dLILY
dMANACLES dMATTOCK dOX BACK dPAPYRUS dPEDESTRIAN dPLANE TREE dPLUMED HEAD dRAM dROSETTE dSAW
dSHIELD dSHIP dSLING dSMALL AXE dSTRAINER dTATTOOED HEAD dTIARA dTUNNY dVINE dWAVY BAND dWOMAN
aPHILIPPINE DOUBLE PUNCTUATION bSINGLE PUNCTUATION aPHOENICIAN LETTER AIN cALF cBET cDELT cGAML
cHE cHET cKAF cLAMD cMEM cNUN cPE cQOF cROSH cSADE cSEMK cSHIN cTAU cTET cWAU cYOD cZAI bNUMBER
ONE dHUNDRED cTEN cTHREE cTWENTY cTWO bWORD SEPARATOR aPHOLUS aPICK aPICKUP TRUCK aPIE aPIG bFACE
bNOSE aPILCROW SIGN aPILE OF POO aPILL aPINATA aPINCHED FINGERS aPINCHING HAND aPINE DECORATION
aPINEAPPLE aPINWHEEL STAR aPISCES aPISTOL aPITCHFORK bWITH TEE TOP aPLACARD aPLACE OF INTEREST
SIGN cWORSHIP aPLANCK CONSTANT cOVER TWO PI aPLAYGROUND SLIDE aPLAYING CARD ACE OF CLUBS eDIAMONDS
eHEARTS eSPADES cBACK cBLACK JOKER cEIGHT OF CLUBS eDIAMONDS eHEARTS eSPADES cFIVE OF CLUBS
eDIAMONDS eHEARTS eSPADES cFOOL cFOUR OF CLUBS eDIAMONDS eHEARTS eSPADES cJACK OF CLUBS eDIAMONDS
eHEARTS eSPADES cKING OF CLUBS eDIAMONDS eHEARTS eSPADES cKNIGHT OF CLUBS eDIAMONDS eHEARTS
eSPADES cNINE OF CLUBS eDIAMONDS eHEARTS eSPADES cQUEEN OF CLUBS eDIAMONDS eHEARTS eSPADES cRED
JOKER cSEVEN OF CLUBS eDIAMONDS eHEARTS eSPADES cSIX OF CLUBS eDIAMONDS eHEARTS eSPADES cTEN OF
CLUBS eDIAMONDS eHEARTS eSPADES cTHREE OF CLUBS eDIAMONDS eHEARTS eSPADES cTRUMP-1 cTRUMP-10
cTRUMP-11 cTRUMP-12 cTRUMP-13 cTRUMP-14 cTRUMP-15 cTRUMP-16 cTRUMP-17 cTRUMP-18 cTRUMP-19 cTRUMP-2
cTRUMP-20 cTRUMP-21 cTRUMP-3 cTRUMP-4 cTRUMP-5 cTRUMP-6 cTRUMP-7 cTRUMP-8 cTRUMP-9 cTWO OF CLUBS
eDIAMONDS eHEARTS eSPADES cWHITE JOKER aPLD aPLU aPLUNGER aPLUS SIGN cABOVE EQUALS SIGN cIN LEFT
HALF CIRCLE dRIGHT HALF CIRCLE dTRIANGLE cWITH BLACK TRIANGLE dCIRCUMFLEX ACCENT ABOVE dDOT BELOW
dSMALL CIRCLE ABOVE dSUBSCRIPT TWO dTILDE ABOVE eBELOW aPLUS-MINUS SIGN aPLUTO bFORM FIVE cFOUR
cTHREE cTWO aPM aPOCKET CALCULATOR aPOLICE CAR bCARS REVOLVING LIGHT bOFFICER aPOODLE aPOP
DIRECTIONAL FORMATTING cISOLATE aPOPCORN aPORTABLE STEREO aPOSEIDON aPOSITION INDICATOR aPOSTAL
HORN bMARK cFACE aPOSTBOX aPOT OF FOOD aPOTABLE WATER SYMBOL aPOTATO aPOTTED PLANT aPOUCH aPOULTRY
LEG aPOUND SIGN aPOURING LIQUID aPOUTING CAT FACE bFACE aPOWER ON SYMBOL bON-OFF SYMBOL bSLEEP
SYMBOL bSYMBOL aPRAYER BEADS aPRECEDES bABOVE ALMOST EQUAL TO cEQUALS SIGN cNOT ALMOST EQUAL TO
dEQUAL TO cSINGLE-LINE EQUALS SIGN dNOT EQUAL TO bBUT NOT EQUIVALENT TO bOR EQUAL TO cEQUIVALENT
TO bUNDER RELATION aPREGNANT MAN bPERSON bWOMAN aPRESCRIPTION TAKE aPRESENTATION FORM FOR VERTICAL
COLON eCOMMA eEM DASH eEN DASH eEXCLAMATION MARK eHORIZONTAL ELLIPSIS eIDEOGRAPHIC COMMA fFULL
STOP eLEFT ANGLE BRACKET fBLACK LENTICULAR BRACKET fCORNER BRACKET fCURLY BRACKET fDOUBLE ANGLE
BRACKET fPARENTHESIS fSQUARE BRACKET fTORTOISE SHELL BRACKET fWHITE CORNER BRACKET gLENTICULAR
BRACKET eLOW LINE eQUESTION MARK eRIGHT ANGLE BRACKET fBLACK LENTICULAR BRACKET fCORNER BRACKET
fCURLY BRACKET fDOUBLE ANGLE BRACKET fPARENTHESIS fSQUARE BRACKET fTORTOISE SHELL BRACKET fWHITE
CORNER BRACKET gLENTICULAR BRACKET hBRAKCET eSEMICOLON eTWO DOT LEADER eWAVY LOW LINE aPRETZEL
aPREVIOUS PAGE aPRIME aPRINCE aPRINCESS aPRINT SCREEN SYMBOL aPRINTER bICON aPRIVACY MESSAGE
aPRIVATE USE ONE cTWO bUSE-1 bUSE-2 aPROBING CANE aPROHIBITED SIGN aPROJECTIVE aPROPERTY LINE
aPROPORTION aPROPORTIONAL TO aPROSERPINA aPSALTER PAHLAVI FOUR DOTS WITH CROSS fDOT cLETTER ALEPH
dBETH dDALETH dGIMEL dHE dHETH dKAPH dLAMEDH dMEM-QOPH dNUN dPE dSADHE dSAMEKH dSHIN dTAW
dWAW-AYIN-RESH dYODH dZAYIN cNUMBER FOUR dONE eHUNDRED dTEN dTHREE dTWENTY dTWO cSECTION MARK
cTURNED SECTION MARK aPU1 aPU2 aPUBLIC ADDRESS LOUDSPEAKER aPUNCTUATION SPACE aPUNCTUS ELEVATUS
MARK aPURPLE HEART aPURSE aPUSHPIN aPUT LITTER IN ITS PLACE SYMBOL"

def qNames : String := "
aQUADRANT LOWER LEFT cRIGHT bUPPER LEFT dAND LOWER LEFT AND LOWER RIGHT fRIGHT eUPPER RIGHT AND
LOWER LEFT iRIGHT cRIGHT dAND LOWER LEFT gAND LOWER RIGHT aQUADRUPLE INTEGRAL OPERATOR bPRIME
aQUARTER NOTE aQUATERNION INTEGRAL OPERATOR aQUESTION EXCLAMATION MARK bMARK aQUESTIONED EQUAL TO
aQUINCUNX aQUOTATION MARK"

def rNames : String := "
aRABBIT bFACE aRACCOON aRACING CAR bMOTORCYCLE aRADICAL SYMBOL BOTTOM aRADIO bBUTTON aRADIOACTIVE
SIGN aRAILWAY CAR bTRACK aRAIN aRAINBOW aRAISED BACK OF HAND bCOMMA bDOT bDOTTED INTERPOLATION
MARKER bFIST bHAND cWITH FINGERS SPLAYED dPART BETWEEN MIDDLE AND RING FINGERS bINTERPOLATION
MARKER bMC SIGN bMD SIGN bMR SIGN bSQUARE aRAM aRAT aRATIO aRAZOR aRECEIPT aRECORD SEPARATOR
aRECREATIONAL VEHICLE aRECYCLED PAPER SYMBOL aRECYCLING SYMBOL FOR GENERIC MATERIALS dTYPE-1
PLASTICS dTYPE-2 PLASTICS dTYPE-3 PLASTICS dTYPE-4 PLASTICS dTYPE-5 PLASTICS dTYPE-6 PLASTICS
dTYPE-7 PLASTICS aRED APPLE bGIFT ENVELOPE aREFERENCE MARK aREGIONAL INDICATOR SYMBOL LETTER A eB
eC eD eE eF eG eH eI eJ eK eL eM eN eO eP eQ eR eS eT eU eV eW eX eY eZ aREGISTERED SIGN aREJANG
CONSONANT SIGN H dN dNG dR bLETTER A cBA cCA cDA cGA cHA cJA cKA cLA cMA cMBA cNA cNDA cNGA cNGGA
cNYA cNYJA cPA cRA cSA cTA cWA cYA bSECTION MARK bVIRAMA bVOWEL SIGN AI dAU dE dEA dEU dI dO dU
aRELIEVED FACE aREMINDER RIBBON aREPLACEMENT CHARACTER aRESPONSE aRESTRICTED LEFT ENTRY-1 cENTRY-2
aRESTROOM aRETURN LEFT bRIGHT bSYMBOL aREVERSE CHECKER BOARD bINDEX bLIGHT FOUR POINTED PINWHEEL
STAR bLINE FEED bSOLIDUS cOPERATOR cPRECEDING SUBSET cWITH HORIZONTAL STROKE bTILDE OPERATOR ABOVE
LEFTWARDS ARROW eRIGHTWARDS ARROW aREVERSED ANGLE cWITH UNDERBAR bCOMMA bDOUBLE PRIME dQUOTATION
MARK cSTROKE NOT SIGN bEMPTY SET bFORKED PARAGRAPHOS bHAND WITH MIDDLE FINGER EXTENDED bNOT SIGN
bPILCROW SIGN bPRIME bQUESTION MARK bRAISED HAND WITH FINGERS SPLAYED bRIGHT ANGLE bROTATED FLORAL
HEART BULLET bSANS-SERIF CAPITAL L bSEMICOLON bTHUMBS DOWN SIGN cUP SIGN bTILDE cEQUALS bTRIPLE
PRIME bVICTORY HAND aREVOLVING HEARTS aRHINOCEROS aRI aRIAL SIGN aRIBBON bARROW DOWN LEFT dRIGHT
cLEFT DOWN dUP cRIGHT DOWN dUP cUP LEFT dRIGHT aRICE BALL bCRACKER aRIFLE aRIGHT AND LOWER ONE
EIGHTH BLOCK cUPPER ONE EIGHTH BLOCK bANGER BUBBLE bANGLE cBRACKET dWITH DOT cDOTTED SUBSTITUTION
MARKER cSUBSTITUTION MARKER cVARIANT WITH SQUARE cWITH ARC dDOWNWARDS ZIGZAG ARROW bARC
GREATER-THAN BRACKET bARROW WITH CIRCLED PLUS dSMALL CIRCLE bBLACK LENTICULAR BRACKET cTORTOISE
SHELL BRACKET bCEILING bCORNER BRACKET bCURLY BRACKET dLOWER HOOK dMIDDLE PIECE dUPPER HOOK
bDOTTED SUBSTITUTION BRACKET bDOUBLE ANGLE BRACKET cARROW WITH ROUNDED HEAD cPARENTHESIS
cQUOTATION MARK cWIGGLY FENCE bFISH TAIL bFIVE EIGHTHS BLOCK bFLOOR bHALF BLACK CIRCLE dSTAR
cBLOCK cFOLDER cMEDIUM SHADE cRUNNING MAN bHAND TELEPHONE RECEIVER bLOW PARAPHRASE BRACKET bNORMAL
FACTOR SEMIDIRECT PRODUCT bONE EIGHTH BLOCK cQUARTER BLOCK bOPEN SQUARED DOT bOUTER JOIN
bPARENTHESIS cEXTENSION cLOWER HOOK cUPPER HOOK bRAISED OMISSION BRACKET bS-SHAPED BAG DELIMITER
bSEMIDIRECT PRODUCT bSEVEN EIGHTHS BLOCK bSIDEWAYS U BRACKET bSINGLE QUOTATION MARK bSPEAKER cWITH
ONE SOUND WAVE dTHREE SOUND WAVES bSPEECH BUBBLE bSQUARE BRACKET dEXTENSION dLOWER CORNER dUPPER
CORNER dWITH DOUBLE STROKE eQUILL eSTROKE eTICK IN BOTTOM CORNER gTOP CORNER eUNDERBAR
bSUBSTITUTION BRACKET bTACK bTHIRD WHITE RIGHT POINTING INDEX bTHOUGHT BUBBLE bTHREE EIGHTHS BLOCK
cQUARTERS BLOCK bTORTOISE SHELL BRACKET bTRANSPOSITION BRACKET bTRIANGLE cABOVE LEFT TRIANGLE
bTRIANGULAR ONE QUARTER BLOCK bVERTICAL BAR WITH QUILL cBOX LINE bWHITE CORNER BRACKET cCURLY
BRACKET cLENTICULAR BRACKET cPARENTHESIS cSQUARE BRACKET cTORTOISE SHELL BRACKET bWIGGLY FENCE
aRIGHT-FACING ARMENIAN ETERNITY SIGN bFIST bSVASTI SIGN dWITH DOTS aRIGHT-HANDED INTERLACED
PENTAGRAM aRIGHT-POINTING ANGLE BRACKET bCURVED ANGLE BRACKET bDOUBLE ANGLE QUOTATION MARK
bMAGNIFYING GLASS aRIGHT-SHADED WHITE RIGHTWARDS ARROW aRIGHT-SIDE ARC CLOCKWISE ARROW
aRIGHT-TO-LEFT EMBEDDING bISOLATE bMARK bOVERRIDE aRIGHTHAND INTERIOR PRODUCT aRIGHTWARDS ARROW
cABOVE ALMOST EQUAL TO dREVERSE ALMOST EQUAL TO eTILDE OPERATOR dSHORT LEFTWARDS ARROW dTILDE
OPERATOR cAND UPPER AND LOWER ONE EIGHTH BLOCK cFROM BAR eTO BLACK DIAMOND cOVER LEFTWARDS ARROW
cTHROUGH GREATER-THAN dSUPERSET dX cTO BAR dBLACK DIAMOND cWITH CORNER DOWNWARDS dDOTTED STEM
dDOUBLE VERTICAL STROKE dEQUILATERAL ARROWHEAD dHOOK dLARGE TRIANGLE ARROWHEAD dLOOP dMEDIUM
TRIANGLE ARROWHEAD dNOTCHED TAIL dPLUS BELOW dSMALL EQUILATERAL ARROWHEAD eTRIANGLE ARROWHEAD
dSTROKE dTAIL eWITH DOUBLE VERTICAL STROKE fVERTICAL STROKE dTIP DOWNWARDS eUPWARDS dVERTICAL
STROKE bARROW-TAIL bBACK-TILTED SHADOWED WHITE ARROW bBLACK ARROW cCIRCLED WHITE ARROW bBOTTOM
SHADED WHITE ARROW bCOMPRESSED ARROW bDASHED ARROW bDOUBLE ARROW dFROM BAR dWITH STROKE eVERTICAL
STROKE cARROW-TAIL cDASH ARROW bFINGER-POST ARROW bFRONT-TILTED SHADOWED WHITE ARROW bHAND
bHARPOON OVER LEFTWARDS HARPOON cWITH BARB DOWN ABOVE LEFTWARDS HARPOON WITH BARB DOWN fBELOW LONG
DASH fFROM BAR fTO BAR eDOWNWARDS eUP ABOVE LEFTWARDS HARPOON WITH BARB UP gLONG DASH gRIGHTWARDS
HARPOON WITH BARB DOWN fFROM BAR fTO BAR eUPWARDS bHEAVY ARROW cCOMPRESSED ARROW bLEFT-SHADED
WHITE ARROW bOPEN-HEADED ARROW bPAIRED ARROWS bQUADRUPLE ARROW bRIGHT-SHADED WHITE ARROW bROCKET
bSANS-SERIF ARROW bSQUARED ARROW bSQUIGGLE ARROW bTOP SHADED WHITE ARROW bTRIANGLE ARROWHEAD
bTRIANGLE-HEADED ARROW dOVER LEFTWARDS TRIANGLE-HEADED ARROW dTO BAR dWITH BOLD SHAFT eDOUBLE
HORIZONTAL STROKE fVERTICAL STROKE eHEAVY SHAFT eLONG TIP DOWNWARDS gUPWARDS eMEDIUM SHAFT eNARROW
SHAFT eVERY HEAVY SHAFT cDASHED ARROW cPAIRED ARROWS bTRIPLE ARROW cDASH ARROW bTWO HEADED ARROW
bTWO-HEADED ARROW FROM BAR dWITH DOUBLE VERTICAL STROKE eTAIL fWITH DOUBLE VERTICAL STROKE
gVERTICAL STROKE eTRIANGLE ARROWHEADS eVERTICAL STROKE cTRIPLE DASH ARROW bWAVE ARROW bWHITE ARROW
dFROM WALL dWITHIN TRIANGLE ARROWHEAD aRING bABOVE bBUOY bEQUAL TO bIN EQUAL TO bOPERATOR bPOINT
aRINGED PLANET aRINGING BELL aRISING DIAGONAL CROSSING FALLING DIAGONAL dSOUTH EAST ARROW aRLE
aRLI aRLM aRLO aROASTED SWEET POTATO aROBOT FACE aROCK aROCKET aROLL OF PAPER aROLLED-UP NEWSPAPER
aROLLER COASTER bSKATE aROLLING ON THE FLOOR LAUGHING aROMAN AS SIGN bCENTURIAL SIGN bDENARIUS
SIGN bDIMIDIA SEXTULA SIGN bDUPONDIUS SIGN bNUMERAL EIGHT cELEVEN cFIFTY dEARLY FORM dTHOUSAND
cFIVE dHUNDRED dTHOUSAND cFOUR cNINE cONE dHUNDRED eTHOUSAND dTHOUSAND eC D cREVERSED ONE HUNDRED
cSEVEN cSIX dLATE FORM cTEN dTHOUSAND cTHREE cTWELVE cTWO bQUINARIUS SIGN bSEMUNCIA SIGN
bSESTERTIUS SIGN bSEXTANS SIGN bSEXTULA SIGN bSILIQUA SIGN bUNCIA SIGN aROOSTER aROSE aROSETTE
aROTATED CAPITAL Q bFLORAL HEART BULLET bHEAVY BLACK HEART BULLET bLIGHT FOUR POINTED BLACK CUSP
bWHITE FOUR POINTED CUSP aROUND PUSHPIN bTARGET aROUNDED SYMBOL FOR CAI dFU dLU dSHOU dSHUANGXI
dXI aROWBOAT aRS aRUBLE SIGN aRUGBY FOOTBALL aRULE-DELAYED aRUMI DIGIT EIGHT cFIVE cFOUR cNINE
cONE cSEVEN cSIX cTHREE cTWO bFRACTION ONE HALF dQUARTER dTHIRD cTWO THIRDS bNUMBER EIGHT HUNDRED
cEIGHTY cFIFTY cFIVE HUNDRED cFORTY cFOUR HUNDRED cNINE HUNDRED cNINETY cONE HUNDRED cSEVEN
HUNDRED cSEVENTY cSIX HUNDRED cSIXTY cTEN cTHIRTY cTHREE HUNDRED cTWENTY cTWO HUNDRED aRUNIC
ARLAUG SYMBOL bBELGTHOR SYMBOL bCROSS PUNCTUATION bLETTER AC A cAESC cALGIZ EOLHX cANSUZ A
cBERKANAN BEORC BJARKAN B cC cCALC cCEALC cCEN cCWEORTH cD cDAGAZ DAEG D cDOTTED-L cDOTTED-N
cDOTTED-P cE cEAR cEHWAZ EH E cENG cETH cFEHU FEOH FE F cFRANKS CASKET AC eAESC eEH eIS eOS cG
cGAR cGEBO GYFU G cGER cHAEGL H cHAGLAZ H cICELANDIC-YR cING cINGWAZ cIOR cISAZ IS ISS I cIWAZ EOH
cJERAN J cK cKAUN K cKAUNA cLAUKAZ LAGU LOGR L cLONG-BRANCH-AR AE cLONG-BRANCH-HAGALL H
cLONG-BRANCH-MADR M cLONG-BRANCH-OSS O cLONG-BRANCH-YR cMANNAZ MAN M cNAUDIZ NYD NAUD N cO cOE cON
cOO cOPEN-P cOS O cOTHALAN ETHEL O cPERTHO PEORTH P cQ cRAIDO RAD REID R cSH cSHORT-TWIG-AR A
cSHORT-TWIG-BJARKAN B cSHORT-TWIG-HAGALL H cSHORT-TWIG-MADR M cSHORT-TWIG-NAUD N cSHORT-TWIG-OSS O
cSHORT-TWIG-SOL S cSHORT-TWIG-TYR T cSHORT-TWIG-YR cSIGEL LONG-BRANCH-SOL S cSOWILO S cSTAN
cTHURISAZ THURS THORN cTIWAZ TIR TYR T cURUZ UR U cV cW cWUNJO WYNN W cX cY cYR cZ bMULTIPLE
PUNCTUATION bSINGLE PUNCTUATION bTVIMADUR SYMBOL aRUNNER aRUNNING SHIRT WITH SASH aRUPEE SIGN
aRUSSIAN ASTROLOGICAL SYMBOL BINOVILE dNOVILE dQUINTILE dSENTAGON dTREDECILE dVIGINTILE"

end NetLookup.Text.CharacterName
