/-! # Names of characters that begin with C -/

namespace NetLookup.Text.CharacterName

def cNames : String := "
aCACTUS aCADA UNA aCADUCEUS aCALENDAR aCALL ME HAND aCAMERA bWITH FLASH aCAMPING aCAN aCANADIAN
SYLLABICS A cAA cAAI cAAY cAI cAIVILIK B cAN cATHAPASCAN M dS cAY cBEAVER DENE L eR cBIBLE-CREE Y
cBLACKFOOT A dE dI dKA dKE dKI dKO dNA dNE dNI dNO dO dS dW dWA dWE dWI dWO cC cCA cCAA cCAAI
cCARRIER CHA dCHE dCHEE dCHI dCHO dCHU dDEE dDENE GEE dDENTAL S dDI dDLA dDLE dDLEE dDLI dDLO dDLU
dDZA dDZE dDZEE dDZI dDZO dDZU dEE dGA dGAA dGE dGEE dGHA dGHE dGHEE dGHI dGHO dGHU dGI dGO dGU
dGWA dGWU dH dHEE dHI dHWA dHWE dHWEE dHWI dHWO dHWU dI dINITIAL Z dJA dJE dJEE dJI dJJA dJJE
dJJEE dJJI dJJO dJJU dJO dJU dJWA dKHA dKHE dKHEE dKHI dKHO dKHU dKK dKKA dKKE dKKEE dKKI dKKO
dKKU dLA dLE dLEE dLHA dLHE dLHEE dLHI dLHO dLHU dLI dLO dLU dMA dME dMEE dMI dMO dMU dNA dNE dNEE
dNG dNI dNO dNU dP dPA dPE dPEE dPI dPO dPU dRA dRE dREE dRI dRO dRU dSA dSE dSEE dSH dSHA dSHE
dSHEE dSHI dSHO dSHU dSI dSO dSU dTHA dTHE dTHEE dTHI dTHO dTHU dTLA dTLE dTLEE dTLHA dTLHE dTLHEE
dTLHI dTLHO dTLHU dTLI dTLO dTLU dTSA dTSE dTSEE dTSI dTSO dTSU dTTA dTTE dTTEE dTTI dTTO dTTSA
dTTSE dTTSEE dTTSI dTTSO dTTSU dTTU dWA dWE dWEE dWI dWO dWU dYA dYE dYEE dYI dYO dYU dZ dZA dZE
dZEE dZI dZO dZU cCE cCHI SIGN cCI cCII cCO cCOO cCWA cCWAA cCWE cCWI cCWII cCWO cCWOO cE cEASTERN
W cEN cF cFA cFAA cFAAI cFE cFI cFII cFINAL ACUTE dBOTTOM HALF RING dDOUBLE ACUTE eSHORT VERTICAL
STROKES dDOWN TACK dGRAVE dMIDDLE DOT dPLUS dRAISED DOT dRIGHT HALF RING dRING dSHORT HORIZONTAL
STROKE dSMALL RING dTOP HALF RING cFO cFOO cFULL STOP cFWAA cGLOTTAL STOP cHK cHYPHEN cI cII cIN
cK cKA cKAA cKAAI cKAY cKE cKI cKII cKO cKOO cKW cKWA cKWAA cKWAY cKWE cKWI cKWII cKWO cKWOO cL
cLA cLAA cLAAI cLAY cLE cLH cLHA cLHAA cLHI cLHII cLHO cLHOO cLI cLII cLO cLOO cLWA cLWAA cLWE
cLWI cLWII cLWO cLWOO cM cMA cMAA cMAAI cMAY cME cMEDIAL L dR cMH cMI cMII cMO cMOO cMOOSE-CREE SK
cMWA cMWAA cMWE cMWI cMWII cMWO cMWOO cN cN-CREE THE dTHI dTHII cNA cNAA cNAAI cNASKAPI CWAA dKWAA
dMWAA dNWAA dS-W dSCWA dSKW dSKWA dSPWA dSTWA dSWAA dTWAA dWAA dWOO dYWAA cNATTILIK HA dHAA dHI
dHII dHO dHOO dSHRA dSHRAA dSHRI dSHRII dSHRO dSHROO cNAY cNE cNG cNGA cNGAA cNGAAI cNGAI cNGI
cNGII cNGO cNGOO cNH cNI cNII cNNG cNNGA cNNGAA cNNGI cNNGII cNNGO cNNGOO cNO cNOO cNOY cNUNAVIK H
dHA dHAA dHE dHI dHII dHO dHOO cNUNAVUT H cNWA cNWAA cNWE cNWI cNWII cNWO cNWOO cO cOJIBWAY C dK
dM dN dNWI dNWII dNWO dNWOO dP dS dSH dT cON cOO cOY cP cPA cPAA cPAAI cPAY cPE cPI cPII cPO cPOO
cPOY cPWA cPWAA cPWE cPWI cPWII cPWO cPWOO cPWOY cQ cQA cQAA cQAAI cQAI cQI cQII cQO cQOO cR
cR-CREE RE dRWE cRA cRAA cRAAI cRAY cRE cRI cRII cRO cROO cRWA cRWAA cRWEE cRWI cRWII cRWO cRWOO
cS cSA cSAA cSAAI cSAY cSAYISI HA dHE dHI dHO dHOO dJI dJU dJUU dM dSHA dSHE dSHI dSHO dSHOO dSHWE
dTH dYI cSE cSH cSHA cSHAA cSHAY cSHE cSHI cSHII cSHO cSHOO cSHOY cSHWA cSHWAA cSHWE cSHWI cSHWII
cSHWO cSHWOO cSHWOY cSI cSII cSO cSOO cSOUTH-SLAVEY KAH dKEH dKIH dKOH cSOY cSPA cSPE cSPI cSPO
cSW cSWA cSWAA cSWE cSWI cSWII cSWO cSWOO cT cTA cTAA cTAAI cTAY cTE cTH cTH-CREE TH dTHA dTHAA
dTHE dTHI dTHII dTHO dTHOO cTHA cTHAA cTHE cTHI cTHII cTHO cTHOO cTHWA cTHWAA cTHWE cTI cTII cTLHA
cTLHE cTLHI cTLHO cTLHOO cTLHWE cTO cTOO cTTA cTTE cTTH cTTHA cTTHAA cTTHE cTTHI cTTHO cTTHOO
cTTHWE cTTI cTTO cTWA cTWAA cTWE cTWI cTWII cTWO cTWOO cTYA cTYE cTYI cTYO cWA cWAA cWAY cWE
cWEST-CREE CWA dCWAA dCWE dCWI dCWII dCWO dCWOO dFWAA dKWA dKWAA dKWE dKWI dKWII dKWO dKWOO dL dLA
dLAA dLE dLO dLOO dLWA dLWAA dLWE dLWI dLWII dLWO dLWOO dM dMWA dMWAA dMWE dMWI dMWII dMWO dMWOO
dNWA dNWAA dNWE dP dPWA dPWAA dPWE dPWI dPWII dPWO dPWOO dR dRA dRE dRI dRO dRWAA dSHWA dSHWAA
dSHWE dSHWI dSHWII dSHWO dSHWOO dSWA dSWAA dSWE dSWI dSWII dSWO dSWOO dTHWAA dTWA dTWAA dTWE dTWI
dTWII dTWO dTWOO dWA dWAA dWE dWI dWII dWO dWOO dY dYWA dYWAA dYWE dYWI dYWII dYWO dYWOO cWESTERN
W cWI cWII cWO cWOO cWOODS-CREE FINAL TH dTH dTHA dTHE dTHI dTHO dTHWA dTHWAA dTHWEE dTHWI dTHWII
dTHWO dTHWOO cY cY-CREE COO dKOO dLOO dMOO dNOO dOO dPOO dPWAA dSOO dTOO dW dYOO cYA cYAA cYAAI
cYAY cYE cYI cYII cYO cYOO cYOY cYWA cYWAA cYWE cYWI cYWII cYWO cYWOO aCANCEL bCHARACTER bTAG
aCANCELLATION X aCANCER aCANDLE aCANDY aCANNED FOOD aCANOE aCAPITULUM aCAPRICORN aCAR SLIDING
aCARD FILE BOX bINDEX cDIVIDERS aCARE OF aCARET bINSERTION POINT aCARIAN LETTER A cA2 cB cC-18
cC-39 cD cD2 cE cE2 cG cG2 cI cII cK cK2 cL cLD cLD2 cM cMB cMB2 cMB3 cMB4 cN cND cNG cNN cO cP
cP2 cQ cR cRR cS cSH cSH2 cSS cST cST2 cT cTT cTT2 cU cUU cUUU cUUU2 cUUU3 cUUUU cX aCARON
aCAROUSEL HORSE aCARP STREAMER aCARPENTRY SAW aCARRIAGE RETURN aCARROT aCASTLE aCAT bFACE cWITH
TEARS OF JOY dWRY SMILE aCAUCASIAN ALBANIAN CITATION MARK cLETTER ALT dAOR dBET dCAR dCAYN dCHA
dCHAT dCHI dCHOY dCYAW dCYAY dDAT dDYAN dDZAY dDZYAY dEB dEYN dFAM dGHEYS dGIM dHEYT dINYA dIRB
dIWN dJAYN dJHOX dKAR dKIW dLAN dLYIT dMAQ dNOWC dON dPEN dPIWR dQAR dQAY dRAT dSEYK dSHA dSHAK
dSHOY dTAS dTIWR dTYAY dVEYZ dXEYN dYAYD dYOWD dZARL dZHA dZHIL aCAUTION SIGN aCCH aCEDI SIGN
aCEDILLA aCELTIC CROSS aCENT SIGN aCENTRE LINE SYMBOL aCENTRELINE LOW LINE bOVERLINE aCERES aCGJ
aCHAINS aCHAIR aCHAKMA AU MARK bDANDA bDIGIT EIGHT cFIVE cFOUR cNINE cONE cSEVEN cSIX cTHREE cTWO
cZERO bDOUBLE DANDA bLETTER AA cBAA cBHAA cCAA cCHAA cDAA cDDAA cDDHAA cDHAA cE cGAA cGHAA cHAA cI
cJAA cJHAA cKAA cKHAA cLAA cLHAA cMAA cNAA cNGAA cNNAA cNYAA cPAA cPHAA cRAA cSAA cTAA cTHAA cTTAA
cTTHAA cU cVAA cWAA cYAA cYYAA bMAAYYAA bO MARK bQUESTION MARK bSECTION MARK bSIGN ANUSVARA
cCANDRABINDU cVISARGA bVIRAMA bVOWEL SIGN A dAA dAI dAU dE dEI dI dII dO dOI dU dUU aCHAM
CONSONANT SIGN FINAL H eM eNG dLA dRA dWA dYA bDIGIT EIGHT cFIVE cFOUR cNINE cONE cSEVEN cSIX
cTHREE cTWO cZERO bLETTER A cAI cBA cBBA cBHA cCHA cCHHA cDA cDDA cDHA cE cFINAL CH dG dK dL dN
dNG dP dR dSS dT dY cGA cGHA cHA cI cJA cJHA cKA cKHA cLA cMA cMUE cNA cNGA cNGUE cNHA cNHJA cNHUE
cNUE cO cPA cPHA cPPA cRA cSA cSSA cTA cTHA cU cVA cYA bPUNCTUATION DANDA cDOUBLE DANDA cSPIRAL
cTRIPLE DANDA bVOWEL SIGN AA dAI dAU dEI dI dII dO dOE dU dUE aCHARACTER TABULATION cSET cWITH
JUSTIFICATION bTIE aCHART WITH DOWNWARDS TREND cUPWARDS TREND eAND YEN SIGN aCHECK MARK aCHECKER
BOARD cFILL aCHEERING MEGAPHONE aCHEESE WEDGE aCHEQUERED FLAG aCHEROKEE LETTER A cDA cDE cDI cDLA
cDO cDU cDV cE cGA cGE cGI cGO cGU cGV cHA cHE cHI cHNA cHO cHU cHV cI cKA cLA cLE cLI cLO cLU cLV
cMA cME cMI cMO cMU cMV cNA cNAH cNE cNI cNO cNU cNV cO cQUA cQUE cQUI cQUO cQUU cQUV cS cSA cSE
cSI cSO cSU cSV cTA cTE cTI cTLA cTLE cTLI cTLO cTLU cTLV cTSA cTSE cTSI cTSO cTSU cTSV cU cV cWA
cWE cWI cWO cWU cWV cYA cYE cYI cYO cYU cYV bSMALL LETTER A dDA dDE dDI dDLA dDO dDU dDV dE dGA
dGE dGI dGO dGU dGV dHA dHE dHI dHNA dHO dHU dHV dI dKA dLA dLE dLI dLO dLU dLV dMA dME dMI dMO
dMU dMV dNA dNAH dNE dNI dNO dNU dNV dO dQUA dQUE dQUI dQUO dQUU dQUV dS dSA dSE dSI dSO dSU dSV
dTA dTE dTI dTLA dTLE dTLI dTLO dTLU dTLV dTSA dTSE dTSI dTSO dTSU dTSV dU dV dWA dWE dWI dWO dWU
dWV dYA dYE dYI dYO dYU dYV aCHERRIES aCHERRY BLOSSOM aCHESTNUT aCHI RHO aCHICKEN aCHILD aCHILDREN
CROSSING aCHIPMUNK aCHIRON aCHOCOLATE BAR aCHOPSTICKS aCHORASMIAN LETTER ALEPH cAYIN cBETH cCURLED
WAW cDALETH cGIMEL cHE cHETH cKAPH cLAMEDH cMEM cNUN cPE cRESH cSAMEKH cSHIN cSMALL ALEPH cTAW
cWAW cYODH cZAYIN bNUMBER FOUR cONE dHUNDRED cTEN cTHREE cTWENTY cTWO aCHRISTMAS TREE aCHURCH
aCINEMA aCIRCLE DIVIDED BY HORIZONTAL BAR AND TOP HALF DIVIDED BY VERTICAL BAR bWITH ALL BUT UPPER
LEFT QUADRANT BLACK cHORIZONTAL BAR cLEFT HALF BLACK cLOWER HALF BLACK cRIGHT HALF BLACK cSMALL
CIRCLE TO THE RIGHT cSUPERIMPOSED X cTWO HORIZONTAL STROKES TO THE RIGHT cUPPER HALF BLACK dRIGHT
QUADRANT BLACK cVERTICAL FILL aCIRCLED ANTICLOCKWISE ARROW bANTICLOCKWISE-ROTATED DIVISION SIGN
bASTERISK OPERATOR bBOLD X bBULLET bC WITH OVERLAID BACKSLASH bCC bCD bCROSS FORMEE dWITH FOUR
DOTS eTWO DOTS cPOMMEE bCROSSING LANES bDASH bDIGIT EIGHT cFIVE cFOUR cNINE cONE cSEVEN cSIX
cTHREE cTWO cZERO bDIVISION SIGN cSLASH bDOLLAR SIGN WITH OVERLAID BACKSLASH bDOT OPERATOR bEQUALS
bGREATER-THAN bHANGUL CHIEUCH dA cCIEUC dA cHIEUH dA cIEUNG dA dU cKHIEUKH dA cKIYEOK dA cMIEUM dA
cNIEUN dA cPHIEUPH dA cPIEUP dA cRIEUL dA cSIOS dA cTHIEUTH dA cTIKEUT dA bHEAVY WHITE RIGHTWARDS
ARROW bHORIZONTAL BAR WITH NOTCH bHUMAN FIGURE bIDEOGRAPH ACCEPT cADVANTAGE cALLIANCE cATTENTION
cCENTRE cCONGRATULATION cCOPY cCORRECT cEARTH cEIGHT cENTERPRISE cEXCELLENT cFEMALE cFINANCIAL
cFIRE cFIVE cFOUR cHAVE cHIGH cITEM cKINDERGARTEN cKOTO cLABOR cLEFT cLOW cMALE cMEDICINE cMETAL
cMOON cNAME cNIGHT cNINE cONE cPRINT cQUESTION cRELIGION cRESOURCE cREST cRIGHT cSCHOOL cSECRET
cSEVEN cSIX cSOCIETY cSPECIAL cSTOCK cSTUDY cSUITABLE cSUN cSUPERVISE cTEN cTHREE cTWO cWATER
cWOOD bINFORMATION SOURCE bITALIC LATIN CAPITAL LETTER C fR bKATAKANA A cE cHA cHE cHI cHO cHU cI
cKA cKE cKI cKO cKU cMA cME cMI cMO cMU cNA cNE cNI cNO cNU cO cRA cRE cRI cRO cRU cSA cSE cSI cSO
cSU cTA cTE cTI cTO cTU cU cWA cWE cWI cWO cYA cYO cYU bKOREAN CHARACTER CHAMKO dJUEUI bLATIN
CAPITAL LETTER A eB eC eD eE eF eG eH eI eJ eK eL eM eN eO eP eQ eR eS eT eU eV eW eX eY eZ cSMALL
LETTER A eB eC eD eE eF eG eH eI eJ eK eL eM eN eO eP eQ eR eS eT eU eV eW eX eY eZ bLESS-THAN
bMINUS bMULTIPLICATION SIGN WITH CIRCUMFLEX ACCENT bNUMBER EIGHTEEN cEIGHTY ON BLACK SQUARE
cELEVEN cFIFTEEN cFIFTY dON BLACK SQUARE cFORTY dEIGHT dFIVE dFOUR dNINE dON BLACK SQUARE dONE
dSEVEN dSIX dTHREE dTWO cFOURTEEN cNINETEEN cSEVENTEEN cSEVENTY ON BLACK SQUARE cSIXTEEN cSIXTY ON
BLACK SQUARE cTEN dON BLACK SQUARE cTHIRTEEN cTHIRTY dEIGHT dFIVE dFOUR dNINE dON BLACK SQUARE
dONE dSEVEN dSIX dTHREE dTWO cTWELVE cTWENTY dEIGHT dFIVE dFOUR dNINE dON BLACK SQUARE dONE dSEVEN
dSIX dTHREE dTWO bOPEN CENTRE EIGHT POINTED STAR bPARALLEL bPERPENDICULAR bPLUS bPOSTAL MARK
bREVERSE SOLIDUS bRING OPERATOR bSQUARE bTIMES bTRIANGLE cDOWN bVERTICAL BAR bWHITE BULLET cSTAR
bWZ bX bZERO WITH SLASH aCIRCULATION FUNCTION aCIRCUMFLEX ACCENT aCIRCUS TENT aCITYSCAPE bAT DUSK
aCJK COMPATIBILITY IDEOGRAPH-2F800 cIDEOGRAPH-2F801 cIDEOGRAPH-2F802 cIDEOGRAPH-2F803
cIDEOGRAPH-2F804 cIDEOGRAPH-2F805 cIDEOGRAPH-2F806 cIDEOGRAPH-2F807 cIDEOGRAPH-2F808
cIDEOGRAPH-2F809 cIDEOGRAPH-2F80A cIDEOGRAPH-2F80B cIDEOGRAPH-2F80C cIDEOGRAPH-2F80D
cIDEOGRAPH-2F80E cIDEOGRAPH-2F80F cIDEOGRAPH-2F810 cIDEOGRAPH-2F811 cIDEOGRAPH-2F812
cIDEOGRAPH-2F813 cIDEOGRAPH-2F814 cIDEOGRAPH-2F815 cIDEOGRAPH-2F816 cIDEOGRAPH-2F817
cIDEOGRAPH-2F818 cIDEOGRAPH-2F819 cIDEOGRAPH-2F81A cIDEOGRAPH-2F81B cIDEOGRAPH-2F81C
cIDEOGRAPH-2F81D cIDEOGRAPH-2F81E cIDEOGRAPH-2F81F cIDEOGRAPH-2F820 cIDEOGRAPH-2F821
cIDEOGRAPH-2F822 cIDEOGRAPH-2F823 cIDEOGRAPH-2F824 cIDEOGRAPH-2F825 cIDEOGRAPH-2F826
cIDEOGRAPH-2F827 cIDEOGRAPH-2F828 cIDEOGRAPH-2F829 cIDEOGRAPH-2F82A cIDEOGRAPH-2F82B
cIDEOGRAPH-2F82C cIDEOGRAPH-2F82D cIDEOGRAPH-2F82E cIDEOGRAPH-2F82F cIDEOGRAPH-2F830
cIDEOGRAPH-2F831 cIDEOGRAPH-2F832 cIDEOGRAPH-2F833 cIDEOGRAPH-2F834 cIDEOGRAPH-2F835
cIDEOGRAPH-2F836 cIDEOGRAPH-2F837 cIDEOGRAPH-2F838 cIDEOGRAPH-2F839 cIDEOGRAPH-2F83A
cIDEOGRAPH-2F83B cIDEOGRAPH-2F83C cIDEOGRAPH-2F83D cIDEOGRAPH-2F83E cIDEOGRAPH-2F83F
cIDEOGRAPH-2F840 cIDEOGRAPH-2F841 cIDEOGRAPH-2F842 cIDEOGRAPH-2F843 cIDEOGRAPH-2F844
cIDEOGRAPH-2F845 cIDEOGRAPH-2F846 cIDEOGRAPH-2F847 cIDEOGRAPH-2F848 cIDEOGRAPH-2F849
cIDEOGRAPH-2F84A cIDEOGRAPH-2F84B cIDEOGRAPH-2F84C cIDEOGRAPH-2F84D cIDEOGRAPH-2F84E
cIDEOGRAPH-2F84F cIDEOGRAPH-2F850 cIDEOGRAPH-2F851 cIDEOGRAPH-2F852 cIDEOGRAPH-2F853
cIDEOGRAPH-2F854 cIDEOGRAPH-2F855 cIDEOGRAPH-2F856 cIDEOGRAPH-2F857 cIDEOGRAPH-2F858
cIDEOGRAPH-2F859 cIDEOGRAPH-2F85A cIDEOGRAPH-2F85B cIDEOGRAPH-2F85C cIDEOGRAPH-2F85D
cIDEOGRAPH-2F85E cIDEOGRAPH-2F85F cIDEOGRAPH-2F860 cIDEOGRAPH-2F861 cIDEOGRAPH-2F862
cIDEOGRAPH-2F863 cIDEOGRAPH-2F864 cIDEOGRAPH-2F865 cIDEOGRAPH-2F866 cIDEOGRAPH-2F867
cIDEOGRAPH-2F868 cIDEOGRAPH-2F869 cIDEOGRAPH-2F86A cIDEOGRAPH-2F86B cIDEOGRAPH-2F86C
cIDEOGRAPH-2F86D cIDEOGRAPH-2F86E cIDEOGRAPH-2F86F cIDEOGRAPH-2F870 cIDEOGRAPH-2F871
cIDEOGRAPH-2F872 cIDEOGRAPH-2F873 cIDEOGRAPH-2F874 cIDEOGRAPH-2F875 cIDEOGRAPH-2F876
cIDEOGRAPH-2F877 cIDEOGRAPH-2F878 cIDEOGRAPH-2F879 cIDEOGRAPH-2F87A cIDEOGRAPH-2F87B
cIDEOGRAPH-2F87C cIDEOGRAPH-2F87D cIDEOGRAPH-2F87E cIDEOGRAPH-2F87F cIDEOGRAPH-2F880
cIDEOGRAPH-2F881 cIDEOGRAPH-2F882 cIDEOGRAPH-2F883 cIDEOGRAPH-2F884 cIDEOGRAPH-2F885
cIDEOGRAPH-2F886 cIDEOGRAPH-2F887 cIDEOGRAPH-2F888 cIDEOGRAPH-2F889 cIDEOGRAPH-2F88A
cIDEOGRAPH-2F88B cIDEOGRAPH-2F88C cIDEOGRAPH-2F88D cIDEOGRAPH-2F88E cIDEOGRAPH-2F88F
cIDEOGRAPH-2F890 cIDEOGRAPH-2F891 cIDEOGRAPH-2F892 cIDEOGRAPH-2F893 cIDEOGRAPH-2F894
cIDEOGRAPH-2F895 cIDEOGRAPH-2F896 cIDEOGRAPH-2F897 cIDEOGRAPH-2F898 cIDEOGRAPH-2F899
cIDEOGRAPH-2F89A cIDEOGRAPH-2F89B cIDEOGRAPH-2F89C cIDEOGRAPH-2F89D cIDEOGRAPH-2F89E
cIDEOGRAPH-2F89F cIDEOGRAPH-2F8A0 cIDEOGRAPH-2F8A1 cIDEOGRAPH-2F8A2 cIDEOGRAPH-2F8A3
cIDEOGRAPH-2F8A4 cIDEOGRAPH-2F8A5 cIDEOGRAPH-2F8A6 cIDEOGRAPH-2F8A7 cIDEOGRAPH-2F8A8
cIDEOGRAPH-2F8A9 cIDEOGRAPH-2F8AA cIDEOGRAPH-2F8AB cIDEOGRAPH-2F8AC cIDEOGRAPH-2F8AD
cIDEOGRAPH-2F8AE cIDEOGRAPH-2F8AF cIDEOGRAPH-2F8B0 cIDEOGRAPH-2F8B1 cIDEOGRAPH-2F8B2
cIDEOGRAPH-2F8B3 cIDEOGRAPH-2F8B4 cIDEOGRAPH-2F8B5 cIDEOGRAPH-2F8B6 cIDEOGRAPH-2F8B7
cIDEOGRAPH-2F8B8 cIDEOGRAPH-2F8B9 cIDEOGRAPH-2F8BA cIDEOGRAPH-2F8BB cIDEOGRAPH-2F8BC
cIDEOGRAPH-2F8BD cIDEOGRAPH-2F8BE cIDEOGRAPH-2F8BF cIDEOGRAPH-2F8C0 cIDEOGRAPH-2F8C1
cIDEOGRAPH-2F8C2 cIDEOGRAPH-2F8C3 cIDEOGRAPH-2F8C4 cIDEOGRAPH-2F8C5 cIDEOGRAPH-2F8C6
cIDEOGRAPH-2F8C7 cIDEOGRAPH-2F8C8 cIDEOGRAPH-2F8C9 cIDEOGRAPH-2F8CA cIDEOGRAPH-2F8CB
cIDEOGRAPH-2F8CC cIDEOGRAPH-2F8CD cIDEOGRAPH-2F8CE cIDEOGRAPH-2F8CF cIDEOGRAPH-2F8D0
cIDEOGRAPH-2F8D1 cIDEOGRAPH-2F8D2 cIDEOGRAPH-2F8D3 cIDEOGRAPH-2F8D4 cIDEOGRAPH-2F8D5
cIDEOGRAPH-2F8D6 cIDEOGRAPH-2F8D7 cIDEOGRAPH-2F8D8 cIDEOGRAPH-2F8D9 cIDEOGRAPH-2F8DA
cIDEOGRAPH-2F8DB cIDEOGRAPH-2F8DC cIDEOGRAPH-2F8DD cIDEOGRAPH-2F8DE cIDEOGRAPH-2F8DF
cIDEOGRAPH-2F8E0 cIDEOGRAPH-2F8E1 cIDEOGRAPH-2F8E2 cIDEOGRAPH-2F8E3 cIDEOGRAPH-2F8E4
cIDEOGRAPH-2F8E5 cIDEOGRAPH-2F8E6 cIDEOGRAPH-2F8E7 cIDEOGRAPH-2F8E8 cIDEOGRAPH-2F8E9
cIDEOGRAPH-2F8EA cIDEOGRAPH-2F8EB cIDEOGRAPH-2F8EC cIDEOGRAPH-2F8ED cIDEOGRAPH-2F8EE
cIDEOGRAPH-2F8EF cIDEOGRAPH-2F8F0 cIDEOGRAPH-2F8F1 cIDEOGRAPH-2F8F2 cIDEOGRAPH-2F8F3
cIDEOGRAPH-2F8F4 cIDEOGRAPH-2F8F5 cIDEOGRAPH-2F8F6 cIDEOGRAPH-2F8F7 cIDEOGRAPH-2F8F8
cIDEOGRAPH-2F8F9 cIDEOGRAPH-2F8FA cIDEOGRAPH-2F8FB cIDEOGRAPH-2F8FC cIDEOGRAPH-2F8FD
cIDEOGRAPH-2F8FE cIDEOGRAPH-2F8FF cIDEOGRAPH-2F900 cIDEOGRAPH-2F901 cIDEOGRAPH-2F902
cIDEOGRAPH-2F903 cIDEOGRAPH-2F904 cIDEOGRAPH-2F905 cIDEOGRAPH-2F906 cIDEOGRAPH-2F907
cIDEOGRAPH-2F908 cIDEOGRAPH-2F909 cIDEOGRAPH-2F90A cIDEOGRAPH-2F90B cIDEOGRAPH-2F90C
cIDEOGRAPH-2F90D cIDEOGRAPH-2F90E cIDEOGRAPH-2F90F cIDEOGRAPH-2F910 cIDEOGRAPH-2F911
cIDEOGRAPH-2F912 cIDEOGRAPH-2F913 cIDEOGRAPH-2F914 cIDEOGRAPH-2F915 cIDEOGRAPH-2F916
cIDEOGRAPH-2F917 cIDEOGRAPH-2F918 cIDEOGRAPH-2F919 cIDEOGRAPH-2F91A cIDEOGRAPH-2F91B
cIDEOGRAPH-2F91C cIDEOGRAPH-2F91D cIDEOGRAPH-2F91E cIDEOGRAPH-2F91F cIDEOGRAPH-2F920
cIDEOGRAPH-2F921 cIDEOGRAPH-2F922 cIDEOGRAPH-2F923 cIDEOGRAPH-2F924 cIDEOGRAPH-2F925
cIDEOGRAPH-2F926 cIDEOGRAPH-2F927 cIDEOGRAPH-2F928 cIDEOGRAPH-2F929 cIDEOGRAPH-2F92A
cIDEOGRAPH-2F92B cIDEOGRAPH-2F92C cIDEOGRAPH-2F92D cIDEOGRAPH-2F92E cIDEOGRAPH-2F92F
cIDEOGRAPH-2F930 cIDEOGRAPH-2F931 cIDEOGRAPH-2F932 cIDEOGRAPH-2F933 cIDEOGRAPH-2F934
cIDEOGRAPH-2F935 cIDEOGRAPH-2F936 cIDEOGRAPH-2F937 cIDEOGRAPH-2F938 cIDEOGRAPH-2F939
cIDEOGRAPH-2F93A cIDEOGRAPH-2F93B cIDEOGRAPH-2F93C cIDEOGRAPH-2F93D cIDEOGRAPH-2F93E
cIDEOGRAPH-2F93F cIDEOGRAPH-2F940 cIDEOGRAPH-2F941 cIDEOGRAPH-2F942 cIDEOGRAPH-2F943
cIDEOGRAPH-2F944 cIDEOGRAPH-2F945 cIDEOGRAPH-2F946 cIDEOGRAPH-2F947 cIDEOGRAPH-2F948
cIDEOGRAPH-2F949 cIDEOGRAPH-2F94A cIDEOGRAPH-2F94B cIDEOGRAPH-2F94C cIDEOGRAPH-2F94D
cIDEOGRAPH-2F94E cIDEOGRAPH-2F94F cIDEOGRAPH-2F950 cIDEOGRAPH-2F951 cIDEOGRAPH-2F952
cIDEOGRAPH-2F953 cIDEOGRAPH-2F954 cIDEOGRAPH-2F955 cIDEOGRAPH-2F956 cIDEOGRAPH-2F957
cIDEOGRAPH-2F958 cIDEOGRAPH-2F959 cIDEOGRAPH-2F95A cIDEOGRAPH-2F95B cIDEOGRAPH-2F95C
cIDEOGRAPH-2F95D cIDEOGRAPH-2F95E cIDEOGRAPH-2F95F cIDEOGRAPH-2F960 cIDEOGRAPH-2F961
cIDEOGRAPH-2F962 cIDEOGRAPH-2F963 cIDEOGRAPH-2F964 cIDEOGRAPH-2F965 cIDEOGRAPH-2F966
cIDEOGRAPH-2F967 cIDEOGRAPH-2F968 cIDEOGRAPH-2F969 cIDEOGRAPH-2F96A cIDEOGRAPH-2F96B
cIDEOGRAPH-2F96C cIDEOGRAPH-2F96D cIDEOGRAPH-2F96E cIDEOGRAPH-2F96F cIDEOGRAPH-2F970
cIDEOGRAPH-2F971 cIDEOGRAPH-2F972 cIDEOGRAPH-2F973 cIDEOGRAPH-2F974 cIDEOGRAPH-2F975
cIDEOGRAPH-2F976 cIDEOGRAPH-2F977 cIDEOGRAPH-2F978 cIDEOGRAPH-2F979 cIDEOGRAPH-2F97A
cIDEOGRAPH-2F97B cIDEOGRAPH-2F97C cIDEOGRAPH-2F97D cIDEOGRAPH-2F97E cIDEOGRAPH-2F97F
cIDEOGRAPH-2F980 cIDEOGRAPH-2F981 cIDEOGRAPH-2F982 cIDEOGRAPH-2F983 cIDEOGRAPH-2F984
cIDEOGRAPH-2F985 cIDEOGRAPH-2F986 cIDEOGRAPH-2F987 cIDEOGRAPH-2F988 cIDEOGRAPH-2F989
cIDEOGRAPH-2F98A cIDEOGRAPH-2F98B cIDEOGRAPH-2F98C cIDEOGRAPH-2F98D cIDEOGRAPH-2F98E
cIDEOGRAPH-2F98F cIDEOGRAPH-2F990 cIDEOGRAPH-2F991 cIDEOGRAPH-2F992 cIDEOGRAPH-2F993
cIDEOGRAPH-2F994 cIDEOGRAPH-2F995 cIDEOGRAPH-2F996 cIDEOGRAPH-2F997 cIDEOGRAPH-2F998
cIDEOGRAPH-2F999 cIDEOGRAPH-2F99A cIDEOGRAPH-2F99B cIDEOGRAPH-2F99C cIDEOGRAPH-2F99D
cIDEOGRAPH-2F99E cIDEOGRAPH-2F99F cIDEOGRAPH-2F9A0 cIDEOGRAPH-2F9A1 cIDEOGRAPH-2F9A2
cIDEOGRAPH-2F9A3 cIDEOGRAPH-2F9A4 cIDEOGRAPH-2F9A5 cIDEOGRAPH-2F9A6 cIDEOGRAPH-2F9A7
cIDEOGRAPH-2F9A8 cIDEOGRAPH-2F9A9 cIDEOGRAPH-2F9AA cIDEOGRAPH-2F9AB cIDEOGRAPH-2F9AC
cIDEOGRAPH-2F9AD cIDEOGRAPH-2F9AE cIDEOGRAPH-2F9AF cIDEOGRAPH-2F9B0 cIDEOGRAPH-2F9B1
cIDEOGRAPH-2F9B2 cIDEOGRAPH-2F9B3 cIDEOGRAPH-2F9B4 cIDEOGRAPH-2F9B5 cIDEOGRAPH-2F9B6
cIDEOGRAPH-2F9B7 cIDEOGRAPH-2F9B8 cIDEOGRAPH-2F9B9 cIDEOGRAPH-2F9BA cIDEOGRAPH-2F9BB
cIDEOGRAPH-2F9BC cIDEOGRAPH-2F9BD cIDEOGRAPH-2F9BE cIDEOGRAPH-2F9BF cIDEOGRAPH-2F9C0
cIDEOGRAPH-2F9C1 cIDEOGRAPH-2F9C2 cIDEOGRAPH-2F9C3 cIDEOGRAPH-2F9C4 cIDEOGRAPH-2F9C5
cIDEOGRAPH-2F9C6 cIDEOGRAPH-2F9C7 cIDEOGRAPH-2F9C8 cIDEOGRAPH-2F9C9 cIDEOGRAPH-2F9CA
cIDEOGRAPH-2F9CB cIDEOGRAPH-2F9CC cIDEOGRAPH-2F9CD cIDEOGRAPH-2F9CE cIDEOGRAPH-2F9CF
cIDEOGRAPH-2F9D0 cIDEOGRAPH-2F9D1 cIDEOGRAPH-2F9D2 cIDEOGRAPH-2F9D3 cIDEOGRAPH-2F9D4
cIDEOGRAPH-2F9D5 cIDEOGRAPH-2F9D6 cIDEOGRAPH-2F9D7 cIDEOGRAPH-2F9D8 cIDEOGRAPH-2F9D9
cIDEOGRAPH-2F9DA cIDEOGRAPH-2F9DB cIDEOGRAPH-2F9DC cIDEOGRAPH-2F9DD cIDEOGRAPH-2F9DE
cIDEOGRAPH-2F9DF cIDEOGRAPH-2F9E0 cIDEOGRAPH-2F9E1 cIDEOGRAPH-2F9E2 cIDEOGRAPH-2F9E3
cIDEOGRAPH-2F9E4 cIDEOGRAPH-2F9E5 cIDEOGRAPH-2F9E6 cIDEOGRAPH-2F9E7 cIDEOGRAPH-2F9E8
cIDEOGRAPH-2F9E9 cIDEOGRAPH-2F9EA cIDEOGRAPH-2F9EB cIDEOGRAPH-2F9EC cIDEOGRAPH-2F9ED
cIDEOGRAPH-2F9EE cIDEOGRAPH-2F9EF cIDEOGRAPH-2F9F0 cIDEOGRAPH-2F9F1 cIDEOGRAPH-2F9F2
cIDEOGRAPH-2F9F3 cIDEOGRAPH-2F9F4 cIDEOGRAPH-2F9F5 cIDEOGRAPH-2F9F6 cIDEOGRAPH-2F9F7
cIDEOGRAPH-2F9F8 cIDEOGRAPH-2F9F9 cIDEOGRAPH-2F9FA cIDEOGRAPH-2F9FB cIDEOGRAPH-2F9FC
cIDEOGRAPH-2F9FD cIDEOGRAPH-2F9FE cIDEOGRAPH-2F9FF cIDEOGRAPH-2FA00 cIDEOGRAPH-2FA01
cIDEOGRAPH-2FA02 cIDEOGRAPH-2FA03 cIDEOGRAPH-2FA04 cIDEOGRAPH-2FA05 cIDEOGRAPH-2FA06
cIDEOGRAPH-2FA07 cIDEOGRAPH-2FA08 cIDEOGRAPH-2FA09 cIDEOGRAPH-2FA0A cIDEOGRAPH-2FA0B
cIDEOGRAPH-2FA0C cIDEOGRAPH-2FA0D cIDEOGRAPH-2FA0E cIDEOGRAPH-2FA0F cIDEOGRAPH-2FA10
cIDEOGRAPH-2FA11 cIDEOGRAPH-2FA12 cIDEOGRAPH-2FA13 cIDEOGRAPH-2FA14 cIDEOGRAPH-2FA15
cIDEOGRAPH-2FA16 cIDEOGRAPH-2FA17 cIDEOGRAPH-2FA18 cIDEOGRAPH-2FA19 cIDEOGRAPH-2FA1A
cIDEOGRAPH-2FA1B cIDEOGRAPH-2FA1C cIDEOGRAPH-2FA1D cIDEOGRAPH-F900 cIDEOGRAPH-F901 cIDEOGRAPH-F902
cIDEOGRAPH-F903 cIDEOGRAPH-F904 cIDEOGRAPH-F905 cIDEOGRAPH-F906 cIDEOGRAPH-F907 cIDEOGRAPH-F908
cIDEOGRAPH-F909 cIDEOGRAPH-F90A cIDEOGRAPH-F90B cIDEOGRAPH-F90C cIDEOGRAPH-F90D cIDEOGRAPH-F90E
cIDEOGRAPH-F90F cIDEOGRAPH-F910 cIDEOGRAPH-F911 cIDEOGRAPH-F912 cIDEOGRAPH-F913 cIDEOGRAPH-F914
cIDEOGRAPH-F915 cIDEOGRAPH-F916 cIDEOGRAPH-F917 cIDEOGRAPH-F918 cIDEOGRAPH-F919 cIDEOGRAPH-F91A
cIDEOGRAPH-F91B cIDEOGRAPH-F91C cIDEOGRAPH-F91D cIDEOGRAPH-F91E cIDEOGRAPH-F91F cIDEOGRAPH-F920
cIDEOGRAPH-F921 cIDEOGRAPH-F922 cIDEOGRAPH-F923 cIDEOGRAPH-F924 cIDEOGRAPH-F925 cIDEOGRAPH-F926
cIDEOGRAPH-F927 cIDEOGRAPH-F928 cIDEOGRAPH-F929 cIDEOGRAPH-F92A cIDEOGRAPH-F92B cIDEOGRAPH-F92C
cIDEOGRAPH-F92D cIDEOGRAPH-F92E cIDEOGRAPH-F92F cIDEOGRAPH-F930 cIDEOGRAPH-F931 cIDEOGRAPH-F932
cIDEOGRAPH-F933 cIDEOGRAPH-F934 cIDEOGRAPH-F935 cIDEOGRAPH-F936 cIDEOGRAPH-F937 cIDEOGRAPH-F938
cIDEOGRAPH-F939 cIDEOGRAPH-F93A cIDEOGRAPH-F93B cIDEOGRAPH-F93C cIDEOGRAPH-F93D cIDEOGRAPH-F93E
cIDEOGRAPH-F93F cIDEOGRAPH-F940 cIDEOGRAPH-F941 cIDEOGRAPH-F942 cIDEOGRAPH-F943 cIDEOGRAPH-F944
cIDEOGRAPH-F945 cIDEOGRAPH-F946 cIDEOGRAPH-F947 cIDEOGRAPH-F948 cIDEOGRAPH-F949 cIDEOGRAPH-F94A
cIDEOGRAPH-F94B cIDEOGRAPH-F94C cIDEOGRAPH-F94D cIDEOGRAPH-F94E cIDEOGRAPH-F94F cIDEOGRAPH-F950
cIDEOGRAPH-F951 cIDEOGRAPH-F952 cIDEOGRAPH-F953 cIDEOGRAPH-F954 cIDEOGRAPH-F955 cIDEOGRAPH-F956
cIDEOGRAPH-F957 cIDEOGRAPH-F958 cIDEOGRAPH-F959 cIDEOGRAPH-F95A cIDEOGRAPH-F95B cIDEOGRAPH-F95C
cIDEOGRAPH-F95D cIDEOGRAPH-F95E cIDEOGRAPH-F95F cIDEOGRAPH-F960 cIDEOGRAPH-F961 cIDEOGRAPH-F962
cIDEOGRAPH-F963 cIDEOGRAPH-F964 cIDEOGRAPH-F965 cIDEOGRAPH-F966 cIDEOGRAPH-F967 cIDEOGRAPH-F968
cIDEOGRAPH-F969 cIDEOGRAPH-F96A cIDEOGRAPH-F96B cIDEOGRAPH-F96C cIDEOGRAPH-F96D cIDEOGRAPH-F96E
cIDEOGRAPH-F96F cIDEOGRAPH-F970 cIDEOGRAPH-F971 cIDEOGRAPH-F972 cIDEOGRAPH-F973 cIDEOGRAPH-F974
cIDEOGRAPH-F975 cIDEOGRAPH-F976 cIDEOGRAPH-F977 cIDEOGRAPH-F978 cIDEOGRAPH-F979 cIDEOGRAPH-F97A
cIDEOGRAPH-F97B cIDEOGRAPH-F97C cIDEOGRAPH-F97D cIDEOGRAPH-F97E cIDEOGRAPH-F97F cIDEOGRAPH-F980
cIDEOGRAPH-F981 cIDEOGRAPH-F982 cIDEOGRAPH-F983 cIDEOGRAPH-F984 cIDEOGRAPH-F985 cIDEOGRAPH-F986
cIDEOGRAPH-F987 cIDEOGRAPH-F988 cIDEOGRAPH-F989 cIDEOGRAPH-F98A cIDEOGRAPH-F98B cIDEOGRAPH-F98C
cIDEOGRAPH-F98D cIDEOGRAPH-F98E cIDEOGRAPH-F98F cIDEOGRAPH-F990 cIDEOGRAPH-F991 cIDEOGRAPH-F992
cIDEOGRAPH-F993 cIDEOGRAPH-F994 cIDEOGRAPH-F995 cIDEOGRAPH-F996 cIDEOGRAPH-F997 cIDEOGRAPH-F998
cIDEOGRAPH-F999 cIDEOGRAPH-F99A cIDEOGRAPH-F99B cIDEOGRAPH-F99C cIDEOGRAPH-F99D cIDEOGRAPH-F99E
cIDEOGRAPH-F99F cIDEOGRAPH-F9A0 cIDEOGRAPH-F9A1 cIDEOGRAPH-F9A2 cIDEOGRAPH-F9A3 cIDEOGRAPH-F9A4
cIDEOGRAPH-F9A5 cIDEOGRAPH-F9A6 cIDEOGRAPH-F9A7 cIDEOGRAPH-F9A8 cIDEOGRAPH-F9A9 cIDEOGRAPH-F9AA
cIDEOGRAPH-F9AB cIDEOGRAPH-F9AC cIDEOGRAPH-F9AD cIDEOGRAPH-F9AE cIDEOGRAPH-F9AF cIDEOGRAPH-F9B0
cIDEOGRAPH-F9B1 cIDEOGRAPH-F9B2 cIDEOGRAPH-F9B3 cIDEOGRAPH-F9B4 cIDEOGRAPH-F9B5 cIDEOGRAPH-F9B6
cIDEOGRAPH-F9B7 cIDEOGRAPH-F9B8 cIDEOGRAPH-F9B9 cIDEOGRAPH-F9BA cIDEOGRAPH-F9BB cIDEOGRAPH-F9BC
cIDEOGRAPH-F9BD cIDEOGRAPH-F9BE cIDEOGRAPH-F9BF cIDEOGRAPH-F9C0 cIDEOGRAPH-F9C1 cIDEOGRAPH-F9C2
cIDEOGRAPH-F9C3 cIDEOGRAPH-F9C4 cIDEOGRAPH-F9C5 cIDEOGRAPH-F9C6 cIDEOGRAPH-F9C7 cIDEOGRAPH-F9C8
cIDEOGRAPH-F9C9 cIDEOGRAPH-F9CA cIDEOGRAPH-F9CB cIDEOGRAPH-F9CC cIDEOGRAPH-F9CD cIDEOGRAPH-F9CE
cIDEOGRAPH-F9CF cIDEOGRAPH-F9D0 cIDEOGRAPH-F9D1 cIDEOGRAPH-F9D2 cIDEOGRAPH-F9D3 cIDEOGRAPH-F9D4
cIDEOGRAPH-F9D5 cIDEOGRAPH-F9D6 cIDEOGRAPH-F9D7 cIDEOGRAPH-F9D8 cIDEOGRAPH-F9D9 cIDEOGRAPH-F9DA
cIDEOGRAPH-F9DB cIDEOGRAPH-F9DC cIDEOGRAPH-F9DD cIDEOGRAPH-F9DE cIDEOGRAPH-F9DF cIDEOGRAPH-F9E0
cIDEOGRAPH-F9E1 cIDEOGRAPH-F9E2 cIDEOGRAPH-F9E3 cIDEOGRAPH-F9E4 cIDEOGRAPH-F9E5 cIDEOGRAPH-F9E6
cIDEOGRAPH-F9E7 cIDEOGRAPH-F9E8 cIDEOGRAPH-F9E9 cIDEOGRAPH-F9EA cIDEOGRAPH-F9EB cIDEOGRAPH-F9EC
cIDEOGRAPH-F9ED cIDEOGRAPH-F9EE cIDEOGRAPH-F9EF cIDEOGRAPH-F9F0 cIDEOGRAPH-F9F1 cIDEOGRAPH-F9F2
cIDEOGRAPH-F9F3 cIDEOGRAPH-F9F4 cIDEOGRAPH-F9F5 cIDEOGRAPH-F9F6 cIDEOGRAPH-F9F7 cIDEOGRAPH-F9F8
cIDEOGRAPH-F9F9 cIDEOGRAPH-F9FA cIDEOGRAPH-F9FB cIDEOGRAPH-F9FC cIDEOGRAPH-F9FD cIDEOGRAPH-F9FE
cIDEOGRAPH-F9FF cIDEOGRAPH-FA00 cIDEOGRAPH-FA01 cIDEOGRAPH-FA02 cIDEOGRAPH-FA03 cIDEOGRAPH-FA04
cIDEOGRAPH-FA05 cIDEOGRAPH-FA06 cIDEOGRAPH-FA07 cIDEOGRAPH-FA08 cIDEOGRAPH-FA09 cIDEOGRAPH-FA0A
cIDEOGRAPH-FA0B cIDEOGRAPH-FA0C cIDEOGRAPH-FA0D cIDEOGRAPH-FA0E cIDEOGRAPH-FA0F cIDEOGRAPH-FA10
cIDEOGRAPH-FA11 cIDEOGRAPH-FA12 cIDEOGRAPH-FA13 cIDEOGRAPH-FA14 cIDEOGRAPH-FA15 cIDEOGRAPH-FA16
cIDEOGRAPH-FA17 cIDEOGRAPH-FA18 cIDEOGRAPH-FA19 cIDEOGRAPH-FA1A cIDEOGRAPH-FA1B cIDEOGRAPH-FA1C
cIDEOGRAPH-FA1D cIDEOGRAPH-FA1E cIDEOGRAPH-FA1F cIDEOGRAPH-FA20 cIDEOGRAPH-FA21 cIDEOGRAPH-FA22
cIDEOGRAPH-FA23 cIDEOGRAPH-FA24 cIDEOGRAPH-FA25 cIDEOGRAPH-FA26 cIDEOGRAPH-FA27 cIDEOGRAPH-FA28
cIDEOGRAPH-FA29 cIDEOGRAPH-FA2A cIDEOGRAPH-FA2B cIDEOGRAPH-FA2C cIDEOGRAPH-FA2D cIDEOGRAPH-FA2E
cIDEOGRAPH-FA2F cIDEOGRAPH-FA30 cIDEOGRAPH-FA31 cIDEOGRAPH-FA32 cIDEOGRAPH-FA33 cIDEOGRAPH-FA34
cIDEOGRAPH-FA35 cIDEOGRAPH-FA36 cIDEOGRAPH-FA37 cIDEOGRAPH-FA38 cIDEOGRAPH-FA39 cIDEOGRAPH-FA3A
cIDEOGRAPH-FA3B cIDEOGRAPH-FA3C cIDEOGRAPH-FA3D cIDEOGRAPH-FA3E cIDEOGRAPH-FA3F cIDEOGRAPH-FA40
cIDEOGRAPH-FA41 cIDEOGRAPH-FA42 cIDEOGRAPH-FA43 cIDEOGRAPH-FA44 cIDEOGRAPH-FA45 cIDEOGRAPH-FA46
cIDEOGRAPH-FA47 cIDEOGRAPH-FA48 cIDEOGRAPH-FA49 cIDEOGRAPH-FA4A cIDEOGRAPH-FA4B cIDEOGRAPH-FA4C
cIDEOGRAPH-FA4D cIDEOGRAPH-FA4E cIDEOGRAPH-FA4F cIDEOGRAPH-FA50 cIDEOGRAPH-FA51 cIDEOGRAPH-FA52
cIDEOGRAPH-FA53 cIDEOGRAPH-FA54 cIDEOGRAPH-FA55 cIDEOGRAPH-FA56 cIDEOGRAPH-FA57 cIDEOGRAPH-FA58
cIDEOGRAPH-FA59 cIDEOGRAPH-FA5A cIDEOGRAPH-FA5B cIDEOGRAPH-FA5C cIDEOGRAPH-FA5D cIDEOGRAPH-FA5E
cIDEOGRAPH-FA5F cIDEOGRAPH-FA60 cIDEOGRAPH-FA61 cIDEOGRAPH-FA62 cIDEOGRAPH-FA63 cIDEOGRAPH-FA64
cIDEOGRAPH-FA65 cIDEOGRAPH-FA66 cIDEOGRAPH-FA67 cIDEOGRAPH-FA68 cIDEOGRAPH-FA69 cIDEOGRAPH-FA6A
cIDEOGRAPH-FA6B cIDEOGRAPH-FA6C cIDEOGRAPH-FA6D cIDEOGRAPH-FA70 cIDEOGRAPH-FA71 cIDEOGRAPH-FA72
cIDEOGRAPH-FA73 cIDEOGRAPH-FA74 cIDEOGRAPH-FA75 cIDEOGRAPH-FA76 cIDEOGRAPH-FA77 cIDEOGRAPH-FA78
cIDEOGRAPH-FA79 cIDEOGRAPH-FA7A cIDEOGRAPH-FA7B cIDEOGRAPH-FA7C cIDEOGRAPH-FA7D cIDEOGRAPH-FA7E
cIDEOGRAPH-FA7F cIDEOGRAPH-FA80 cIDEOGRAPH-FA81 cIDEOGRAPH-FA82 cIDEOGRAPH-FA83 cIDEOGRAPH-FA84
cIDEOGRAPH-FA85 cIDEOGRAPH-FA86 cIDEOGRAPH-FA87 cIDEOGRAPH-FA88 cIDEOGRAPH-FA89 cIDEOGRAPH-FA8A
cIDEOGRAPH-FA8B cIDEOGRAPH-FA8C cIDEOGRAPH-FA8D cIDEOGRAPH-FA8E cIDEOGRAPH-FA8F cIDEOGRAPH-FA90
cIDEOGRAPH-FA91 cIDEOGRAPH-FA92 cIDEOGRAPH-FA93 cIDEOGRAPH-FA94 cIDEOGRAPH-FA95 cIDEOGRAPH-FA96
cIDEOGRAPH-FA97 cIDEOGRAPH-FA98 cIDEOGRAPH-FA99 cIDEOGRAPH-FA9A cIDEOGRAPH-FA9B cIDEOGRAPH-FA9C
cIDEOGRAPH-FA9D cIDEOGRAPH-FA9E cIDEOGRAPH-FA9F cIDEOGRAPH-FAA0 cIDEOGRAPH-FAA1 cIDEOGRAPH-FAA2
cIDEOGRAPH-FAA3 cIDEOGRAPH-FAA4 cIDEOGRAPH-FAA5 cIDEOGRAPH-FAA6 cIDEOGRAPH-FAA7 cIDEOGRAPH-FAA8
cIDEOGRAPH-FAA9 cIDEOGRAPH-FAAA cIDEOGRAPH-FAAB cIDEOGRAPH-FAAC cIDEOGRAPH-FAAD cIDEOGRAPH-FAAE
cIDEOGRAPH-FAAF cIDEOGRAPH-FAB0 cIDEOGRAPH-FAB1 cIDEOGRAPH-FAB2 cIDEOGRAPH-FAB3 cIDEOGRAPH-FAB4
cIDEOGRAPH-FAB5 cIDEOGRAPH-FAB6 cIDEOGRAPH-FAB7 cIDEOGRAPH-FAB8 cIDEOGRAPH-FAB9 cIDEOGRAPH-FABA
cIDEOGRAPH-FABB cIDEOGRAPH-FABC cIDEOGRAPH-FABD cIDEOGRAPH-FABE cIDEOGRAPH-FABF cIDEOGRAPH-FAC0
cIDEOGRAPH-FAC1 cIDEOGRAPH-FAC2 cIDEOGRAPH-FAC3 cIDEOGRAPH-FAC4 cIDEOGRAPH-FAC5 cIDEOGRAPH-FAC6
cIDEOGRAPH-FAC7 cIDEOGRAPH-FAC8 cIDEOGRAPH-FAC9 cIDEOGRAPH-FACA cIDEOGRAPH-FACB cIDEOGRAPH-FACC
cIDEOGRAPH-FACD cIDEOGRAPH-FACE cIDEOGRAPH-FACF cIDEOGRAPH-FAD0 cIDEOGRAPH-FAD1 cIDEOGRAPH-FAD2
cIDEOGRAPH-FAD3 cIDEOGRAPH-FAD4 cIDEOGRAPH-FAD5 cIDEOGRAPH-FAD6 cIDEOGRAPH-FAD7 cIDEOGRAPH-FAD8
cIDEOGRAPH-FAD9 bRADICAL BAMBOO cBLUE cBOLT OF CLOTH cBONE cBOX cBRUSH ONE dTWO cC-SIMPLIFIED BIRD
dCART dDRAGON dEAT dEVEN dFISH dFLY dFROG dGATE dGOLD dHORSE dLEAF dLONG dSALT dSEE dSHELL dSILK
dSPEECH dTANNED LEATHER dTOOTH dTURTLE dWIND cCHOKE cCITY cCIVILIAN cCLIFF cCLOTHES cCOW cDEATH
cDIVINATION cDOG cEAT ONE dTHREE dTWO cEWE cEYE cFIRE cFOOT cGHOST cGRASS ONE dTHREE dTWO cHAND
cHEAD cHEART ONE dTWO cHORN cJ-SIMPLIFIED DRAGON dEVEN dTOOTH dTURTLE cJADE cKNIFE ONE dTWO cLAME
FOUR dONE dTHREE dTWO cLONG ONE dTWO cMEAT cMESH cMOON cMORTAR cMOTHER cMOUND ONE dTWO cNET FOUR
dONE dTHREE dTWO cOLD cPAW ONE dTWO cPERSON cRAIN cRAM cRAP cREPEAT cSEAL cSECOND ONE dTHREE dTWO
cSHEEP cSILK cSIMPLIFIED HALF TREE TRUNK dHORN dWALK dWHEAT dYELLOW cSMALL ONE dTWO cSNAKE cSNOUT
ONE dTWO cSPIRIT ONE dTWO cSUN cTABLE cTHREAD cTIGER cTURTLE cWALK ONE dTWO cWATER ONE dTWO cWEST
ONE dTWO bSTROKE BXG cD cH cHG cHP cHPWG cHXWG cHZ cHZG cHZT cHZW cHZWG cHZZ cHZZP cHZZZ cHZZZG cN
cP cPD cPG cPZ cQ cS cSG cSP cST cSW cSWG cSWZ cSZ cSZWG cSZZ cT cTN cWG cXG aCLAMSHELL MOBILE
PHONE aCLAPPER BOARD aCLAPPING HANDS SIGN aCLASSICAL BUILDING aCLEAR SCREEN SYMBOL aCLINKING BEER
MUGS bGLASSES aCLIPBOARD aCLOCK FACE EIGHT OCLOCK cEIGHT-THIRTY cELEVEN OCLOCK cELEVEN-THIRTY
cFIVE OCLOCK cFIVE-THIRTY cFOUR OCLOCK cFOUR-THIRTY cNINE OCLOCK cNINE-THIRTY cONE OCLOCK
cONE-THIRTY cSEVEN OCLOCK cSEVEN-THIRTY cSIX OCLOCK cSIX-THIRTY cTEN OCLOCK cTEN-THIRTY cTHREE
OCLOCK cTHREE-THIRTY cTWELVE OCLOCK cTWELVE-THIRTY cTWO OCLOCK cTWO-THIRTY aCLOCKWISE CLOSED
CIRCLE ARROW bCONTOUR INTEGRAL bDOWNWARDS AND UPWARDS OPEN CIRCLE ARROWS bGAPPED CIRCLE ARROW
bINTEGRAL bOPEN CIRCLE ARROW bRIGHT AND LEFT SEMICIRCLE ARROWS bRIGHTWARDS AND LEFTWARDS OPEN
CIRCLE ARROWS hWITH CIRCLED ONE OVERLAY bTOP SEMICIRCLE ARROW bTRIANGLE-HEADED OPEN CIRCLE ARROW
aCLOSE UP aCLOSED BOOK bINTERSECTION WITH SERIFS bLOCK WITH KEY bMAILBOX WITH LOWERED FLAG dRAISED
FLAG bSUBSET cOR EQUAL TO bSUPERSET cOR EQUAL TO bUMBRELLA bUNION WITH SERIFS eAND SMASH PRODUCT
aCLOUD bWITH LIGHTNING cRAIN cSNOW cTORNADO aCLOWN FACE aCOAT aCOCKROACH aCOCKTAIL GLASS aCOCONUT
aCOFFIN aCOIN aCOLLISION SYMBOL aCOLON bEQUALS bSIGN aCOMBINING ACUTE ACCENT dBELOW cTONE MARK
bACUTE-GRAVE-ACUTE bACUTE-MACRON bALMOST EQUAL TO ABOVE eBELOW bANNUITY SYMBOL bANTICLOCKWISE
ARROW ABOVE cRING OVERLAY bASTERISK ABOVE cBELOW bBINDU BELOW bBREVE cBELOW bBREVE-MACRON bBRIDGE
ABOVE cBELOW bCANDRABINDU bCARON cBELOW bCEDILLA bCIRCUMFLEX ACCENT dBELOW bCLOCKWISE ARROW ABOVE
cRING OVERLAY bCOMMA ABOVE dRIGHT cBELOW bCONJOINING MACRON dBELOW bCYRILLIC DASIA PNEUMATA
cHUNDRED MILLIONS SIGN dTHOUSANDS SIGN cKAVYKA cLETTER A dBE dBIG YUS dCHE dDE dDJERV dEF dEL dEM
dEN dER dES dES-TE dFITA dGHE dHA dHARD SIGN dI dIE dIOTIFIED A eBIG YUS eE dKA dLITTLE YUS
dMONOGRAPH UK dO dOMEGA dPE dSHA dSHCHA dSOFT SIGN dTE dTSE dU dUKRAINIAN IE dVE dYAT dYERU dYI
dYU dZE dZHE cMILLIONS SIGN cPALATALIZATION cPAYEROK cPOKRYTIE cPSILI PNEUMATA cTEN MILLIONS SIGN
cTHOUSAND MILLIONS SIGN cTITLO dLEFT HALF dRIGHT HALF cVZMET bDELETION MARK bDEVANAGARI DIGIT
EIGHT dFIVE dFOUR dNINE dONE dSEVEN dSIX dTHREE dTWO dZERO cLETTER A dKA dNA dPA dRA dU dVI cSIGN
AVAGRAHA bDIAERESIS cBELOW bDIAERESIS-RING bDOT ABOVE dLEFT dRIGHT cBELOW dLEFT bDOTTED ACUTE
ACCENT cGRAVE ACCENT bDOUBLE ACUTE ACCENT cBREVE dBELOW cCIRCUMFLEX ABOVE cGRAVE ACCENT cINVERTED
BREVE eBELOW cLOW LINE cMACRON dBELOW cOPEN MARK BELOW cOVERLINE cPARENTHESES ABOVE cPLUS SIGN
ABOVE eBELOW cRIGHTWARDS ARROW BELOW cRING BELOW cTILDE dLEFT HALF dRIGHT HALF cVERTICAL LINE
ABOVE eBELOW dSTROKE OVERLAY bDOUBLED CIRCUMFLEX ACCENT bDOWN TACK BELOW bDOWNWARDS ARROW
bENCLOSING CIRCLE dBACKSLASH cDIAMOND cKEYCAP cSCREEN cSQUARE cUPWARD POINTING TRIANGLE bEQUALS
SIGN BELOW bFERMATA bFOUR DOTS ABOVE bGLAGOLITIC LETTER AZU dBIG YUS dBUKY dCHRIVI dDJERVI dDOBRO
dFITA dFRITU dGLAGOLI dHERU dI dINITIAL IZHE dIOTATED BIG YUS eSMALL YUS dIZHE dKAKO dLJUDIJE
dMYSLITE dNASHI dONU dPOKOJI dRITSI dSHA dSHTA dSLOVO dSMALL YUS dTSI dTVRIDO dUKU dVEDE dYATI
dYERI dYERU dYESTU dYO dYU dZEMLJA dZHIVETE bGRANTHA DIGIT FIVE dFOUR dONE dSIX dTHREE dTWO dZERO
cLETTER A dKA dNA dPA dVI bGRAPHEME JOINER bGRAVE ACCENT dBELOW cTONE MARK bGRAVE-ACUTE-GRAVE
bGRAVE-MACRON bGREEK DIALYTIKA TONOS cKORONIS cMUSICAL PENTASEME dTETRASEME dTRISEME cPERISPOMENI
cYPOGEGRAMMENI bHOMOTHETIC ABOVE bHOOK ABOVE bHORN bINFINITY bINVERTED BREVE dBELOW cBRIDGE BELOW
cDOUBLE ARCH ABOVE eBELOW bIS BELOW bKATAKANA-HIRAGANA SEMI-VOICED SOUND MARK cVOICED SOUND MARK
bKAVYKA ABOVE LEFT dRIGHT bLATIN LETTER SMALL CAPITAL G fL fM fN fR cSMALL LETTER A fWITH
DIAERESIS eAE eALPHA eAO eAV eB eBETA eC fCEDILLA eD eE eESH eETH eF eFLATTENED OPEN A ABOVE eG eH
eI eINSULAR D fG fR fT eK eL fWITH DOUBLE MIDDLE TILDE eLONG S eM eN eO fWITH DIAERESIS gLIGHT
CENTRALIZATION STROKE eP eR fBELOW fROTUNDA eS eSCHWA eT eTURNED W BELOW eU fWITH DIAERESIS gLIGHT
CENTRALIZATION STROKE eV eW fBELOW eX eZ bLEFT ANGLE ABOVE dBELOW cARROW ABOVE dBELOW cARROWHEAD
ABOVE dBELOW cHALF RING ABOVE eBELOW cHARPOON ABOVE cPARENTHESIS ABOVE LEFT dBELOW LEFT cRIGHT
ARROW ABOVE eBELOW cTACK BELOW bLEFTWARDS ARROW OVERLAY cHARPOON WITH BARB DOWNWARDS bLIGATURE
LEFT HALF eBELOW cRIGHT HALF eBELOW bLIGHT CENTRALIZATION STROKE BELOW bLONG DOUBLE SOLIDUS
OVERLAY cSOLIDUS OVERLAY cSTROKE OVERLAY cVERTICAL LINE OVERLAY bLOW LINE bMACRON cBELOW cLEFT
HALF eBELOW cRIGHT HALF eBELOW bMACRON-ACUTE bMACRON-BREVE bMACRON-GRAVE bMINUS SIGN BELOW bNOT
TILDE ABOVE bNUMBER SIGN ABOVE bOGONEK cABOVE bOLD PERMIC LETTER AN eDOI eNENOE eSII eZATA bOPEN
MARK BELOW bOVERLINE bPALATALIZED HOOK BELOW bPARENTHESES ABOVE cBELOW cOVERLAY bPLUS SIGN ABOVE
dBELOW bRETROFLEX HOOK BELOW bREVERSE SOLIDUS OVERLAY bREVERSED COMMA ABOVE bRIGHT ARROW ABOVE
dBELOW cARROWHEAD ABOVE dAND DOWN ARROWHEAD BELOW eUP ARROWHEAD BELOW dBELOW cHALF RING ABOVE
eBELOW cHARPOON ABOVE cPARENTHESIS ABOVE RIGHT dBELOW RIGHT cTACK BELOW bRIGHTWARDS HARPOON WITH
BARB DOWNWARDS bRING ABOVE cBELOW cOVERLAY bSEAGULL BELOW bSHORT SOLIDUS OVERLAY cSTROKE OVERLAY
cVERTICAL LINE OVERLAY bSNAKE BELOW bSQUARE BELOW cBRACKETS ABOVE bSTRONG CENTRALIZATION STROKE
BELOW bSUSPENSION MARK bTHREE DOTS ABOVE bTILDE cBELOW cLEFT HALF BELOW cOVERLAY cRIGHT HALF BELOW
bTRIPLE ACUTE ACCENT cDOT cUNDERDOT bTURNED COMMA ABOVE bUP TACK ABOVE dBELOW bUPWARDS ARROW BELOW
bUR ABOVE bUS ABOVE bVERTICAL LINE ABOVE dBELOW cTILDE bWIDE BRIDGE ABOVE cINVERTED BRIDGE BELOW
bWIGGLY LINE BELOW bX ABOVE cBELOW bX-X BELOW bZIGZAG ABOVE cBELOW aCOMET aCOMMA aCOMMERCIAL AT
bMINUS SIGN aCOMPASS aCOMPLEMENT aCOMPOSITION SYMBOL aCOMPRESSION aCONFETTI BALL aCONFOUNDED FACE
aCONFUSED FACE aCONGRUENT WITH DOT ABOVE aCONICAL TAPER aCONJUNCTION aCONSTRUCTION SIGN bWORKER
aCONTAINS AS MEMBER cNORMAL SUBGROUP eOR EQUAL TO bWITH LONG HORIZONTAL STROKE cOVERBAR cVERTICAL
BAR AT END OF HORIZONTAL STROKE aCONTINUOUS UNDERLINE SYMBOL aCONTOUR INTEGRAL aCONTROL KNOBS
bSEQUENCE INTRODUCER aCONVENIENCE STORE aCOOKED RICE aCOOKIE aCOOKING aCOPTIC CAPITAL LETTER
AKHMIMIC KHEI dALFA dBOHAIRIC KHEI dCROSSED SHEI dCRYPTOGRAMMIC EIE eGANGIA eNI eSHEI dDALDA dDEI
dDIALECT-P ALEF eHORI eKAPA eNI dEIE dFEI dFI dGAMMA dGANGIA dHATE dHORI dIAUDA dKAPA dKHEI dKHI
dKSI dL-SHAPED HA dLAULA dMI dNI dO dOLD COPTIC AIN fDJA fESH fGANGIA fHA fHAT fHEI fHORI fOOU
fSHEI fSHIMA eNUBIAN NGI fNYI fSHIMA fWAU dOOU dPI dPSI dRO dSAMPI dSHEI dSHIMA dSIMA dSOU dTAU
dTHETHE dUA dVIDA dZATA bCOMBINING NI ABOVE cSPIRITUS ASPER dLENIS bEPACT DIGIT EIGHT dFIVE dFOUR
dNINE dONE dSEVEN dSIX dTHREE dTWO cNUMBER EIGHT HUNDRED dEIGHTY dFIFTY dFIVE HUNDRED dFORTY dFOUR
HUNDRED dNINE HUNDRED dNINETY dONE HUNDRED dSEVEN HUNDRED dSEVENTY dSIX HUNDRED dSIXTY dTEN
dTHIRTY dTHREE HUNDRED dTWENTY dTWO HUNDRED cTHOUSANDS MARK bFRACTION ONE HALF bFULL STOP
bMORPHOLOGICAL DIVIDER bOLD NUBIAN DIRECT QUESTION MARK dFULL STOP dINDIRECT QUESTION MARK dVERSE
DIVIDER bSMALL LETTER AKHMIMIC KHEI dALFA dBOHAIRIC KHEI dCROSSED SHEI dCRYPTOGRAMMIC EIE eGANGIA
eNI eSHEI dDALDA dDEI dDIALECT-P ALEF eHORI eKAPA eNI dEIE dFEI dFI dGAMMA dGANGIA dHATE dHORI
dIAUDA dKAPA dKHEI dKHI dKSI dL-SHAPED HA dLAULA dMI dNI dO dOLD COPTIC AIN fDJA fESH fGANGIA fHA
fHAT fHEI fHORI fOOU fSHEI fSHIMA eNUBIAN NGI fNYI fSHIMA fWAU dOOU dPI dPSI dRO dSAMPI dSHEI
dSHIMA dSIMA dSOU dTAU dTHETHE dUA dVIDA dZATA bSYMBOL KAI cKHI RO cMI RO cPI RO cSHIMA SIMA
cSTAUROS cTAU RO aCOPYLEFT SYMBOL aCOPYRIGHT SIGN aCORAL aCORNISH VERSE DIVIDER aCORRESPONDS TO
aCOUCH AND LAMP aCOUNTERBORE aCOUNTERSINK aCOUNTING ROD TENS DIGIT EIGHT eFIVE eFOUR eNINE eONE
eSEVEN eSIX eTHREE eTWO cUNIT DIGIT EIGHT eFIVE eFOUR eNINE eONE eSEVEN eSIX eTHREE eTWO aCOUPLE
WITH HEART aCOW bFACE aCR aCRAB aCREDIT CARD aCRESCENT MOON aCRICKET bBAT AND BALL aCROCODILE
aCROISSANT aCROSS MARK bOF JERUSALEM cLORRAINE bPATTY WITH LEFT CROSSBAR dRIGHT CROSSBAR bPOMMEE
cWITH HALF-CIRCLE BELOW aCROSSED FLAGS bNEGATIVE SQUARED LATIN CAPITAL LETTER P bSWORDS aCROSSING
LANES aCROWN aCRUTCH aCRUZEIRO SIGN aCRYING CAT FACE bFACE aCRYSTAL BALL aCSI aCUBE ROOT aCUCUMBER
aCUNEIFORM NUMERIC SIGN EIGHT ASH eDISH eGESH2 eSHAR2 eU fVARIANT FORM eVARIANT FORM USSU gUSSU3
dELAMITE FIFTY eFORTY eONE THIRD eTWO THIRDS dFIVE ASH fTENU eBAN2 fVARIANT FORM eBURU eDISH
eGESH2 eGESHU eSHAR2 eSHARU eSIXTHS DISH eU fVARIANT FORM dFOUR ASH fTENU eBAN2 fVARIANT FORM
eBURU eDISH eGESH2 eGESHU eSHAR2 eSHARU eU fVARIANT FORM eVARIANT FORM LIMMU hA hB gLIMMU4
dNIGIDAESH dNIGIDAMIN dNINE ASH eDISH eGESH2 eSHAR2 eU fVARIANT FORM eVARIANT FORM ILIMMU hA
gILIMMU3 gILIMMU4 dOLD ASSYRIAN ONE QUARTER gSIXTH dONE BAN2 eBURU eEIGHTH ASH eESHE3 eGESH2
eGESHU eHALF GUR eQUARTER ASH fGUR eSHARU eTHIRD DISH fVARIANT FORM A dSEVEN ASH eDISH eGESH2
eSHAR2 eU fVARIANT FORM eVARIANT FORM IMIN A hB gIMIN3 dSHAR2 TIMES GAL PLUS DISH hMIN dSIX ASH
fTENU eDISH eGESH2 eSHAR2 eU fVARIANT FORM eVARIANT FORM ASH9 dTHREE ASH fTENU eBAN2 eBURU
fVARIANT FORM eDISH eGESH2 eGESHU eSHAR2 fVARIANT FORM eSHARU fVARIANT FORM eVARIANT FORM ESH16
gESH21 dTWO ASH fTENU eBAN2 eBURU eESHE3 eGESH2 eGESHU eSHAR2 eSHARU eTHIRDS DISH fVARIANT FORM A
bPUNCTUATION SIGN DIAGONAL COLON eQUADCOLON eTRICOLON dOLD ASSYRIAN WORD DIVIDER dVERTICAL COLON
bSIGN A dTIMES A eBAD eGAN2 TENU eHA eIGI eLAGAR GUNU eMUSH eSAG cA2 cAB dGUNU dTIMES ASH2 eDUN3
GUNU eGAL eGAN2 TENU eHA eIGI GUNU eIMIN eLAGAB eNUN fTENU eSHESH eSHU2 eU PLUS U PLUS U cAB2
dTIMES A eBALAG eGAN2 TENU eME PLUS EN eSHA3 eTAK4 cAD dTIMES ESH2 cAK dTIMES ERIN2 eSHITA PLUS
GISH cAL dTIMES AL eDIM2 eGISH eHA eKAD3 eKI eSHE eUSH cALAN cALEPH cAMAR dTIMES KUG eSHE cAN
dOVER AN dPLUS NAGA OPPOSING AN PLUS NAGA fSQUARED dTHREE TIMES cANSHE cAPIN cARAD dTIMES KUR
cARKAB cASAL2 cASH dKABA TENU dOVER ASH OVER ASH hCROSSING ASH OVER ASH OVER ASH fTUG2 OVER TUG2
TUG2 OVER TUG2 PAP dZIDA TENU cASH2 cASHGAB cBA cBAD dTIMES DISH TENU cBAG3 cBAHAR2 dTIMES AB2 eNI
eZA cBAL dOVER BAL cBALAG cBAR cBARA2 cBI dTIMES A eGAR eIGI GUNU cBU dCROSSING BU dOVER BU AB
fTIMES NA2 fUN cBULUG dOVER BULUG cBUR cBUR2 cDA dTIMES TAK4 cDAG dKISIM5 TIMES A PLUS MASH fAMAR
fBALAG fBI fGA gPLUS MASH fGI fGIR2 fGUD fHA fIR gPLUS LU fKAK fLA fLU gPLUS MASH2 fLUM fNE fPAP
PLUS PAP fSI fTAK4 fU2 PLUS GIR2 hMASH fUSH dTIMES KUR cDAG3 cDAM cDAR cDARA3 cDARA4 cDI cDIB cDIM
dTIMES IGI eSHE eU U U cDIM2 dTIMES UD cDIN dKASKAL U GUNU DISH cDISH dPLUS SHU cDU dGUNU dOVER DU
dSHESHIG cDUB dTIMES ESH2 eSHE cDUB2 cDUG dTIMES ANSHE eASH fAT LEFT eDIN eDUN eERIN2 eGA eGI
eGIR2 GUNU eGISH eHA eHI eIGI GUNU eKASKAL eKUR eKUSHU2 fPLUS KASKAL eLAK-020 eLAM fTIMES KUR eLUH
PLUS GISH eMASH eMES eMI eNI ePI eSHE eSI GUNU cDUGUD cDUH cDUN cDUN3 dGUNU eGUNU cDUN4 cDUR2 cE
dOVER E NUN OVER NUN dTIMES PAP cE2 dTIMES A PLUS HA PLUS DA eGAR eKUR eMI ePAP eSAL eSHE eU cEDIN
cEGIR cEL cEN dCROSSING EN dOPPOSING EN dSQUARED dTIMES GAN2 fTENU eME cEREN cERIN2 dX cESH2
dCROSSING ESH2 cEZEN dSHESHIG TIMES ASH fHI fIGI GUNU fLA fLAL fME fMES fSU dTIMES A fPLUS LAL
hTIMES LAL eAN eBAD eDUN3 GUNU gGUNU eGUD eHA fGUNU eIGI GUNU eKASKAL fSQUARED eKU3 eLA eLAL TIMES
LAL eLI eLU eSHE eSU eU2 eUD cGA dGUNU cGA2 dOVER GA2 dTIMES A PLUS DA PLUS HA gHA gIGI eAB2 TENU
PLUS TAB eAN fPLUS KAK PLUS A eASH eASH2 fPLUS GAL eBAD eBAHAR2 eBAR PLUS RA eBUR fPLUS RA eDA eDI
eDIM GUNU fTIMES SHE eDUB eDUG TIMES IGI GUNU gKASKAL eEL fPLUS LA eEN fTIMES GAN2 TENU eEREN eGA
eGAN2 TENU eGAR fPLUS DI gNE eGI eGI4 fPLUS A eGIR2 PLUS SU eHA PLUS A gLU PLUS ESH2 eHAL fPLUS LA
eHI PLUS LI eHUB2 eIGI GUNU eISH PLUS HU PLUS ASH eKAK eKASKAL eKID fPLUS LAL eKU3 PLUS AN eKUSHU2
PLUS KASKAL eLA eLAM fTIMES KUR eLUH eME PLUS EN eMI eMUSH eNE fPLUS E2 gGI eNUN fOVER NUN ePA
eSAL eSAR eSHE fPLUS TUR eSHID eSHIM eSUM eTAK4 eU eUD fPLUS DU eZIZ2 cGABA dCROSSING GABA
dROTATED NINETY DEGREES cGAD dOVER GAD GAR OVER GAR cGAL dGAD OVER GAD GAR OVER GAR cGALAM cGAM
cGAN cGAN2 dCROSSING GAN2 dOVER GAN2 dTENU cGAR cGAR3 cGASHAN cGE22 cGESHTIN dTIMES KUR eU cGI
dCROSSING GI dTIMES E eU cGI4 dCROSSING GI4 dOVER GI4 cGIDIM cGIG cGIR2 dGUNU cGIR3 dTIMES A PLUS
IGI eGAN2 TENU eIGI eLU PLUS IGI ePA cGISAL cGISH dCROSSING GISH dTENU dTIMES BAD eGISH CROSSING
GISH eTAK4 cGU dCROSSING GU cGU2 dGUNU dTIMES IGI GUNU eKAK fTIMES IGI GUNU eNUN eSAL PLUS TUG2
cGUD dOVER GUD LUGAL dPLUS GISH TIMES TAK4 dTIMES A PLUS KUR eKUR cGUL cGUM dTIMES SHE cGUR cGUR7
cGURUN cGURUSH cHA dGUNU dTENU eGUNU cHAL cHI dTIMES ASH fOVER HI TIMES ASH eASH2 eBAD eDISH eGAD
eKIN eNUN eSHE eU cHU cHUB2 dTIMES AN eHAL eKASKAL eLISH eUD cHUL2 cHUSH cI dA cIB cIDIM dOVER
IDIM BUR fSQUARED cIG cIGI dDIB dGUNU dOVER IGI SHIR OVER SHIR UD OVER UD dRI cIL dTIMES GAN2 TENU
cIL2 cIM dCROSSING IM dOPPOSING IM dSQUARED dTIMES TAK4 cIMIN cIN cIR cISH cKA dTIMES A eAD fPLUS
KU3 eANSHE eASH2 eASH3 eBAD eBALAG eBAR eBI eBU eERIN2 eESH2 eGA eGAL eGAN2 TENU eGAR fPLUS SHA3
PLUS A eGI eGIR2 eGISH fCROSSING GISH fPLUS SAR eGU eGUD eGUR7 eHI TIMES ASH2 eIGI eIM eKA eKAK
eKI eKID eLI eLU eLUM eME fPLUS DU gGI gTE eMI fPLUS NUNUZ eNE eNUN ePA ePI eRU eSA eSAR eSHA eSHE
eSHID eSHU eSHUL eSIG eSUHUR eTAR eTU eU fU U eU2 eUD eUMUM TIMES PA eUR eUR2 eUSH eZI cKA2
dCROSSING KA2 cKAB cKAD2 cKAD3 cKAD4 cKAD5 dOVER KAD5 cKAK dTIMES IGI GUNU cKAL dCROSSING KAL
dTIMES BAD cKAM2 cKAM4 cKAP ELAMITE cKASKAL dLAGAB TIMES U OVER LAGAB TIMES U dOVER KASKAL LAGAB
TIMES U OVER LAGAB TIMES U cKESH2 cKI dTIMES BAD eU eUD cKID cKIN cKISAL cKISH cKISIM5 dOVER
KISIM5 cKU dOVER HI TIMES ASH2 KU OVER HI TIMES ASH2 cKU3 cKU4 dVARIANT FORM cKU7 cKUL dGUNU cKUN
cKUR dOPPOSING KUR cKUSHU2 cKWU318 cLA cLAGAB dSQUARED dTIMES A fPLUS DA PLUS HA gGAR gLAL eAL eAN
eASH ZIDA TENU eBAD eBI eDAR eEN eGA eGAR eGI eGUD fPLUS GUD eHA eHAL eHI TIMES NUN eIGI GUNU eIM
fPLUS HA gLU eKI eKIN eKU3 eKUL fPLUS HI PLUS A eLAGAB eLISH eLU eLUL eME fPLUS EN eMUSH eNE eSHE
PLUS SUM eSHITA PLUS GISH PLUS ERIN2 hTENU eSHU2 fPLUS SHU2 eSUM eTAG eTAK4 eTE PLUS A PLUS SU
PLUS NA eU fPLUS A gU PLUS U eU2 PLUS ASH eUD eUSH eZU OVER ZU cLAGAR dGUNU eOVER LAGAR GUNU SHE
dTIMES SHE fPLUS SUM cLAHSHU cLAK-003 cLAK-021 cLAK-025 cLAK-030 cLAK-050 cLAK-051 cLAK-062
cLAK-079 OVER LAK-079 GUNU cLAK-080 cLAK-081 OVER LAK-081 cLAK-092 cLAK-130 cLAK-142 cLAK-210
cLAK-219 cLAK-220 cLAK-225 cLAK-228 cLAK-238 cLAK-265 cLAK-266 cLAK-343 cLAK-347 cLAK-348 cLAK-383
cLAK-384 cLAK-390 cLAK-441 cLAK-449 dTIMES GU eIGI ePAP PLUS LU3 gPAP PLUS LU3 eU2 PLUS BA
cLAK-450 cLAK-457 cLAK-470 cLAK-483 cLAK-490 cLAK-492 cLAK-493 cLAK-495 cLAK-550 cLAK-608 cLAK-617
dTIMES ASH eBAD eDUN3 GUNU GUNU eKU3 eLA eTAR eTE eU2 eUD eURUDA cLAK-636 cLAK-648 dTIMES DUB eGA
eIGI fGUNU eNI ePAP PLUS PAP PLUS LU3 eSHESH PLUS KI eUD eURUDA cLAK-724 cLAK-749 cLAL dTIMES LAL
cLAM dTIMES KUR fPLUS RU cLI cLIL cLIMMU2 cLISH cLU dTIMES BAD cLU2 dCROSSING LU2 dGUNU TIMES ASH
dOPPOSING LU2 dSHESHIG eTIMES BAD dSQUARED dTENU dTIMES AL eBAD eDISH eESH2 fPLUS LAL fTENU eGAN2
TENU eHAL eHI TIMES BAD eIM eKAD2 eKAD3 fPLUS ASH eKI eLA PLUS ASH eLAGAB eME PLUS EN eNE eNU ePAP
fPLUS PAP PLUS LU3 eSHU eSI PLUS ASH eSIK2 PLUS BU eTAK4 eTUG2 cLU3 cLUGAL dOPPOSING LUGAL dOVER
LUGAL dSHESHIG cLUH cLUL cLUM dOVER LUM fGAR OVER GAR cMA dGUNU dTIMES TAK4 cMA2 cMAH cMAR cMASH
cMASH2 cME cMES cMESH cMI dPLUS ZA7 cMIN cMU dOVER MU cMUG dGUNU cMUNSUB cMURGU2 cMUSH dCROSSING
MUSH dOVER MUSH fTIMES A PLUS NA gGA gKAK dTIMES A eKUR eZA cMUSH3 dGUNU dTIMES A fPLUS DI eDI eZA
cNA cNA2 cNA4 cNAGA dINVERTED dOPPOSING NAGA dTIMES SHU TENU cNAGAR cNAM dNUTILLU cNAM2 cNE
dSHESHIG dTIMES A eUD cNI dTIMES E cNI2 cNIM dTIMES GAN2 TENU eGAR PLUS GAN2 TENU cNIN cNIN9
cNINDA2 dTIMES AN eASH fPLUS ASH eBAL eDIM GUNU eGI eGISH eGUD eGUL eHI eKESH2 eLAK-050 eMASH eME
PLUS GAN2 TENU eNE eNUN ePAP PLUS PAP eSHE fPLUS A AN gASH hPLUS ASH eU fPLUS U eU2 PLUS ASH
eURUDA eUSH cNISAG cNU cNU11 dOVER NU11 BUR OVER BUR dROTATED NINETY DEGREES dTENU cNUN dCROSSING
NUN fLAGAR OVER LAGAR dLAGAR TIMES GAR fMASH fSAL gOVER NUN LAGAR TIMES SAL fUSH dOVER NUN dTENU
cNUNUZ dAB2 TIMES ASHGAB fBI fDUG fGUD fIGI GUNU fKAD3 fLA fNE fSILA3 fU2 dKISIM5 TIMES BI gU cPA
cPAD cPAN cPAP cPESH2 dASTERISK cPI dCROSSING PI dTIMES A eAB eBI eBU eE eI eIB eU eU2 cPIR2
cPIRIG dOPPOSING PIRIG dTIMES KAL eUD eZA cRA cRAB cRI cRU cSA cSAG dGUNU eTIMES HA dNUTILLU dOVER
SAG dTIMES A eDU eDUB eEN eHA eIGI GUNU eKAK eKUR eLUM eMI eNUN eSAL eSHE AT LEFT eSHID eTAB eTAK4
eU2 eUB eUM eUR eUSH cSAL dLAGAB TIMES ASH2 cSANGA2 cSAR cSHA cSHA3 dTIMES A eBAD eGISH eNE eSHU2
eTUR eU fPLUS A cSHA6 dTENU cSHAB6 cSHAR2 cSHE dHU dOVER SHE fGAD OVER GAD GAR OVER GAR fTAB OVER
TAB GAR OVER GAR dPLUS HUB2 eNAM2 eSAR cSHEG9 cSHEN cSHESH cSHESH2 cSHESHLAM cSHID dTIMES A eIM
cSHIM dTIMES A eBAL eBULUG eDIN eGAR eIGI fGUNU eKUSHU2 eLUL eMUG eSAL cSHINIG cSHIR dOVER SHIR
BUR OVER BUR dTENU cSHITA cSHU dOVER INVERTED SHU cSHU2 dPLUS DUG TIMES NI eE2 TIMES AN cSHUBUR
cSI dGUNU dTIMES TAK4 cSIG cSIG4 dOVER SIG4 SHU2 cSIK2 cSILA3 cSU dOVER SU cSUD cSUD2 cSUHUR cSUM
cSUMASH cSUR cSUR9 cTA dASTERISK dGUNU dTIMES HI eMI cTAB dOVER TAB NI OVER NI DISH OVER DISH
dSQUARED cTAG dTIMES BI eGUD eSHE eSHU eTUG2 eUD cTAK4 dPLUS SAG cTAR cTE dGUNU cTI dTENU cTI2
cTIL cTIR dOVER TIR fGAD OVER GAD GAR OVER GAR dTIMES TAK4 cTU cTUG2 cTUK cTUM dTIMES GAN2 TENU
eTHREE DISH cTUR dOVER TUR ZA OVER ZA cU dGUD dOVER U PA OVER PA GAR OVER GAR fSUR OVER SUR fU
REVERSED OVER U REVERSED dU eU cU2 cUB cUD dGUNU dKUSHU2 dSHESHIG eTIMES BAD dTIMES BAD eMI eU
PLUS U PLUS U jGUNU cUDUG cUM dTIMES LAGAB eME fPLUS DA eSHA3 eU cUMBIN cUMUM dTIMES KASKAL ePA
cUN dGUNU cUR dCROSSING UR dSHESHIG cUR2 dINVERTED dTIMES A PLUS HA gNA eAL eHA eNUN eU2 fPLUS ASH
gBI eUD cUR4 cURI cURI3 cURU dTIMES A eASHGAB eBAR eDARA3 eDUN eGA eGAL eGAN2 TENU eGAR eGU eHA
eIGI eIM eISH eKI eLAK-668 eLU3 eLUM eMIN ePA eSHE eSIG4 eTU eU PLUS GUD eUD eURUDA cURUDA dTIMES
U cUSH dTIMES A eKU eKUR eTAK4 cUSH2 cUSHUMX cUSHX cUTUKI cUZ3 dTIMES KASKAL cUZU cZA dSQUARED
TIMES KUR dTENU cZA7 cZAG cZAMX cZE2 cZI dOVER ZI cZI3 cZIB dKABA TENU cZIG cZIZ2 cZU dOVER ZU
PLUS SAR cZU5 dTIMES A eTHREE DISH TENU cZUBUR cZUM aCUP ON BLACK SQUARE bWITH STRAW aCUPCAKE
aCUPIDO aCURLING STONE aCURLY BRACKET EXTENSION bLOGICAL AND cOR bLOOP aCURRENCY EXCHANGE bSIGN
aCURRY AND RICE aCURVED STEM PARAGRAPH SIGN ORNAMENT aCUSTARD aCUSTOMS aCUT OF MEAT aCYCLONE
aCYLINDRICITY aCYPRIOT SYLLABLE A cE cI cJA cJO cKA cKE cKI cKO cKU cLA cLE cLI cLO cLU cMA cME
cMI cMO cMU cNA cNE cNI cNO cNU cO cPA cPE cPI cPO cPU cRA cRE cRI cRO cRU cSA cSE cSI cSO cSU cTA
cTE cTI cTO cTU cU cWA cWE cWI cWO cXA cXE cZA cZO aCYPRO-MINOAN SIGN CM001 cCM002 cCM004 cCM005
cCM006 cCM007 cCM008 cCM009 cCM010 cCM011 cCM012 cCM012B cCM013 cCM015 cCM017 cCM019 cCM021 cCM023
cCM024 cCM025 cCM026 cCM027 cCM028 cCM029 cCM030 cCM033 cCM034 cCM035 cCM036 cCM037 cCM038 cCM039
cCM040 cCM041 cCM044 cCM046 cCM047 cCM049 cCM050 cCM051 cCM052 cCM053 cCM054 cCM055 cCM056 cCM058
cCM059 cCM060 cCM061 cCM062 cCM063 cCM064 cCM066 cCM067 cCM068 cCM069 cCM070 cCM071 cCM072 cCM073
cCM074 cCM075 cCM075B cCM076 cCM078 cCM079 cCM080 cCM081 cCM082 cCM083 cCM084 cCM085 cCM086 cCM087
cCM088 cCM089 cCM090 cCM091 cCM092 cCM094 cCM095 cCM096 cCM097 cCM098 cCM099 cCM100 cCM101 cCM102
cCM103 cCM104 cCM105 cCM107 cCM108 cCM109 cCM110 cCM112 cCM114 cCM301 cCM302 aCYRILLIC CAPITAL
LETTER A eWITH BREVE fDIAERESIS dABKHASIAN CHE fWITH DESCENDER eDZE eHA dALEUT KA dBARRED O fWITH
DIAERESIS dBASHKIR KA dBE dBIG YUS dBINOCULAR O dBLENDED YUS dBROAD OMEGA dBYELORUSSIAN-UKRAINIAN
I dCCHE dCHE eWITH DESCENDER fDIAERESIS fVERTICAL STROKE dCLOSED LITTLE YUS dCROSSED O dDCHE dDE
dDJE dDJERV dDOUBLE MONOCULAR O eO dDWE dDZE dDZELO dDZHE dDZWE dDZZE dDZZHE dE eWITH DIAERESIS
dEF dEL eWITH DESCENDER fHOOK fMIDDLE HOOK fTAIL dEM eWITH TAIL dEN eWITH DESCENDER fHOOK fLEFT
HOOK fMIDDLE HOOK fTAIL dER eWITH TICK dES eWITH DESCENDER dFITA dGHE eWITH DESCENDER fMIDDLE HOOK
fSTROKE gAND HOOK fUPTURN dGJE dHA eWITH DESCENDER fHOOK fSTROKE dHARD SIGN dHWE dI eWITH
DIAERESIS fGRAVE fMACRON dIE eWITH BREVE fGRAVE dIO dIOTA dIOTIFIED A eBIG YUS eCLOSED LITTLE YUS
eE eLITTLE YUS eYAT dIZHITSA eWITH DOUBLE GRAVE ACCENT dJE dKA eWITH DESCENDER fHOOK fSTROKE
fVERTICAL STROKE dKHAKASSIAN CHE dKJE dKOMI DE eDJE eDZJE eLJE eNJE eSJE eTJE eZJE dKOPPA dKSI
dLHA dLITTLE YUS dLJE dMONOCULAR O dMONOGRAPH UK dNEUTRAL YER dNJE dO eWITH DIAERESIS dOMEGA eWITH
TITLO dOT dPE eWITH DESCENDER fMIDDLE HOOK dPSI dQA dREVERSED DZE eTSE eYU eZE dRHA dROUND OMEGA
dSCHWA eWITH DIAERESIS dSEMISOFT SIGN dSHA dSHCHA dSHHA eWITH DESCENDER dSHORT I fWITH TAIL eU
dSHWE dSOFT DE eEL eEM eSIGN dSTRAIGHT U fWITH STROKE dTCHE dTE eWITH DESCENDER fMIDDLE HOOK dTSE
dTSHE dTSSE dTSWE dTWE dU eWITH DIAERESIS fDOUBLE ACUTE fMACRON dUK dUKRAINIAN IE dVE dWE dYA dYAE
dYAT dYERU eWITH BACK YER fDIAERESIS dYI dYN dYU dZE eWITH DESCENDER fDIAERESIS dZEMLYA dZHE eWITH
BREVE fDESCENDER fDIAERESIS dZHWE cLIGATURE A IE dEN GHE dTE TSE bKAVYKA bLETTER MULTIOCULAR O
cPALOCHKA cSMALL CAPITAL EL bPAYEROK bSMALL LETTER A eWITH BREVE fDIAERESIS dABKHASIAN CHE fWITH
DESCENDER eDZE eHA dALEUT KA dBARRED O fWITH DIAERESIS dBASHKIR KA dBE dBIG YUS dBINOCULAR O
dBLENDED YUS dBROAD OMEGA dBYELORUSSIAN-UKRAINIAN I dCCHE dCHE eWITH DESCENDER fDIAERESIS
fVERTICAL STROKE dCLOSED LITTLE YUS dCROSSED O dDCHE dDE dDJE dDJERV dDOUBLE MONOCULAR O eO dDWE
dDZE dDZELO dDZHE dDZWE dDZZE dDZZHE dE eWITH DIAERESIS dEF dEL eWITH DESCENDER fHOOK fMIDDLE HOOK
fTAIL dEM eWITH TAIL dEN eWITH DESCENDER fHOOK fLEFT HOOK fMIDDLE HOOK fTAIL dER eWITH TICK dES
eWITH DESCENDER dFITA dGHE eWITH DESCENDER fMIDDLE HOOK fSTROKE gAND HOOK fUPTURN dGJE dHA eWITH
DESCENDER fHOOK fSTROKE dHARD SIGN dHWE dI eWITH DIAERESIS fGRAVE fMACRON dIE eWITH BREVE fGRAVE
dIO dIOTA dIOTIFIED A eBIG YUS eCLOSED LITTLE YUS eE eLITTLE YUS eYAT dIZHITSA eWITH DOUBLE GRAVE
ACCENT dJE dKA eWITH DESCENDER fHOOK fSTROKE fVERTICAL STROKE dKHAKASSIAN CHE dKJE dKOMI DE eDJE
eDZJE eLJE eNJE eSJE eTJE eZJE dKOPPA dKSI dLHA dLITTLE YUS dLJE dLONG-LEGGED DE dMONOCULAR O
dMONOGRAPH UK dNARROW O dNEUTRAL YER dNJE dO eWITH DIAERESIS dOMEGA eWITH TITLO dOT dPALOCHKA dPE
eWITH DESCENDER fMIDDLE HOOK dPSI dQA dREVERSED DZE eTSE eYU eZE dRHA dROUND OMEGA dROUNDED VE
dSCHWA eWITH DIAERESIS dSEMISOFT SIGN dSHA dSHCHA dSHHA eWITH DESCENDER dSHORT I fWITH TAIL eU
dSHWE dSOFT DE eEL eEM eSIGN dSTRAIGHT U fWITH STROKE dTALL HARD SIGN eTE eYAT dTCHE dTE eWITH
DESCENDER fMIDDLE HOOK dTHREE-LEGGED TE dTSE dTSHE dTSSE dTSWE dTWE dU eWITH DIAERESIS fDOUBLE
ACUTE fMACRON dUK dUKRAINIAN IE dUNBLENDED UK dVE dWE dWIDE ES dYA dYAE dYAT dYERU eWITH BACK YER
fDIAERESIS dYI dYN dYU dZE eWITH DESCENDER fDIAERESIS dZEMLYA dZHE eWITH BREVE fDESCENDER
fDIAERESIS dZHWE cLIGATURE A IE dEN GHE dTE TSE bTHOUSANDS SIGN"

end NetLookup.Text.CharacterName
