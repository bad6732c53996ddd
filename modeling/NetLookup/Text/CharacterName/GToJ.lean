/-! # Names of characters that begin with a letter from G to J -/

namespace NetLookup.Text.CharacterName

def gNames : String := "
aGAME DIE aGARLIC aGEAR bWITH HANDLES bWITHOUT HUB aGEM STONE aGEMINI aGENIE aGEOMETRIC PROPORTION
aGEOMETRICALLY EQUAL TO bEQUIVALENT TO aGEORGIAN CAPITAL LETTER AEN dAN dBAN dCAN dCHAR dCHIN dCIL
dDON dEN dGAN dGHAN dHAE dHAR dHE dHIE dHOE dIN dJHAN dJIL dKAN dKHAR dLAS dMAN dNAR dON dPAR
dPHAR dQAR dRAE dSAN dSHIN dTAN dTAR dUN dVIN dWE dXAN dYN dZEN dZHAR bLETTER AEN cAIN cAN cBAN
cCAN cCHAR cCHIN cCIL cDON cELIFI cEN cFI cGAN cGHAN cHAE cHAR cHARD SIGN cHE cHIE cHOE cIN cJHAN
cJIL cKAN cKHAR cLABIAL SIGN cLAS cMAN cNAR cON cPAR cPHAR cQAR cRAE cSAN cSHIN cTAN cTAR cTURNED
GAN cUN cVIN cWE cXAN cYN cZEN cZHAR bMTAVRULI CAPITAL LETTER AEN eAIN eAN eBAN eCAN eCHAR eCHIN
eCIL eDON eELIFI eEN eFI eGAN eGHAN eHAE eHAR eHARD SIGN eHE eHIE eHOE eIN eJHAN eJIL eKAN eKHAR
eLABIAL SIGN eLAS eMAN eNAR eON ePAR ePHAR eQAR eRAE eSAN eSHIN eTAN eTAR eTURNED GAN eUN eVIN eWE
eXAN eYN eZEN eZHAR bPARAGRAPH SEPARATOR bSMALL LETTER AEN dAN dBAN dCAN dCHAR dCHIN dCIL dDON dEN
dGAN dGHAN dHAE dHAR dHE dHIE dHOE dIN dJHAN dJIL dKAN dKHAR dLAS dMAN dNAR dON dPAR dPHAR dQAR
dRAE dSAN dSHIN dTAN dTAR dUN dVIN dWE dXAN dYN dZEN dZHAR aGERMAN PENNY SIGN aGETA MARK aGHOST
aGIMEL SYMBOL aGIRAFFE FACE aGIRL aGIRLS SYMBOL aGLAGOLITIC CAPITAL LETTER AZU dBIG YUS dBUKY
dCAUDATE CHRIVI dCHRIVI dDJERVI dDOBRO dDZELO dFITA dFRITU dGLAGOLI dHERU dI dINITIAL IZHE
dIOTATED BIG YUS eSMALL YUS dIZHE dIZHITSA dKAKO dLATINATE MYSLITE dLJUDIJE dMYSLITE dNASHI dONU
dOTU dPE dPOKOJI dRITSI dSHA dSHTA dSHTAPIC dSLOVO dSMALL YUS fWITH TAIL dSPIDERY HA dTROKUTASTI A
dTSI dTVRIDO dUKU dVEDE dYATI dYERI dYERU dYESTU dYO dYU dZEMLJA dZHIVETE bSMALL LETTER AZU dBIG
YUS dBUKY dCAUDATE CHRIVI dCHRIVI dDJERVI dDOBRO dDZELO dFITA dFRITU dGLAGOLI dHERU dI dINITIAL
IZHE dIOTATED BIG YUS eSMALL YUS dIZHE dIZHITSA dKAKO dLATINATE MYSLITE dLJUDIJE dMYSLITE dNASHI
dONU dOTU dPE dPOKOJI dRITSI dSHA dSHTA dSHTAPIC dSLOVO dSMALL YUS fWITH TAIL dSPIDERY HA
dTROKUTASTI A dTSI dTVRIDO dUKU dVEDE dYATI dYERI dYERU dYESTU dYO dYU dZEMLJA dZHIVETE aGLASS OF
MILK aGLEICH STARK aGLOBE WITH MERIDIANS aGLOVES aGLOWING STAR aGOAL NET aGOAT aGOGGLES aGOLFER
aGORILLA aGOTHIC LETTER AHSA cAIHVUS cBAIRKAN cDAGS cEIS cFAIHU cGIBA cHAGL cHWAIR cIGGWS cIUJA
cJER cKUSMA cLAGUS cMANNA cNAUTHS cNINE HUNDRED cNINETY cOTHAL cPAIRTHRA cQAIRTHRA cRAIDA cSAUIL
cTEIWS cTHIUTH cURUS cWINJA aGRADUATION CAP aGRANTHA AU LENGTH MARK bLETTER A cAA cAI cAU cBA cBHA
cCA cCHA cDA cDDA cDDHA cDHA cEE cGA cGHA cHA cI cII cJA cJHA cKA cKHA cLA cLLA cMA cNA cNGA cNNA
cNYA cOO cPA cPHA cRA cSA cSHA cSSA cTA cTHA cTTA cTTHA cU cUU cVA cVEDIC ANUSVARA dDOUBLE
ANUSVARA cVOCALIC L dLL dR dRR cYA bOM bSIGN ANUSVARA cAVAGRAHA cCANDRABINDU cCOMBINING ANUSVARA
ABOVE cNUKTA cPLUTA cVIRAMA cVISARGA bVOWEL SIGN AA dAI dAU dEE dI dII dOO dU dUU dVOCALIC L eLL
eR eRR aGRAPES aGRAVE ACCENT aGREATER-THAN ABOVE DOUBLE-LINE EQUAL ABOVE LESS-THAN cLESS-THAN
ABOVE DOUBLE-LINE EQUAL cRIGHTWARDS ARROW cSIMILAR ABOVE LESS-THAN dOR EQUAL cSLANTED EQUAL ABOVE
LESS-THAN ABOVE SLANTED EQUAL bAND NOT APPROXIMATE cSINGLE-LINE NOT EQUAL TO bBESIDE LESS-THAN
bBUT NOT EQUAL TO dEQUIVALENT TO bCLOSED BY CURVE eABOVE SLANTED EQUAL bEQUAL TO OR LESS-THAN bOR
APPROXIMATE cEQUAL TO cEQUIVALENT TO cLESS-THAN cSLANTED EQUAL TO fWITH DOT ABOVE iLEFT hINSIDE
bOVER EQUAL TO bOVERLAPPING LESS-THAN bSIGN bWITH CIRCLE INSIDE cDOT cQUESTION MARK ABOVE aGREEK
ACROPHONIC ATTIC FIFTY eSTATERS eTALENTS eTHOUSAND fSTATERS dFIVE eHUNDRED fSTATERS fTALENTS
eSTATERS eTALENTS eTHOUSAND fTALENTS dONE DRACHMA eHALF eHUNDRED STATERS fTALENTS eQUARTER
eTHOUSAND STATERS fTALENTS dTEN MNAS eSTATERS eTALENTS eTHOUSAND STATERS cCARYSTIAN FIVE HUNDRED
cCYRENAIC TWO DRACHMAS cDELPHIC FIVE MNAS cEPIDAUREAN FIVE HUNDRED dTWO eDRACHMAS cHERAEUM ONE
PLETHRON cHERMIONIAN FIFTY dONE dTEN cMESSENIAN TEN cNAXIAN FIVE HUNDRED cSTRATIAN FIFTY MNAS
cTHESPIAN FIFTY dFIVE HUNDRED eTHOUSAND dONE eHUNDRED eTHOUSAND dTEN dTHIRTY dTHREE HUNDRED dTWO
cTROEZENIAN FIFTY eALTERNATE FORM dFIVE eHUNDRED dTEN eALTERNATE FORM bANO TELEIA bAROURA SIGN
bARTABE SIGN bBETA SYMBOL bCAPITAL DOTTED LUNATE SIGMA SYMBOL cKAI SYMBOL cLETTER ALPHA eWITH
DASIA gAND OXIA iAND PROSGEGRAMMENI hPERISPOMENI iAND PROSGEGRAMMENI hPROSGEGRAMMENI hVARIA iAND
PROSGEGRAMMENI fMACRON fOXIA fPROSGEGRAMMENI fPSILI gAND OXIA iAND PROSGEGRAMMENI hPERISPOMENI
iAND PROSGEGRAMMENI hPROSGEGRAMMENI hVARIA iAND PROSGEGRAMMENI fTONOS fVARIA fVRACHY dARCHAIC
SAMPI dBETA dCHI dDELTA dEPSILON eWITH DASIA gAND OXIA hVARIA fOXIA fPSILI gAND OXIA hVARIA fTONOS
fVARIA dETA eWITH DASIA gAND OXIA iAND PROSGEGRAMMENI hPERISPOMENI iAND PROSGEGRAMMENI
hPROSGEGRAMMENI hVARIA iAND PROSGEGRAMMENI fOXIA fPROSGEGRAMMENI fPSILI gAND OXIA iAND
PROSGEGRAMMENI hPERISPOMENI iAND PROSGEGRAMMENI hPROSGEGRAMMENI hVARIA iAND PROSGEGRAMMENI fTONOS
fVARIA dGAMMA dHETA dIOTA eWITH DASIA gAND OXIA hPERISPOMENI hVARIA fDIALYTIKA fMACRON fOXIA
fPSILI gAND OXIA hPERISPOMENI hVARIA fTONOS fVARIA fVRACHY dKAPPA dLAMDA dMU dNU dOMEGA eWITH
DASIA gAND OXIA iAND PROSGEGRAMMENI hPERISPOMENI iAND PROSGEGRAMMENI hPROSGEGRAMMENI hVARIA iAND
PROSGEGRAMMENI fOXIA fPROSGEGRAMMENI fPSILI gAND OXIA iAND PROSGEGRAMMENI hPERISPOMENI iAND
PROSGEGRAMMENI hPROSGEGRAMMENI hVARIA iAND PROSGEGRAMMENI fTONOS fVARIA dOMICRON eWITH DASIA gAND
OXIA hVARIA fOXIA fPSILI gAND OXIA hVARIA fTONOS fVARIA dPAMPHYLIAN DIGAMMA dPHI dPI dPSI dRHO
eWITH DASIA dSAN dSHO dSIGMA dTAU dTHETA dUPSILON eWITH DASIA gAND OXIA hPERISPOMENI hVARIA
fDIALYTIKA fMACRON fOXIA fTONOS fVARIA fVRACHY dXI dYOT dZETA cLUNATE SIGMA SYMBOL cREVERSED
DOTTED LUNATE SIGMA SYMBOL dLUNATE SIGMA SYMBOL cTHETA SYMBOL bDASIA cAND OXIA dPERISPOMENI dVARIA
bDIALYTIKA AND OXIA dPERISPOMENI dVARIA cTONOS bDRACHMA SIGN bFIVE OBOLS SIGN bFOUR OBOLS SIGN
bGRAMMA SIGN bINDICTION SIGN bINSTRUMENTAL NOTATION SYMBOL-1 dSYMBOL-11 dSYMBOL-12 dSYMBOL-13
dSYMBOL-14 dSYMBOL-17 dSYMBOL-18 dSYMBOL-19 dSYMBOL-2 dSYMBOL-23 dSYMBOL-24 dSYMBOL-25 dSYMBOL-26
dSYMBOL-27 dSYMBOL-29 dSYMBOL-30 dSYMBOL-32 dSYMBOL-36 dSYMBOL-37 dSYMBOL-38 dSYMBOL-39 dSYMBOL-4
dSYMBOL-40 dSYMBOL-42 dSYMBOL-43 dSYMBOL-45 dSYMBOL-47 dSYMBOL-48 dSYMBOL-49 dSYMBOL-5 dSYMBOL-50
dSYMBOL-51 dSYMBOL-52 dSYMBOL-53 dSYMBOL-54 dSYMBOL-7 dSYMBOL-8 bKAI SYMBOL bKAPPA SYMBOL bKORONIS
bKYATHOS BASE SIGN bLETTER ARCHAIC KOPPA cDIGAMMA cKOPPA cSAMPI cSMALL CAPITAL GAMMA eLAMDA eOMEGA
ePI ePSI eRHO cSTIGMA cYOT bLITRA SIGN bLOWER NUMERAL SIGN bLUNATE EPSILON SYMBOL cSIGMA SYMBOL
bMETRETES SIGN bMUSICAL LEIMMA bNUMERAL SIGN bOBOL SIGN bONE HALF SIGN eALTERNATE FORM cQUARTER
SIGN bOUNKIA SIGN bOXIA bPERISPOMENI bPHI SYMBOL bPI SYMBOL bPROSGEGRAMMENI bPSILI cAND OXIA
dPERISPOMENI dVARIA bQUESTION MARK bREVERSED LUNATE EPSILON SYMBOL bRHO SYMBOL cWITH STROKE SYMBOL
bSINUSOID SIGN bSMALL DOTTED LUNATE SIGMA SYMBOL cLETTER ALPHA eWITH DASIA gAND OXIA iAND
YPOGEGRAMMENI hPERISPOMENI iAND YPOGEGRAMMENI hVARIA iAND YPOGEGRAMMENI hYPOGEGRAMMENI fMACRON
fOXIA gAND YPOGEGRAMMENI fPERISPOMENI gAND YPOGEGRAMMENI fPSILI gAND OXIA iAND YPOGEGRAMMENI
hPERISPOMENI iAND YPOGEGRAMMENI hVARIA iAND YPOGEGRAMMENI hYPOGEGRAMMENI fTONOS fVARIA gAND
YPOGEGRAMMENI fVRACHY fYPOGEGRAMMENI dARCHAIC KOPPA eSAMPI dBETA dCHI dDELTA dDIGAMMA dEPSILON
eWITH DASIA gAND OXIA hVARIA fOXIA fPSILI gAND OXIA hVARIA fTONOS fVARIA dETA eWITH DASIA gAND
OXIA iAND YPOGEGRAMMENI hPERISPOMENI iAND YPOGEGRAMMENI hVARIA iAND YPOGEGRAMMENI hYPOGEGRAMMENI
fOXIA gAND YPOGEGRAMMENI fPERISPOMENI gAND YPOGEGRAMMENI fPSILI gAND OXIA iAND YPOGEGRAMMENI
hPERISPOMENI iAND YPOGEGRAMMENI hVARIA iAND YPOGEGRAMMENI hYPOGEGRAMMENI fTONOS fVARIA gAND
YPOGEGRAMMENI fYPOGEGRAMMENI dFINAL SIGMA dGAMMA dHETA dIOTA eWITH DASIA gAND OXIA hPERISPOMENI
hVARIA fDIALYTIKA gAND OXIA hPERISPOMENI hTONOS hVARIA fMACRON fOXIA fPERISPOMENI fPSILI gAND OXIA
hPERISPOMENI hVARIA fTONOS fVARIA fVRACHY dKAPPA dKOPPA dLAMDA dMU dNU dOMEGA eWITH DASIA gAND
OXIA iAND YPOGEGRAMMENI hPERISPOMENI iAND YPOGEGRAMMENI hVARIA iAND YPOGEGRAMMENI hYPOGEGRAMMENI
fOXIA gAND YPOGEGRAMMENI fPERISPOMENI gAND YPOGEGRAMMENI fPSILI gAND OXIA iAND YPOGEGRAMMENI
hPERISPOMENI iAND YPOGEGRAMMENI hVARIA iAND YPOGEGRAMMENI hYPOGEGRAMMENI fTONOS fVARIA gAND
YPOGEGRAMMENI fYPOGEGRAMMENI dOMICRON eWITH DASIA gAND OXIA hVARIA fOXIA fPSILI gAND OXIA hVARIA
fTONOS fVARIA dPAMPHYLIAN DIGAMMA dPHI dPI dPSI dRHO eWITH DASIA fPSILI dSAMPI dSAN dSHO dSIGMA
dSTIGMA dTAU dTHETA dUPSILON eWITH DASIA gAND OXIA hPERISPOMENI hVARIA fDIALYTIKA gAND OXIA
hPERISPOMENI hTONOS hVARIA fMACRON fOXIA fPERISPOMENI fPSILI gAND OXIA hPERISPOMENI hVARIA fTONOS
fVARIA fVRACHY dXI dZETA cREVERSED DOTTED LUNATE SIGMA SYMBOL dLUNATE SIGMA SYMBOL bSUBSCRIPT
SMALL LETTER BETA eCHI eGAMMA ePHI eRHO bSYMBOL TAU RHO bTALENT SIGN bTHETA SYMBOL bTHREE OBOLS
SIGN cQUARTERS SIGN bTONOS bTRYBLION BASE SIGN bTWO OBOLS SIGN cTHIRDS SIGN bUPSILON WITH ACUTE
AND HOOK SYMBOL dDIAERESIS AND HOOK SYMBOL dHOOK SYMBOL bVARIA bVOCAL NOTATION SYMBOL-1 dSYMBOL-10
dSYMBOL-11 dSYMBOL-12 dSYMBOL-13 dSYMBOL-14 dSYMBOL-15 dSYMBOL-16 dSYMBOL-17 dSYMBOL-18 dSYMBOL-19
dSYMBOL-2 dSYMBOL-20 dSYMBOL-21 dSYMBOL-22 dSYMBOL-23 dSYMBOL-24 dSYMBOL-3 dSYMBOL-4 dSYMBOL-5
dSYMBOL-50 dSYMBOL-51 dSYMBOL-52 dSYMBOL-53 dSYMBOL-54 dSYMBOL-6 dSYMBOL-7 dSYMBOL-8 dSYMBOL-9
bXESTES SIGN bYEAR SIGN bYPOGEGRAMMENI bZERO SIGN aGREEN APPLE bBOOK bHEART bSALAD aGRIMACING FACE
aGRINNING CAT FACE WITH SMILING EYES bFACE cWITH ONE LARGE AND ONE SMALL EYE dSMILING EYES dSTAR
EYES aGROUP MARK bSEPARATOR aGROWING HEART aGS aGUARANI SIGN aGUARDSMAN aGUIDE DOG aGUITAR
aGUJARATI ABBREVIATION SIGN bDIGIT EIGHT cFIVE cFOUR cNINE cONE cSEVEN cSIX cTHREE cTWO cZERO
bLETTER A cAA cAI cAU cBA cBHA cCA cCHA cDA cDDA cDDHA cDHA cE cGA cGHA cHA cI cII cJA cJHA cKA
cKHA cLA cLLA cMA cNA cNGA cNNA cNYA cO cPA cPHA cRA cSA cSHA cSSA cTA cTHA cTTA cTTHA cU cUU cVA
cVOCALIC L dLL dR dRR cYA cZHA bOM bRUPEE SIGN bSIGN ANUSVARA cAVAGRAHA cCANDRABINDU cCIRCLE NUKTA
ABOVE cMADDAH cNUKTA cSHADDA cSUKUN cTHREE-DOT NUKTA ABOVE cTWO-CIRCLE NUKTA ABOVE cVIRAMA
cVISARGA bVOWEL CANDRA E dO cSIGN AA dAI dAU dCANDRA E eO dE dI dII dO dU dUU dVOCALIC L eLL eR
eRR aGUNJALA GONDI DIGIT EIGHT dFIVE dFOUR dNINE dONE dSEVEN dSIX dTHREE dTWO dZERO cLETTER A dAA
dAI dAU dBA dBHA dCA dCHA dDA dDDA dDDHA dDHA dEE dGA dGHA dHA dI dII dJA dJHA dKA dKHA dLA dLLA
dMA dNA dNGA dOO dPA dPHA dRA dSA dTA dTHA dTTA dTTHA dU dUU dVA dYA cOM cSIGN ANUSVARA dVISARGA
cVIRAMA cVOWEL SIGN AA eAI eAU eEE eI eII eOO eU eUU aGURMUKHI ABBREVIATION SIGN bADDAK bDIGIT
EIGHT cFIVE cFOUR cNINE cONE cSEVEN cSIX cTHREE cTWO cZERO bEK ONKAR bIRI bLETTER A cAA cAI cAU
cBA cBHA cCA cCHA cDA cDDA cDDHA cDHA cEE cFA cGA cGHA cGHHA cHA cI cII cJA cJHA cKA cKHA cKHHA
cLA cLLA cMA cNA cNGA cNNA cNYA cOO cPA cPHA cRA cRRA cSA cSHA cTA cTHA cTTA cTTHA cU cUU cVA cYA
cZA bSIGN ADAK BINDI cBINDI cNUKTA cUDAAT cVIRAMA cVISARGA cYAKASH bTIPPI bURA bVOWEL SIGN AA dAI
dAU dEE dI dII dOO dU dUU"

def hNames : String := "
aHADES aHAIR SPACE aHAIRCUT aHALFWIDTH BLACK SQUARE bDOWNWARDS ARROW bFORMS LIGHT VERTICAL bHANGUL
FILLER cLETTER A dAE dCHIEUCH dCIEUC dE dEO dEU dHIEUH dI dIEUNG dKHIEUKH dKIYEOK dKIYEOK-SIOS
dMIEUM dNIEUN dNIEUN-CIEUC dNIEUN-HIEUH dO dOE dPHIEUPH dPIEUP dPIEUP-SIOS dRIEUL dRIEUL-HIEUH
dRIEUL-KIYEOK dRIEUL-MIEUM dRIEUL-PHIEUPH dRIEUL-PIEUP dRIEUL-SIOS dRIEUL-THIEUTH dSIOS
dSSANGCIEUC dSSANGKIYEOK dSSANGPIEUP dSSANGSIOS dSSANGTIKEUT dTHIEUTH dTIKEUT dU dWA dWAE dWE dWEO
dWI dYA dYAE dYE dYEO dYI dYO dYU bIDEOGRAPHIC COMMA cFULL STOP bKATAKANA LETTER A dE dHA dHE dHI
dHO dHU dI dKA dKE dKI dKO dKU dMA dME dMI dMO dMU dN dNA dNE dNI dNO dNU dO dRA dRE dRI dRO dRU
dSA dSE dSI dSMALL A eE eI eO eTU eU eYA eYO eYU dSO dSU dTA dTE dTI dTO dTU dU dWA dWO dYA dYO
dYU cMIDDLE DOT cSEMI-VOICED SOUND MARK cVOICED SOUND MARK bKATAKANA-HIRAGANA PROLONGED SOUND MARK
bLEFT CORNER BRACKET bLEFTWARDS ARROW bRIGHT CORNER BRACKET bRIGHTWARDS ARROW bUPWARDS ARROW
bWHITE CIRCLE aHAMBURGER aHAMMER bAND PICK cSICKLE cWRENCH aHAMSA aHAMSTER FACE aHAND WITH INDEX
AND MIDDLE FINGERS CROSSED dFINGER AND THUMB CROSSED aHANDBAG aHANDBALL aHANDSHAKE aHANGUL
CHOSEONG CEONGCHIEUMCHIEUCH cCEONGCHIEUMCIEUC cCEONGCHIEUMSIOS cCEONGCHIEUMSSANGCIEUC
cCEONGCHIEUMSSANGSIOS cCHIEUCH cCHIEUCH-HIEUH cCHIEUCH-KHIEUKH cCHITUEUMCHIEUCH cCHITUEUMCIEUC
cCHITUEUMSIOS cCHITUEUMSSANGCIEUC cCHITUEUMSSANGSIOS cCIEUC cCIEUC-IEUNG cFILLER cHIEUH
cHIEUH-SIOS cIEUNG cIEUNG-CHIEUCH cIEUNG-CIEUC cIEUNG-HIEUH cIEUNG-KIYEOK cIEUNG-MIEUM
cIEUNG-PANSIOS cIEUNG-PHIEUPH cIEUNG-PIEUP cIEUNG-RIEUL cIEUNG-SIOS cIEUNG-THIEUTH cIEUNG-TIKEUT
cKAPYEOUNMIEUM cKAPYEOUNPHIEUPH cKAPYEOUNPIEUP cKAPYEOUNRIEUL cKAPYEOUNSSANGPIEUP cKHIEUKH cKIYEOK
cKIYEOK-TIKEUT cMIEUM cMIEUM-KIYEOK cMIEUM-PIEUP cMIEUM-SIOS cMIEUM-TIKEUT cNIEUN cNIEUN-CIEUC
cNIEUN-HIEUH cNIEUN-KIYEOK cNIEUN-PIEUP cNIEUN-SIOS cNIEUN-TIKEUT cPANSIOS cPHIEUPH cPHIEUPH-HIEUH
cPHIEUPH-PIEUP cPIEUP cPIEUP-CHIEUCH cPIEUP-CIEUC cPIEUP-HIEUH cPIEUP-KHIEUKH cPIEUP-KIYEOK
cPIEUP-NIEUN cPIEUP-PHIEUPH cPIEUP-SIOS cPIEUP-SIOS-CIEUC cPIEUP-SIOS-KIYEOK cPIEUP-SIOS-PIEUP
cPIEUP-SIOS-THIEUTH cPIEUP-SIOS-TIKEUT cPIEUP-SSANGSIOS cPIEUP-THIEUTH cPIEUP-TIKEUT cRIEUL
cRIEUL-CIEUC cRIEUL-HIEUH cRIEUL-KAPYEOUNPIEUP cRIEUL-KHIEUKH cRIEUL-KIYEOK cRIEUL-MIEUM
cRIEUL-NIEUN cRIEUL-PIEUP cRIEUL-SIOS cRIEUL-SSANGKIYEOK cRIEUL-SSANGPIEUP cRIEUL-SSANGTIKEUT
cRIEUL-TIKEUT cSIOS cSIOS-CHIEUCH cSIOS-CIEUC cSIOS-HIEUH cSIOS-IEUNG cSIOS-KHIEUKH cSIOS-KIYEOK
cSIOS-MIEUM cSIOS-NIEUN cSIOS-PHIEUPH cSIOS-PIEUP cSIOS-PIEUP-KIYEOK cSIOS-RIEUL cSIOS-SSANGSIOS
cSIOS-THIEUTH cSIOS-TIKEUT cSSANGCIEUC cSSANGCIEUC-HIEUH cSSANGHIEUH cSSANGIEUNG cSSANGKIYEOK
cSSANGNIEUN cSSANGPIEUP cSSANGRIEUL cSSANGSIOS cSSANGSIOS-PIEUP cSSANGTHIEUTH cSSANGTIKEUT
cSSANGYEORINHIEUH cTHIEUTH cTIKEUT cTIKEUT-CIEUC cTIKEUT-KIYEOK cTIKEUT-MIEUM cTIKEUT-PIEUP
cTIKEUT-RIEUL cTIKEUT-SIOS cYEORINHIEUH cYESIEUNG bDOUBLE DOT TONE MARK bFILLER bJONGSEONG CHIEUCH
cCIEUC cCIEUC-PIEUP cCIEUC-SSANGPIEUP cHIEUH cHIEUH-MIEUM cHIEUH-NIEUN cHIEUH-PIEUP cHIEUH-RIEUL
cIEUNG cIEUNG-KHIEUKH cIEUNG-KIYEOK cIEUNG-SSANGKIYEOK cKAPYEOUNMIEUM cKAPYEOUNPHIEUPH
cKAPYEOUNPIEUP cKAPYEOUNRIEUL cKHIEUKH cKIYEOK cKIYEOK-CHIEUCH cKIYEOK-HIEUH cKIYEOK-KHIEUKH
cKIYEOK-NIEUN cKIYEOK-PIEUP cKIYEOK-RIEUL cKIYEOK-SIOS cKIYEOK-SIOS-KIYEOK cMIEUM cMIEUM-CHIEUCH
cMIEUM-CIEUC cMIEUM-HIEUH cMIEUM-KIYEOK cMIEUM-NIEUN cMIEUM-PANSIOS cMIEUM-PIEUP cMIEUM-PIEUP-SIOS
cMIEUM-RIEUL cMIEUM-SIOS cMIEUM-SSANGNIEUN cMIEUM-SSANGSIOS cNIEUN cNIEUN-CHIEUCH cNIEUN-CIEUC
cNIEUN-HIEUH cNIEUN-KIYEOK cNIEUN-PANSIOS cNIEUN-RIEUL cNIEUN-SIOS cNIEUN-THIEUTH cNIEUN-TIKEUT
cPANSIOS cPANSIOS-KAPYEOUNPIEUP cPANSIOS-PIEUP cPHIEUPH cPHIEUPH-PIEUP cPHIEUPH-SIOS
cPHIEUPH-THIEUTH cPIEUP cPIEUP-CHIEUCH cPIEUP-CIEUC cPIEUP-HIEUH cPIEUP-MIEUM cPIEUP-PHIEUPH
cPIEUP-RIEUL cPIEUP-RIEUL-PHIEUPH cPIEUP-SIOS cPIEUP-SIOS-TIKEUT cPIEUP-TIKEUT cRIEUL cRIEUL-HIEUH
cRIEUL-KAPYEOUNPIEUP cRIEUL-KHIEUKH cRIEUL-KIYEOK cRIEUL-KIYEOK-HIEUH cRIEUL-KIYEOK-SIOS
cRIEUL-MIEUM cRIEUL-MIEUM-HIEUH cRIEUL-MIEUM-KIYEOK cRIEUL-MIEUM-SIOS cRIEUL-NIEUN cRIEUL-PANSIOS
cRIEUL-PHIEUPH cRIEUL-PIEUP cRIEUL-PIEUP-HIEUH cRIEUL-PIEUP-PHIEUPH cRIEUL-PIEUP-SIOS
cRIEUL-PIEUP-TIKEUT cRIEUL-SIOS cRIEUL-SSANGKIYEOK cRIEUL-SSANGSIOS cRIEUL-THIEUTH cRIEUL-TIKEUT
cRIEUL-TIKEUT-HIEUH cRIEUL-YEORINHIEUH cRIEUL-YEORINHIEUH-HIEUH cRIEUL-YESIEUNG cSIOS
cSIOS-CHIEUCH cSIOS-CIEUC cSIOS-HIEUH cSIOS-KAPYEOUNPIEUP cSIOS-KIYEOK cSIOS-MIEUM cSIOS-PANSIOS
cSIOS-PIEUP cSIOS-RIEUL cSIOS-THIEUTH cSIOS-TIKEUT cSSANGCIEUC cSSANGIEUNG cSSANGKIYEOK
cSSANGMIEUM cSSANGNIEUN cSSANGPIEUP cSSANGRIEUL cSSANGRIEUL-KHIEUKH cSSANGSIOS cSSANGSIOS-KIYEOK
cSSANGSIOS-TIKEUT cSSANGTIKEUT cSSANGTIKEUT-PIEUP cSSANGYESIEUNG cTHIEUTH cTIKEUT cTIKEUT-CHIEUCH
cTIKEUT-CIEUC cTIKEUT-KIYEOK cTIKEUT-PIEUP cTIKEUT-RIEUL cTIKEUT-SIOS cTIKEUT-SIOS-KIYEOK
cTIKEUT-THIEUTH cYEORINHIEUH cYESIEUNG cYESIEUNG-HIEUH cYESIEUNG-KHIEUKH cYESIEUNG-KIYEOK
cYESIEUNG-MIEUM cYESIEUNG-PANSIOS cYESIEUNG-SIOS cYESIEUNG-SSANGKIYEOK bJUNGSEONG A cA-EU cA-O
cA-U cAE cARAEA cARAEA-A cARAEA-E cARAEA-EO cARAEA-I cARAEA-U cE cEO cEO-EU cEO-O cEO-U cEU cEU-A
cEU-E cEU-EO cEU-EU cEU-O cEU-U cFILLER cI cI-A cI-ARAEA cI-EU cI-I cI-O cI-O-I cI-U cI-YA cI-YA-O
cI-YAE cI-YE cI-YEO cI-YO cI-YU cO cO-E cO-EO cO-O cO-O-I cO-U cO-YA cO-YAE cO-YE cO-YEO cOE
cSSANGARAEA cU cU-A cU-AE cU-EO-EU cU-I-I cU-U cU-YE cU-YEO cWA cWAE cWE cWEO cWI cYA cYA-O cYA-U
cYA-YO cYAE cYE cYEO cYEO-O cYEO-U cYEO-YA cYI cYI-U cYO cYO-A cYO-AE cYO-EO cYO-I cYO-O cYO-YA
cYO-YAE cYO-YEO cYU cYU-A cYU-AE cYU-E cYU-EO cYU-I cYU-O cYU-U cYU-YE cYU-YEO bLETTER A cAE
cARAEA cARAEAE cCHIEUCH cCIEUC cE cEO cEU cHIEUH cI cIEUNG cKAPYEOUNMIEUM cKAPYEOUNPHIEUPH
cKAPYEOUNPIEUP cKAPYEOUNSSANGPIEUP cKHIEUKH cKIYEOK cKIYEOK-SIOS cMIEUM cMIEUM-PANSIOS
cMIEUM-PIEUP cMIEUM-SIOS cNIEUN cNIEUN-CIEUC cNIEUN-HIEUH cNIEUN-PANSIOS cNIEUN-SIOS cNIEUN-TIKEUT
cO cOE cPANSIOS cPHIEUPH cPIEUP cPIEUP-CIEUC cPIEUP-KIYEOK cPIEUP-SIOS cPIEUP-SIOS-KIYEOK
cPIEUP-SIOS-TIKEUT cPIEUP-THIEUTH cPIEUP-TIKEUT cRIEUL cRIEUL-HIEUH cRIEUL-KIYEOK
cRIEUL-KIYEOK-SIOS cRIEUL-MIEUM cRIEUL-PANSIOS cRIEUL-PHIEUPH cRIEUL-PIEUP cRIEUL-PIEUP-SIOS
cRIEUL-SIOS cRIEUL-THIEUTH cRIEUL-TIKEUT cRIEUL-YEORINHIEUH cSIOS cSIOS-CIEUC cSIOS-KIYEOK
cSIOS-NIEUN cSIOS-PIEUP cSIOS-TIKEUT cSSANGCIEUC cSSANGHIEUH cSSANGIEUNG cSSANGKIYEOK cSSANGNIEUN
cSSANGPIEUP cSSANGSIOS cSSANGTIKEUT cTHIEUTH cTIKEUT cU cWA cWAE cWE cWEO cWI cYA cYAE cYE cYEO
cYEORINHIEUH cYESIEUNG cYESIEUNG-PANSIOS cYESIEUNG-SIOS cYI cYO cYO-I cYO-YA cYO-YAE cYU cYU-I
cYU-YE cYU-YEO bSINGLE DOT TONE MARK aHANGZHOU NUMERAL EIGHT cFIVE cFOUR cNINE cONE cSEVEN cSIX
cTEN cTHIRTY cTHREE cTWENTY cTWO aHANIFI ROHINGYA DIGIT EIGHT dFIVE dFOUR dNINE dONE dSEVEN dSIX
dTHREE dTWO dZERO cLETTER A dBA dCA dDA dDDA dFA dGA dHA dJA dKA dKHA dKINNA WA eYA dLA dMA dNA
dNGA dNYA dPA dRA dRRA dSA dSHA dTA dTTA dVA dWA dYA dZA cMARK NA KHONNA dSAKIN cSIGN HARBAHAY
dTAHALA dTANA dTASSI cVOWEL A dE dI dO dU aHANUNOO LETTER A cBA cDA cGA cHA cI cKA cLA cMA cNA
cNGA cPA cRA cSA cTA cU cWA cYA bSIGN PAMUDPOD bVOWEL SIGN I dU aHAPPY PERSON RAISING ONE HAND
aHARD DISK aHATCHING CHICK aHATRAN LETTER ALEPH cAYN cBETH cDALETH-RESH cGIMEL cHE cHETH cKAPH
cLAMEDH cMEM cNUN cPE cQOPH cSADHE cSAMEKH cSHIN cTAW cTETH cWAW cYODH cZAYN bNUMBER FIVE cONE
dHUNDRED cTEN cTWENTY aHEADPHONE aHEADSTONE bGRAVEYARD SYMBOL aHEAR-NO-EVIL MONKEY aHEART
DECORATION bHANDS bWITH ARROW cRIBBON cTIP ON THE LEFT aHEAVY AMPERSAND ORNAMENT bARROW SHAFT
WIDTH ONE fHALF fTHIRD eTWO THIRDS bASTERISK bBALLOT X bBLACK CURVED DOWNWARDS AND RIGHTWARDS
ARROW dUPWARDS AND RIGHTWARDS ARROW cHEART bBLACK-FEATHERED NORTH EAST ARROW cRIGHTWARDS ARROW
cSOUTH EAST ARROW bCHECK MARK bCHEVRON SNOWFLAKE bCIRCLE cWITH CIRCLE INSIDE dSTROKE AND TWO DOTS
ABOVE bCIRCLED SALTIRE bCONCAVE-POINTED BLACK RIGHTWARDS ARROW bDASHED TRIANGLE-HEADED RIGHTWARDS
ARROW bDIVISION SIGN bDOLLAR SIGN bDOUBLE COMMA QUOTATION MARK ORNAMENT cTURNED COMMA QUOTATION
MARK ORNAMENT bDOWNWARDS ARROW WITH EQUILATERAL ARROWHEAD eLARGE EQUILATERAL ARROWHEAD bEIGHT
POINTED BLACK STAR dPINWHEEL STAR dRECTILINEAR BLACK STAR cSPOKED ASTERISK cTEARDROP-SPOKED
PROPELLER ASTERISK bEQUALS SIGN bEXCLAMATION MARK ORNAMENT dSYMBOL bFIVE POINTED BLACK STAR
cSPOKED ASTERISK bFOUR BALLOON-SPOKED ASTERISK bGREEK CROSS bHEART EXCLAMATION MARK ORNAMENT
bHORIZONTAL FILL bINTERROBANG ORNAMENT bLARGE CIRCLE bLATIN CROSS bLEFT-POINTING ANGLE BRACKET
ORNAMENT dQUOTATION MARK ORNAMENT bLEFTWARDS ARROW WITH EQUILATERAL ARROWHEAD eLARGE EQUILATERAL
ARROWHEAD bLIGATURE OPEN ET ORNAMENT bLOW DOUBLE COMMA QUOTATION MARK ORNAMENT cSINGLE COMMA
QUOTATION MARK ORNAMENT bLOWER RIGHT-SHADOWED WHITE RIGHTWARDS ARROW bMINUS SIGN bMULTIPLICATION X
bNORTH EAST ARROW dPOINTING BUD eVINE LEAF cWEST POINTING BUD eVINE LEAF bOPEN CENTRE CROSS
bOUTLINED BLACK STAR bOVAL WITH OVAL INSIDE bPLUS SIGN bRIGHT-POINTING ANGLE BRACKET ORNAMENT
dQUOTATION MARK ORNAMENT bRIGHTWARDS ARROW dWITH EQUILATERAL ARROWHEAD eLARGE EQUILATERAL
ARROWHEAD bROUND-TIPPED RIGHTWARDS ARROW bSALTIRE bSANS-SERIF INTERROBANG ORNAMENT bSCRIPT
LIGATURE ET ORNAMENT bSINGLE COMMA QUOTATION MARK ORNAMENT cTURNED COMMA QUOTATION MARK ORNAMENT
bSIX POINTED BLACK STAR cSPOKED ASTERISK bSOUTH EAST ARROW dPOINTING BUD eVINE LEAF cWEST POINTING
BUD eVINE LEAF bSPARKLE bTEARDROP-SHANKED RIGHTWARDS ARROW bTEARDROP-SPOKED ASTERISK cPINWHEEL
ASTERISK bTRIANGLE-HEADED RIGHTWARDS ARROW bTWELVE POINTED BLACK STAR dPINWHEEL STAR bUPPER
RIGHT-SHADOWED WHITE RIGHTWARDS ARROW bUPWARDS ARROW WITH EQUILATERAL ARROWHEAD eLARGE EQUILATERAL
ARROWHEAD bVERTICAL BAR bWEDGE-TAILED RIGHTWARDS ARROW bWHITE CIRCLE cDOWN-POINTING TRIANGLE
cSQUARE bWIDE-HEADED RIGHTWARDS ARROW aHEBREW ACCENT ATNAH HAFUKH cDARGA cDEHI cETNAHTA cGERESH
dMUQDAM cGERSHAYIM cILUY cMAHAPAKH cMERKHA dKEFULA cMUNAH cOLE cPASHTA cPAZER cQADMA cQARNEY PARA
cREVIA cSEGOL cSHALSHELET cTELISHA GEDOLA dQETANA cTEVIR cTIPEHA cYERAH BEN YOMO cYETIV cZAQEF
GADOL dQATAN cZARQA cZINOR bLETTER ALEF dWITH MAPIQ ePATAH eQAMATS cALTERNATIVE AYIN dPLUS SIGN
cAYIN cBET dWITH DAGESH eRAFE cDALET dWITH DAGESH cFINAL KAF eWITH DAGESH dMEM dNUN dPE eWITH
DAGESH dTSADI cGIMEL dWITH DAGESH cHE dWITH MAPIQ cHET cKAF dWITH DAGESH eRAFE cLAMED dWITH DAGESH
cMEM dWITH DAGESH cNUN dWITH DAGESH cPE dWITH DAGESH eRAFE cQOF dWITH DAGESH cRESH dWITH DAGESH
cSAMEKH dWITH DAGESH cSHIN dWITH DAGESH fAND SHIN DOT gSIN DOT eSHIN DOT eSIN DOT cTAV dWITH
DAGESH cTET dWITH DAGESH cTSADI dWITH DAGESH cVAV dWITH DAGESH eHOLAM cWIDE ALEF dDALET dFINAL MEM
dHE dKAF dLAMED dRESH dTAV cYOD dWITH DAGESH eHIRIQ cZAYIN dWITH DAGESH bLIGATURE ALEF LAMED
cYIDDISH DOUBLE VAV eYOD dVAV YOD dYOD YOD PATAH bMARK LOWER DOT cMASORA CIRCLE cUPPER DOT bPOINT
DAGESH OR MAPIQ cHATAF PATAH dQAMATS dSEGOL cHIRIQ cHOLAM dHASER FOR VAV cJUDEO-SPANISH VARIKA
cMETEG cPATAH cQAMATS dQATAN cQUBUTS cRAFE cSEGOL cSHEVA cSHIN DOT cSIN DOT cTSERE bPUNCTUATION
GERESH cGERSHAYIM cMAQAF cNUN HAFUKHA cPASEQ cSOF PASUQ bYOD TRIANGLE aHEDGEHOG aHELICOPTER
aHELLSCHREIBER PAUSE SYMBOL aHELM SYMBOL aHELMET WITH WHITE CROSS aHENTAIGANA LETTER A-1 cA-2 cA-3
cA-WO cE-1 cE-2 cE-3 cE-4 cE-5 cE-6 cHA-1 cHA-10 cHA-11 cHA-2 cHA-3 cHA-4 cHA-5 cHA-6 cHA-7 cHA-8
cHA-9 cHE-1 cHE-2 cHE-3 cHE-4 cHE-5 cHE-6 cHE-7 cHI-1 cHI-2 cHI-3 cHI-4 cHI-5 cHI-6 cHI-7 cHO-1
cHO-2 cHO-3 cHO-4 cHO-5 cHO-6 cHO-7 cHO-8 cHU-1 cHU-2 cHU-3 cI-1 cI-2 cI-3 cI-4 cKA-1 cKA-10
cKA-11 cKA-2 cKA-3 cKA-4 cKA-5 cKA-6 cKA-7 cKA-8 cKA-9 cKA-KE cKE-1 cKE-2 cKE-3 cKE-4 cKE-5 cKE-6
cKI-1 cKI-2 cKI-3 cKI-4 cKI-5 cKI-6 cKI-7 cKI-8 cKO-1 cKO-2 cKO-3 cKO-KI cKU-1 cKU-2 cKU-3 cKU-4
cKU-5 cKU-6 cKU-7 cMA-1 cMA-2 cMA-3 cMA-4 cMA-5 cMA-6 cMA-7 cME-1 cME-2 cME-MA cMI-1 cMI-2 cMI-3
cMI-4 cMI-5 cMI-6 cMI-7 cMO-1 cMO-2 cMO-3 cMO-4 cMO-5 cMO-6 cMU-1 cMU-2 cMU-3 cMU-4 cN-MU-MO-1
cN-MU-MO-2 cNA-1 cNA-2 cNA-3 cNA-4 cNA-5 cNA-6 cNA-7 cNA-8 cNA-9 cNE-1 cNE-2 cNE-3 cNE-4 cNE-5
cNE-6 cNE-KO cNI-1 cNI-2 cNI-3 cNI-4 cNI-5 cNI-6 cNI-7 cNI-TE cNO-1 cNO-2 cNO-3 cNO-4 cNO-5 cNU-1
cNU-2 cNU-3 cO-1 cO-2 cO-3 cRA-1 cRA-2 cRA-3 cRA-4 cRE-1 cRE-2 cRE-3 cRE-4 cRI-1 cRI-2 cRI-3 cRI-4
cRI-5 cRI-6 cRI-7 cRO-1 cRO-2 cRO-3 cRO-4 cRO-5 cRO-6 cRU-1 cRU-2 cRU-3 cRU-4 cRU-5 cRU-6 cSA-1
cSA-2 cSA-3 cSA-4 cSA-5 cSA-6 cSA-7 cSA-8 cSE-1 cSE-2 cSE-3 cSE-4 cSE-5 cSI-1 cSI-2 cSI-3 cSI-4
cSI-5 cSI-6 cSO-1 cSO-2 cSO-3 cSO-4 cSO-5 cSO-6 cSO-7 cSU-1 cSU-2 cSU-3 cSU-4 cSU-5 cSU-6 cSU-7
cSU-8 cTA-1 cTA-2 cTA-3 cTA-4 cTE-1 cTE-2 cTE-3 cTE-4 cTE-5 cTE-6 cTE-7 cTE-8 cTE-9 cTI-1 cTI-2
cTI-3 cTI-4 cTI-5 cTI-6 cTI-7 cTO-1 cTO-2 cTO-3 cTO-4 cTO-5 cTO-6 cTO-RA cTU-1 cTU-2 cTU-3 cTU-4
cTU-TO cU-1 cU-2 cU-3 cU-4 cU-5 cWA-1 cWA-2 cWA-3 cWA-4 cWA-5 cWE-1 cWE-2 cWE-3 cWE-4 cWI-1 cWI-2
cWI-3 cWI-4 cWI-5 cWO-1 cWO-2 cWO-3 cWO-4 cWO-5 cWO-6 cWO-7 cYA-1 cYA-2 cYA-3 cYA-4 cYA-5 cYA-YO
cYO-1 cYO-2 cYO-3 cYO-4 cYO-5 cYO-6 cYU-1 cYU-2 cYU-3 cYU-4 aHERB aHERMITIAN CONJUGATE MATRIX
aHEXAGRAM FOR ABUNDANCE cAFTER COMPLETION cAPPROACH cBEFORE COMPLETION cBITING THROUGH
cBREAKTHROUGH cCOMING TO MEET cCONFLICT cCONTEMPLATION cDARKENING OF THE LIGHT cDECREASE
cDELIVERANCE cDEVELOPMENT cDIFFICULTY AT THE BEGINNING cDISPERSION cDURATION cENTHUSIASM
cFELLOWSHIP cFOLLOWING cGATHERING TOGETHER cGRACE cGREAT POSSESSION dPOWER dPREPONDERANCE dTAMING
cHOLDING TOGETHER cINCREASE cINFLUENCE cINNER TRUTH cINNOCENCE cLIMITATION cMODESTY cMOUTH CORNERS
cOBSTRUCTION cOPPOSITION cOPPRESSION cPEACE cPROGRESS cPUSHING UPWARD cRETREAT cRETURN cREVOLUTION
cSMALL PREPONDERANCE dTAMING cSPLITTING APART cSTANDSTILL cTHE ABYSMAL WATER dARMY dAROUSING
THUNDER dCAULDRON dCLINGING FIRE dCREATIVE HEAVEN dFAMILY dGENTLE WIND dJOYOUS LAKE dKEEPING STILL
MOUNTAIN dMARRYING MAIDEN dRECEPTIVE EARTH dWANDERER dWELL cTREADING cWAITING cWORK ON THE DECAYED
cYOUTHFUL FOLLY aHIBISCUS aHIGH BRIGHTNESS SYMBOL bOCTET PRESET bVOLTAGE SIGN aHIGH-HEELED SHOE
aHIGH-SPEED TRAIN cWITH BULLET NOSE aHIKING BOOT aHINDU TEMPLE aHIPPOPOTAMUS aHIRAGANA DIGRAPH
YORI bITERATION MARK bLETTER A cARCHAIC WU dYE cBA cBE cBI cBO cBU cDA cDE cDI cDO cDU cE cGA cGE
cGI cGO cGU cHA cHE cHI cHO cHU cI cKA cKE cKI cKO cKU cMA cME cMI cMO cMU cN cNA cNE cNI cNO cNU
cO cPA cPE cPI cPO cPU cRA cRE cRI cRO cRU cSA cSE cSI cSMALL A dE dI dKA dKE dO dTU dU dWA dWE
dWI dWO dYA dYO dYU cSO cSU cTA cTE cTI cTO cTU cU cVU cWA cWE cWI cWO cYA cYO cYU cZA cZE cZI cZO
cZU bVOICED ITERATION MARK aHISTORIC SITE aHOCHO aHOLE aHOLLOW QUILT SQUARE ORNAMENT eIN BLACK
SQUARE aHOMOTHETIC aHONEY POT aHONEYBEE aHOOK aHOP aHORIZONTAL BAR bBLACK HEXAGON cOCTAGON
bELLIPSIS bLINE EXTENSION bMALE WITH STROKE SIGN bONE EIGHTH BLOCK-1358 dBLOCK-2 dBLOCK-3 dBLOCK-4
dBLOCK-5 dBLOCK-6 dBLOCK-7 bSCAN LINE-1 cLINE-3 cLINE-7 cLINE-9 bTAB KEY bTABULATION cSET cWITH
JUSTIFICATION bTRAFFIC LIGHT aHORSE bFACE bRACING aHOSPITAL aHOT BEVERAGE bDOG bPEPPER bSPRINGS
aHOTEL aHOURGLASS bWITH FLOWING SAND aHOUSE bBUILDING bBUILDINGS bWITH GARDEN aHRYVNIA SIGN aHT
aHTJ aHTS aHUGGING FACE aHUNDRED POINTS SYMBOL aHUSHED FACE aHUT aHYGIEA aHYPHEN bBULLET bWITH
DIAERESIS aHYPHEN-MINUS aHYPHENATION POINT aHYPODIASTOLE aHYSTERESIS SYMBOL"

def iNames : String := "
aI LOVE YOU HAND SIGN aICE CREAM bCUBE bHOCKEY STICK AND PUCK bSKATE aIDENTICAL TO cAND SLANTED
PARALLEL bWITH DOT ABOVE aIDENTIFICATION CARD aIDEOGRAPHIC ANNOTATION BOTTOM MARK cEARTH MARK
cFIRST MARK cFOUR MARK cFOURTH MARK cHEAVEN MARK cLINKING MARK cMAN MARK cMIDDLE MARK cONE MARK
cREVERSE MARK cSECOND MARK cTHIRD MARK cTHREE MARK cTOP MARK cTWO MARK bCLOSING MARK bCOMMA
bDEPARTING TONE MARK bDESCRIPTION CHARACTER ABOVE TO BELOW fMIDDLE AND BELOW dFULL SURROUND dLEFT
TO MIDDLE AND RIGHT fRIGHT dOVERLAID dSURROUND FROM ABOVE fBELOW fLEFT fLOWER LEFT fUPPER LEFT
gRIGHT bENTERING TONE MARK bFULL STOP bHALF FILL SPACE bITERATION MARK bLEVEL TONE MARK bNUMBER
ZERO bRISING TONE MARK bSPACE bTALLY MARK FIVE dFOUR dONE dTHREE dTWO bTELEGRAPH LINE FEED
SEPARATOR SYMBOL cSYMBOL FOR APRIL eAUGUST eDAY EIGHT fEIGHTEEN fELEVEN fFIFTEEN fFIVE fFOUR
fFOURTEEN fNINE fNINETEEN fONE fSEVEN fSEVENTEEN fSIX fSIXTEEN fTEN fTHIRTEEN fTHIRTY fTHIRTY-ONE
fTHREE fTWELVE fTWENTY fTWENTY-EIGHT fTWENTY-FIVE fTWENTY-FOUR fTWENTY-NINE fTWENTY-ONE
fTWENTY-SEVEN fTWENTY-SIX fTWENTY-THREE fTWENTY-TWO fTWO eDECEMBER eFEBRUARY eHOUR EIGHT fEIGHTEEN
fELEVEN fFIFTEEN fFIVE fFOUR fFOURTEEN fNINE fNINETEEN fONE fSEVEN fSEVENTEEN fSIX fSIXTEEN fTEN
fTHIRTEEN fTHREE fTWELVE fTWENTY fTWENTY-FOUR fTWENTY-ONE fTWENTY-THREE fTWENTY-TWO fTWO fZERO
eJANUARY eJULY eJUNE eMARCH eMAY eNOVEMBER eOCTOBER eSEPTEMBER bVARIATION INDICATOR aIMAGE OF cOR
APPROXIMATELY EQUAL TO aIMP aIMPERIAL ARAMAIC LETTER ALEPH dAYIN dBETH dDALETH dGIMEL dHE dHETH
dKAPH dLAMEDH dMEM dNUN dPE dQOPH dRESH dSADHE dSAMEKH dSHIN dTAW dTETH dWAW dYODH dZAYIN cNUMBER
ONE eHUNDRED eTHOUSAND dTEN eTHOUSAND dTHREE dTWENTY dTWO cSECTION SIGN aINBOX TRAY aINCOMING
ENVELOPE aINCOMPLETE INFINITY aINCREASE FONT SIZE SYMBOL aINCREASES AS aINCREMENT aIND aINDEX
bPOINTING AT THE VIEWER aINDIAN RUPEE SIGN aINDIC SIYAQ ALTERNATE LAKH MARK cFRACTION ONE HALF
eQUARTER dTHREE QUARTERS cLAKH MARK cNUMBER ALTERNATE ONE eTEN THOUSAND eTWO dEIGHT eHUNDRED
eTHOUSAND dEIGHTY eTHOUSAND dFIFTY eTHOUSAND dFIVE eHUNDRED eTHOUSAND dFORTY eTHOUSAND dFOUR
eHUNDRED eTHOUSAND dKAROR dKARORAN dLAKH dLAKHAN dNINE eHUNDRED eTHOUSAND dNINETY eTHOUSAND dONE
eHUNDRED eTHOUSAND dPREFIXED EIGHT eFIVE eFOUR eNINE eONE eSEVEN eSIX eTHREE eTWO dSEVEN eHUNDRED
eTHOUSAND dSEVENTY eTHOUSAND dSIX eHUNDRED eTHOUSAND dSIXTY eTHOUSAND dTEN eTHOUSAND dTHIRTY
eTHOUSAND dTHREE eHUNDRED eTHOUSAND dTWENTY eTHOUSAND dTWO eHUNDRED eTHOUSAND cPLACEHOLDER cRUPEE
MARK aINFINITY bNEGATED WITH VERTICAL BAR aINFORMATION DESK PERSON bSEPARATOR FOUR cONE cTHREE
cTWO bSOURCE aINHIBIT ARABIC FORM SHAPING bSYMMETRIC SWAPPING aINPUT SYMBOL FOR LATIN CAPITAL
LETTERS eLETTERS eSMALL LETTERS dNUMBERS dSYMBOLS aINSCRIPTIONAL PAHLAVI LETTER ALEPH dBETH
dDALETH dGIMEL dHE dHETH dKAPH dLAMEDH dMEM-QOPH dNUN dPE dSADHE dSAMEKH dSHIN dTAW dTETH
dWAW-AYIN-RESH dYODH dZAYIN cNUMBER FOUR dONE eHUNDRED eTHOUSAND dTEN dTHREE dTWENTY dTWO
bPARTHIAN LETTER ALEPH dAYIN dBETH dDALETH dGIMEL dHE dHETH dKAPH dLAMEDH dMEM dNUN dPE dQOPH
dRESH dSADHE dSAMEKH dSHIN dTAW dTETH dWAW dYODH dZAYIN cNUMBER FOUR dONE eHUNDRED eTHOUSAND dTEN
dTHREE dTWENTY dTWO aINSERTION SYMBOL aINTEGRAL bAROUND A POINT OPERATOR bAVERAGE WITH SLASH
bEXTENSION bWITH DOUBLE STROKE cINTERSECTION cLEFTWARDS ARROW WITH HOOK cOVERBAR cTIMES SIGN
cUNDERBAR cUNION aINTERCALATE aINTERIOR PRODUCT aINTERLINEAR ANNOTATION ANCHOR cSEPARATOR
cTERMINATOR aINTERLOCKED FEMALE AND MALE SIGN aINTERROBANG aINTERSECTION bABOVE BAR ABOVE UNION
cUNION bBESIDE AND JOINED WITH INTERSECTION bWITH DOT cLOGICAL AND cOVERBAR aINVERSE BULLET bCHECK
MARK bCHECKER BOARD FILL bDOWNWARDS ARROW WITH TIP LEFTWARDS bMEDIUM SHADE bWHITE CIRCLE aINVERTED
EXCLAMATION MARK bINTERROBANG bLAZY S bLOW KAVYKA dWITH KAVYKA ABOVE bOHM SIGN bPENTAGRAM
bQUESTION MARK bUNDERTIE aINVISIBLE PLUS bSEPARATOR bTIMES aIZAKAYA LANTERN"

def jNames : String := "
aJACK-O-LANTERN aJAPANESE BANK SYMBOL bCASTLE bDOLLS bGOBLIN bINDUSTRIAL STANDARD SYMBOL bOGRE
bPOST OFFICE bSYMBOL FOR BEGINNER aJAR aJAVANESE CONSONANT SIGN CAKRA dKERET dPENGKAL bDIGIT EIGHT
cFIVE cFOUR cNINE cONE cSEVEN cSIX cTHREE cTWO cZERO bLEFT RERENGGAN bLETTER A cAI cBA dMURDA cCA
dMURDA cDA dMAHAPRANA cDDA dMAHAPRANA cE cGA dMURDA cHA cI dKAWI cII cJA dMAHAPRANA cKA dMURDA
dSASAK cLA cMA cNA dMURDA cNGA dLELET eRASWADI cNYA dMURDA cO cPA dCEREK dMURDA cRA dAGUNG cSA
dMAHAPRANA dMURDA cTA dMURDA cTTA dMAHAPRANA cU cWA cYA bPADA ADEG dADEG cANDAP cISEN-ISEN cLINGSA
cLUHUR cLUNGSI cMADYA cPANGKAT cPISELEH cTIRTA TUMETES cWINDU bPANGKON bPANGRANGKEP bRIGHT
RERENGGAN bSIGN CECAK dTELU cLAYAR cPANYANGGA cWIGNYAN bTURNED PADA PISELEH bVOWEL SIGN DIRGA MURE
dPEPET dSUKU eMENDUT dTALING dTARUNG dTOLONG dWULU eMELIK aJEANS aJIGSAW PUZZLE PIECE aJOIN
aJOYSTICK aJUGGLING aJUNO aJUPITER"

end NetLookup.Text.CharacterName
