/-! # Names of characters that begin with a letter from M to N -/

namespace NetLookup.Text.CharacterName

def mNames : String := "
aMACRON aMAGE aMAGIC WAND aMAGNET aMAHAJANI ABBREVIATION SIGN bLETTER A cBA cBHA cCA cCHA cDA cDDA
cDDHA cDHA cE cGA cGHA cHA cI cJA cJHA cKA cKHA cLA cMA cNA cNNA cNYA cO cPA cPHA cRA cRRA cSA cTA
cTHA cTTA cTTHA cU cVA bLIGATURE SHRI bSECTION MARK bSIGN NUKTA aMAHJONG TILE AUTUMN cBACK cBAMBOO
cCHRYSANTHEMUM cEAST WIND cEIGHT OF BAMBOOS eCHARACTERS eCIRCLES cFIVE OF BAMBOOS eCHARACTERS
eCIRCLES cFOUR OF BAMBOOS eCHARACTERS eCIRCLES cGREEN DRAGON cJOKER cNINE OF BAMBOOS eCHARACTERS
eCIRCLES cNORTH WIND cONE OF BAMBOOS eCHARACTERS eCIRCLES cORCHID cPLUM cRED DRAGON cSEVEN OF
BAMBOOS eCHARACTERS eCIRCLES cSIX OF BAMBOOS eCHARACTERS eCIRCLES cSOUTH WIND cSPRING cSUMMER
cTHREE OF BAMBOOS eCHARACTERS eCIRCLES cTWO OF BAMBOOS eCHARACTERS eCIRCLES cWEST WIND cWHITE
DRAGON cWINTER aMAKASAR ANGKA bEND OF SECTION bLETTER A cBA cCA cDA cGA cJA cKA cLA cMA cNA cNGA
cNYA cPA cRA cSA cTA cVA cYA bPASSIMBANG bVOWEL SIGN E dI dO dU aMALAYALAM AU LENGTH MARK bDATE
MARK bDIGIT EIGHT cFIVE cFOUR cNINE cONE cSEVEN cSIX cTHREE cTWO cZERO bFRACTION ONE EIGHTH dFIFTH
dFORTIETH dHALF dONE-HUNDRED-AND-SIXTIETH dQUARTER dSIXTEENTH dTENTH dTWENTIETH cTHREE EIGHTIETHS
dQUARTERS dSIXTEENTHS dTWENTIETHS bLETTER A cAA cAI cARCHAIC II cAU cBA cBHA cCA cCHA cCHILLU K dL
dLL dLLL dM dN dNN dRR dY cDA cDDA cDDHA cDHA cDOT REPH cE cEE cGA cGHA cHA cI cII cJA cJHA cKA
cKHA cLA cLLA cLLLA cMA cNA cNGA cNNA cNNNA cNYA cO cOO cPA cPHA cRA cRRA cSA cSHA cSSA cTA cTHA
cTTA cTTHA cTTTA cU cUU cVA cVEDIC ANUSVARA cVOCALIC L dLL dR dRR cYA bNUMBER ONE HUNDRED
dTHOUSAND cTEN bSIGN ANUSVARA cAVAGRAHA cCANDRABINDU cCIRCULAR VIRAMA cCOMBINING ANUSVARA ABOVE
cPARA cVERTICAL BAR VIRAMA cVIRAMA cVISARGA bVOWEL SIGN AA dAI dAU dE dEE dI dII dO dOO dU dUU
dVOCALIC L eLL eR eRR aMALE AND FEMALE SIGN bSIGN bWITH STROKE AND MALE AND FEMALE SIGN dSIGN
aMALTESE CROSS aMAMMOTH aMAN bAND WOMAN HOLDING HANDS bDANCING bIN BUSINESS SUIT LEVITATING
cTUXEDO bWITH GUA PI MAO cTURBAN aMANAT SIGN aMANDAIC AFFRICATION MARK bGEMINATION MARK bLETTER AB
cAD cAG cAH cAIN cAK cAKSA cAL cAM cAN cAP cAQ cAR cAS cASH cASZ cAT cATT cAZ cDUSHENNA cHALQA cIN
cIT cKAD cUSHENNA bPUNCTUATION bVOCALIZATION MARK aMANGO aMANICHAEAN ABBREVIATION MARK ABOVE
dBELOW bLETTER AAYIN cALEPH cAYIN cBETH cBHETH cDALETH cDHAMEDH cFE cGHIMEL cGIMEL cHE cHETH
cJAYIN cJHAYIN cKAPH cKHAPH cLAMEDH cMEM cNUN cPE cQHOPH cQOPH cRESH cSADHE cSAMEKH cSHIN cSSHIN
cTAW cTETH cTHAMEDH cWAW cXAPH cXOPH cYODH cZAYIN cZHAYIN bNUMBER FIVE cONE dHUNDRED cTEN cTWENTY
bPUNCTUATION DOT dWITHIN DOT cDOUBLE DOT WITHIN DOT cFLEURON cLINE FILLER cSTAR cTWO DOTS bSIGN UD
aMANS SHOE aMANTELPIECE CLOCK aMANUAL WHEELCHAIR aMAP SYMBOL FOR LIGHTHOUSE aMAPLE LEAF aMARCHEN
HEAD MARK bLETTER -A cA cBA cCA cCHA cDA cDZA cGA cHA cJA cKA cKHA cLA cMA cNA cNGA cNYA cPA cPHA
cRA cSA cSHA cTA cTHA cTSA cTSHA cWA cYA cZA cZHA bMARK SHAD bSIGN ANUSVARA cCANDRABINDU
bSUBJOINED LETTER A dBA dCA dCHA dDA dDZA dGA dHA dJA dKA dKHA dLA dMA dNA dNGA dNYA dPA dPHA dRA
dSA dSHA dTA dTHA dTSA dTSHA dWA dYA dZA dZHA bVOWEL SIGN AA dE dI dO dU aMARRIAGE SYMBOL aMARTIAL
ARTS UNIFORM aMASARAM GONDI DIGIT EIGHT dFIVE dFOUR dNINE dONE dSEVEN dSIX dTHREE dTWO dZERO
cLETTER A dAA dAI dAU dBA dBHA dCA dCHA dDA dDDA dDDHA dDHA dE dGA dGHA dHA dI dII dJA dJHA dJNYA
dKA dKHA dKSSA dLA dLLA dMA dNA dNGA dNNA dNYA dO dPA dPHA dRA dSA dSHA dSSA dTA dTHA dTRA dTTA
dTTHA dU dUU dVA dYA cRA-KARA cREPHA cSIGN ANUSVARA dCANDRA dHALANTA dNUKTA dVISARGA cVIRAMA
cVOWEL SIGN AA eAI eAU eE eI eII eO eU eUU eVOCALIC R aMASCULINE ORDINAL INDICATOR aMASK WORK
SYMBOL aMASU MARK aMATE DRINK aMATHEMATICAL BOLD CAPITAL A dALPHA dB dBETA dC dCHI dD dDELTA
dDIGAMMA dE dEPSILON dETA dF dG dGAMMA dH dI dIOTA dJ dK dKAPPA dL dLAMDA dM dMU dN dNU dO dOMEGA
dOMICRON dP dPHI dPI dPSI dQ dR dRHO dS dSIGMA dT dTAU dTHETA eSYMBOL dU dUPSILON dV dW dX dXI dY
dZ dZETA cDIGIT EIGHT dFIVE dFOUR dNINE dONE dSEVEN dSIX dTHREE dTWO dZERO cEPSILON SYMBOL
cFRAKTUR CAPITAL A eB eC eD eE eF eG eH eI eJ eK eL eM eN eO eP eQ eR eS eT eU eV eW eX eY eZ
dSMALL A eB eC eD eE eF eG eH eI eJ eK eL eM eN eO eP eQ eR eS eT eU eV eW eX eY eZ cITALIC
CAPITAL A eALPHA eB eBETA eC eCHI eD eDELTA eE eEPSILON eETA eF eG eGAMMA eH eI eIOTA eJ eK eKAPPA
eL eLAMDA eM eMU eN eNU eO eOMEGA eOMICRON eP ePHI ePI ePSI eQ eR eRHO eS eSIGMA eT eTAU eTHETA
fSYMBOL eU eUPSILON eV eW eX eXI eY eZ eZETA dEPSILON SYMBOL dKAPPA SYMBOL dNABLA dPARTIAL
DIFFERENTIAL dPHI SYMBOL dPI SYMBOL dRHO SYMBOL dSMALL A eALPHA eB eBETA eC eCHI eD eDELTA eE
eEPSILON eETA eF eFINAL SIGMA eG eGAMMA eH eI eIOTA eJ eK eKAPPA eL eLAMDA eM eMU eN eNU eO eOMEGA
eOMICRON eP ePHI ePI ePSI eQ eR eRHO eS eSIGMA eT eTAU eTHETA eU eUPSILON eV eW eX eXI eY eZ eZETA
dTHETA SYMBOL cKAPPA SYMBOL cNABLA cPARTIAL DIFFERENTIAL cPHI SYMBOL cPI SYMBOL cRHO SYMBOL
cSCRIPT CAPITAL A eB eC eD eE eF eG eH eI eJ eK eL eM eN eO eP eQ eR eS eT eU eV eW eX eY eZ
dSMALL A eB eC eD eE eF eG eH eI eJ eK eL eM eN eO eP eQ eR eS eT eU eV eW eX eY eZ cSMALL A
dALPHA dB dBETA dC dCHI dD dDELTA dDIGAMMA dE dEPSILON dETA dF dFINAL SIGMA dG dGAMMA dH dI dIOTA
dJ dK dKAPPA dL dLAMDA dM dMU dN dNU dO dOMEGA dOMICRON dP dPHI dPI dPSI dQ dR dRHO dS dSIGMA dT
dTAU dTHETA dU dUPSILON dV dW dX dXI dY dZ dZETA cTHETA SYMBOL bDOUBLE-STRUCK CAPITAL A dB dD dE
dF dG dI dJ dK dL dM dO dS dT dU dV dW dX dY cDIGIT EIGHT dFIVE dFOUR dNINE dONE dSEVEN dSIX
dTHREE dTWO dZERO cSMALL A dB dC dD dE dF dG dH dI dJ dK dL dM dN dO dP dQ dR dS dT dU dV dW dX dY
dZ bFALLING DIAGONAL bFRAKTUR CAPITAL A dB dD dE dF dG dJ dK dL dM dN dO dP dQ dS dT dU dV dW dX
dY cSMALL A dB dC dD dE dF dG dH dI dJ dK dL dM dN dO dP dQ dR dS dT dU dV dW dX dY dZ bITALIC
CAPITAL A dALPHA dB dBETA dC dCHI dD dDELTA dE dEPSILON dETA dF dG dGAMMA dH dI dIOTA dJ dK dKAPPA
dL dLAMDA dM dMU dN dNU dO dOMEGA dOMICRON dP dPHI dPI dPSI dQ dR dRHO dS dSIGMA dT dTAU dTHETA
eSYMBOL dU dUPSILON dV dW dX dXI dY dZ dZETA cEPSILON SYMBOL cKAPPA SYMBOL cNABLA cPARTIAL
DIFFERENTIAL cPHI SYMBOL cPI SYMBOL cRHO SYMBOL cSMALL A dALPHA dB dBETA dC dCHI dD dDELTA
dDOTLESS I eJ dE dEPSILON dETA dF dFINAL SIGMA dG dGAMMA dI dIOTA dJ dK dKAPPA dL dLAMDA dM dMU dN
dNU dO dOMEGA dOMICRON dP dPHI dPI dPSI dQ dR dRHO dS dSIGMA dT dTAU dTHETA dU dUPSILON dV dW dX
dXI dY dZ dZETA cTHETA SYMBOL bLEFT ANGLE BRACKET cDOUBLE ANGLE BRACKET cFLATTENED PARENTHESIS
cWHITE SQUARE BRACKET dTORTOISE SHELL BRACKET bMONOSPACE CAPITAL A dB dC dD dE dF dG dH dI dJ dK
dL dM dN dO dP dQ dR dS dT dU dV dW dX dY dZ cDIGIT EIGHT dFIVE dFOUR dNINE dONE dSEVEN dSIX
dTHREE dTWO dZERO cSMALL A dB dC dD dE dF dG dH dI dJ dK dL dM dN dO dP dQ dR dS dT dU dV dW dX dY
dZ bRIGHT ANGLE BRACKET cDOUBLE ANGLE BRACKET cFLATTENED PARENTHESIS cWHITE SQUARE BRACKET
dTORTOISE SHELL BRACKET bRISING DIAGONAL bSANS-SERIF BOLD CAPITAL A eALPHA eB eBETA eC eCHI eD
eDELTA eE eEPSILON eETA eF eG eGAMMA eH eI eIOTA eJ eK eKAPPA eL eLAMDA eM eMU eN eNU eO eOMEGA
eOMICRON eP ePHI ePI ePSI eQ eR eRHO eS eSIGMA eT eTAU eTHETA fSYMBOL eU eUPSILON eV eW eX eXI eY
eZ eZETA dDIGIT EIGHT eFIVE eFOUR eNINE eONE eSEVEN eSIX eTHREE eTWO eZERO dEPSILON SYMBOL dITALIC
CAPITAL A fALPHA fB fBETA fC fCHI fD fDELTA fE fEPSILON fETA fF fG fGAMMA fH fI fIOTA fJ fK fKAPPA
fL fLAMDA fM fMU fN fNU fO fOMEGA fOMICRON fP fPHI fPI fPSI fQ fR fRHO fS fSIGMA fT fTAU fTHETA
gSYMBOL fU fUPSILON fV fW fX fXI fY fZ fZETA eEPSILON SYMBOL eKAPPA SYMBOL eNABLA ePARTIAL
DIFFERENTIAL ePHI SYMBOL ePI SYMBOL eRHO SYMBOL eSMALL A fALPHA fB fBETA fC fCHI fD fDELTA fE
fEPSILON fETA fF fFINAL SIGMA fG fGAMMA fH fI fIOTA fJ fK fKAPPA fL fLAMDA fM fMU fN fNU fO fOMEGA
fOMICRON fP fPHI fPI fPSI fQ fR fRHO fS fSIGMA fT fTAU fTHETA fU fUPSILON fV fW fX fXI fY fZ fZETA
eTHETA SYMBOL dKAPPA SYMBOL dNABLA dPARTIAL DIFFERENTIAL dPHI SYMBOL dPI SYMBOL dRHO SYMBOL dSMALL
A eALPHA eB eBETA eC eCHI eD eDELTA eE eEPSILON eETA eF eFINAL SIGMA eG eGAMMA eH eI eIOTA eJ eK
eKAPPA eL eLAMDA eM eMU eN eNU eO eOMEGA eOMICRON eP ePHI ePI ePSI eQ eR eRHO eS eSIGMA eT eTAU
eTHETA eU eUPSILON eV eW eX eXI eY eZ eZETA dTHETA SYMBOL cCAPITAL A dB dC dD dE dF dG dH dI dJ dK
dL dM dN dO dP dQ dR dS dT dU dV dW dX dY dZ cDIGIT EIGHT dFIVE dFOUR dNINE dONE dSEVEN dSIX
dTHREE dTWO dZERO cITALIC CAPITAL A eB eC eD eE eF eG eH eI eJ eK eL eM eN eO eP eQ eR eS eT eU eV
eW eX eY eZ dSMALL A eB eC eD eE eF eG eH eI eJ eK eL eM eN eO eP eQ eR eS eT eU eV eW eX eY eZ
cSMALL A dB dC dD dE dF dG dH dI dJ dK dL dM dN dO dP dQ dR dS dT dU dV dW dX dY dZ bSCRIPT
CAPITAL A dC dD dG dJ dK dN dO dP dQ dS dT dU dV dW dX dY dZ cSMALL A dB dC dD dF dH dI dJ dK dL
dM dN dP dQ dR dS dT dU dV dW dX dY dZ aMAXIMIZE aMAYAN NUMERAL EIGHT cEIGHTEEN cELEVEN cFIFTEEN
cFIVE cFOUR cFOURTEEN cNINE cNINETEEN cONE cSEVEN cSEVENTEEN cSIX cSIXTEEN cTEN cTHIRTEEN cTHREE
cTWELVE cTWO cZERO aMEASURED ANGLE cOPENING LEFT cWITH OPEN ARM ENDING IN ARROW POINTING DOWN AND
LEFT lRIGHT jLEFT AND DOWN lUP jRIGHT AND DOWN lUP jUP AND LEFT lRIGHT bBY bRIGHT ANGLE WITH DOT
aMEAT ON BONE aMECHANICAL ARM bLEG aMEDEFAIDRIN CAPITAL LETTER A dAI dATIU dB dC dD dE dF dG dH
dHP dI dJ dK dKP dL dM dN dNG dNY dO dOE dP dQ dR dS dT dU dV dW dX dY dYU dZ bCOMMA bDIGIT EIGHT
cFIVE cFOUR cNINE cONE dALTERNATE FORM cSEVEN cSIX cTHREE dALTERNATE FORM cTWO dALTERNATE FORM
cZERO bEXCLAMATION OH bFULL STOP bNUMBER EIGHTEEN cELEVEN cFIFTEEN cFOURTEEN cNINETEEN cSEVENTEEN
cSIXTEEN cTEN cTHIRTEEN cTWELVE bSMALL LETTER A dAI dATIU dB dC dD dE dF dG dH dHP dI dJ dK dKP dL
dM dN dNG dNY dO dOE dP dQ dR dS dT dU dV dW dX dY dYU dZ bSYMBOL AIVA aMEDIEVAL COMMA
bEXCLAMATION MARK bQUESTION MARK aMEDIUM BLACK CIRCLE bBOLD WHITE CIRCLE bEIGHT POINTED BLACK STAR
cSPOKED ASTERISK bFIVE SPOKED ASTERISK bFLATTENED LEFT PARENTHESIS ORNAMENT cRIGHT PARENTHESIS
ORNAMENT bFOUR POINTED BLACK STAR dPINWHEEL STAR bGREEK CROSS bLEFT CURLY BRACKET ORNAMENT
cPARENTHESIS ORNAMENT bLEFT-POINTING ANGLE BRACKET ORNAMENT bMATHEMATICAL SPACE bRIGHT CURLY
BRACKET ORNAMENT cPARENTHESIS ORNAMENT bRIGHT-POINTING ANGLE BRACKET ORNAMENT bSALTIRE bSHADE bSIX
POINTED BLACK STAR cSPOKED ASTERISK bSMALL WHITE CIRCLE bTHREE POINTED BLACK STAR dPINWHEEL STAR
bVERTICAL BAR bWHITE CIRCLE cSQUARE aMEETEI MAYEK AHANG KHUDAM cANJI cAPUN IYEK cCHEIKHAN
cCHEIKHEI cDIGIT EIGHT dFIVE dFOUR dNINE dONE dSEVEN dSIX dTHREE dTWO dZERO cLETTER ATIYA dBA
dBHAM dCHA dCHIL dDDA dDDHA dDHOU dDIL dE dGHOU dGOK dHUK dI eLONSUM dJHAM dJIL dKHOU dKOK eLONSUM
dLAI eLONSUM dMIT eLONSUM dNA eLONSUM dNGOU eLONSUM dNNA dNYA dO dPA eLONSUM dPHAM dRAI dSAM dSHA
dSSA dTHOU dTIL eLONSUM dTTA dTTHA dUN dWAI dYANG cLUM IYEK cSYLLABLE REPETITION MARK cVIRAMA
cVOWEL SIGN AAI eAAU eANAP eAU eCHEINAP eII eINAP eNUNG eONAP eSOUNAP eUNAP eUU eVISARGA eYENAP
cWORD REPETITION MARK aMELON aMELTING FACE aMEMO aMENDE KIKAKUI COMBINING NUMBER HUNDRED THOUSANDS
eHUNDREDS eMILLIONS eTEENS eTEN THOUSANDS eTENS eTHOUSANDS cDIGIT EIGHT dFIVE dFOUR dNINE dONE
dSEVEN dSIX dTHREE dTWO cSYLLABLE M001 KI dM002 KA dM003 KU dM004 WI dM005 WA dM006 WU dM007 MIN
dM008 MAN dM009 MUN dM010 BI dM011 BA dM012 BU dM013 I dM014 A dM015 U dM016 DI dM017 DA dM018 DU
dM019 SI dM020 SA dM021 SU dM022 TI dM023 TA dM024 TU dM025 LI dM026 LA dM027 LU dM028 JI dM029 JA
dM030 JU dM031 YI dM032 YA dM033 YU dM034 FI dM035 FA dM036 FU dM037 NIN dM038 NAN dM039 NUN dM040
HEE dM041 HA dM042 HOO dM043 NGGA dM044 KPEE dM045 WO dM046 HUAN dM047 MBEE dM048 KO dM049 WVA
dM050 PU dM051 PE dM052 HEN dM053 HIN dM054 LOO dM055 TE dM056 GBA dM057 NGON dM058 NYAN dM059 MEN
dM060 NYON dM061 WVI dM062 MBA dM063 JO dM064 NDO dM065 KEE dM066 PO dM067 NDOO dM068 PI dM069 TO
dM070 GBO dM071 GBOO dM072 MBE dM073 LE dM074 KPU dM075 FE dM076 KOO dM077 VO dM078 FEE dM079 SO
dM080 YE dM081 PEE dM082 NGGU dM083 HEEI dM084 LEE dM085 VE dM086 LONG NGGE dM087 HUN dM088 FO
dM089 DEE dM090 NGGI dM091 TEE dM092 KPA dM093 GBEE dM094 MON dM095 KE dM096 HE dM097 BE dM098
NYEN dM099 PA dM100 E dM101 FAN dM102 POO dM103 BOO dM104 TOO dM105 LONG MBOO dM106 LONG NGGOO
dM107 GBE dM108 KPE dM109 YEE dM110 LONG LE dM111 GA dM112 KPOO dM113 JE dM114 WOO dM115 NGGEE
dM116 SE dM117 NEN dM118 WE dM119 NDE dM120 NGGO dM121 YO dM122 MBU dM123 NDI dM124 GBI dM125 NDU
dM126 WEE dM127 NGGUA dM128 HOOU dM129 NDA dM130 HAN dM131 IN dM132 KPI dM133 FOO dM134 NJOO dM135
IN dM136 SOO dM137 EI dM138 BO dM139 WVE dM140 HO dM141 YOO dM142 LONG MBO dM143 WEI dM144 VOO
dM145 MBI dM146 NGGE dM147 O dM148 GBU dM149 NJEE dM150 BEE dM151 VU dM152 NJA dM153 LO dM154 MUAN
dM155 GI dM156 NGGOO dM157 JEE dM158 KPO dM159 NGGAA dM160 JOO dM161 LONG MBE dM162 SEE dM163 EE
dM164 NYIN dM165 OO dM166 GUEI dM167 GUAN dM168 GU dM169 NON dM170 NYUN dM171 RA dM172 MBOO dM173
VEE dM174 MBO dM175 LONG JO dM176 HI dM177 NGUAN dM178 EN dM179 KUA dM180 DOO dM181 DO dM182 VI
dM183 LONG NGGO dM184 NGEN dM185 VA dM186 HU dM187 MBUU dM188 MBEE dM189 MUEN dM190 GEE dM191 NDEE
dM192 NJU dM193 HON dM194 WUI dM195 AN dM196 SIA dM197 FUA aMENORAH WITH NINE BRANCHES aMENS
SYMBOL aMERCURY aMEROITIC CURSIVE FRACTION EIGHT TWELFTHS dELEVEN TWELFTHS dFIVE TWELFTHS dFOUR
TWELFTHS dNINE TWELFTHS dONE HALF eTWELFTH dSEVEN TWELFTHS dSIX TWELFTHS dTEN TWELFTHS dTHREE
TWELFTHS dTWO TWELFTHS cLETTER A dARCHAIC SA dBA dDA dE dHHA dI dKA dKHA dLA dMA dNA dNE dO dPA
dQA dRA dSA dSE dTA dTE dTO dWA dYA cLOGOGRAM IMN dRMT cNUMBER EIGHT eHUNDRED fTHOUSAND eTHOUSAND
dEIGHTY THOUSAND dFIFTY eTHOUSAND dFIVE eHUNDRED fTHOUSAND eTHOUSAND dFORTY eTHOUSAND dFOUR
eHUNDRED fTHOUSAND eTHOUSAND dNINE eHUNDRED fTHOUSAND eTHOUSAND dNINETY THOUSAND dONE eHUNDRED
fTHOUSAND eTHOUSAND dSEVEN eHUNDRED fTHOUSAND eTHOUSAND dSEVENTY eTHOUSAND dSIX eHUNDRED fTHOUSAND
eTHOUSAND dSIXTY eTHOUSAND dTEN eTHOUSAND dTHIRTY eTHOUSAND dTHREE eHUNDRED fTHOUSAND eTHOUSAND
dTWENTY eTHOUSAND dTWO eHUNDRED fTHOUSAND eTHOUSAND bHIEROGLYPHIC LETTER A dBA dBA-2 dDA dE dHHA
dI dKA dKHA dLA dMA dNA dNA-2 dNE dNE-2 dO dPA dQA dRA dRA-2 dSA dSA-2 dSE dTA dTA-2 dTE dTE-2 dTO
dWA dYA cSYMBOL VIDJ dVIDJ-2 aMERPERSON aMESSAGE WAITING aMETRICAL BREVE bLONG OVER SHORT dTWO
SHORTS bPENTASEME bSHORT OVER LONG bTETRASEME bTRISEME bTWO SHORTS JOINED dOVER LONG aMETRO aMIAO
LETTER AH cARCHAIC MA dNA dNGA dZZA cBA cBRI cDA cDDA cDLHA cDLHYA cDZA cDZHA cDZYI cDZZA cFA cGA
cGHA cGHHA cHA cHHA cKA cLA cLHA cLHYA cLYA cMA cMHA cNA cNASALIZATION cNGA cNGHA cNHA cNNA cNNHA
cNYA cNYHA cPA cPLA cQA cQGA cREFORMED TONE-1 dTONE-2 dTONE-4 dTONE-5 dTONE-6 dTONE-8 dTSHA cRTE
cSA cSHA cSSA cSYI cTA cTE cTLHA cTLHYA cTONE-2 cTONE-3 cTONE-4 cTONE-5 cTONE-6 cTONE-7 cTONE-8
cTSA cTSE cTSHA cTSSA cTTA cVA cVFA cWA cXA cYI DZHA dKA dNNA dPA dTA dTSA dTSHA dTTA cZA cZHA
cZSA cZSHA cZZA cZZSA cZZSYA cZZYA bSIGN ASPIRATION cCONSONANT MODIFIER BAR cREFORMED ASPIRATION
dVOICING bTONE ABOVE cBELOW cRIGHT cTOP RIGHT bVOWEL SIGN A dAA dAE dAEE dAHH dAI dAN dANG dAU dE
dEA dEI dEN dENG dER dERR dI dIA dIAN dIANG dIE dIG dII dING dIO dIONG dIU dN dNG dO dOER dOEY dOG
dOO dOU dROUNDED ER eERR dU dUA dUAN dUANG dUEI dUI dUNG dUOG dUU dVW dW dWO dY dYI dYUI aMICR
DASH SYMBOL bON US SYMBOL aMICRO SIGN aMICROBE aMICROPHONE aMICROSCOPE aMIDDLE DOT bTHIRD WHITE
RIGHT POINTING INDEX aMIDLINE HORIZONTAL ELLIPSIS aMILITARY HELMET bMEDAL aMILKY WAY aMILL SIGN
aMINIBUS aMINIDISC aMINIMIZE aMINUS SIGN cIN TRIANGLE cWITH COMMA ABOVE dDOT BELOW dFALLING DOTS
dRISING DOTS bTILDE aMINUS-OR-PLUS SIGN aMINY aMIRROR bBALL aMMSP aMOBILE PHONE cOFF cWITH
RIGHTWARDS ARROW AT LEFT aMODELS aMODERN PENTATHLON aMODI ABBREVIATION SIGN bDANDA bDIGIT EIGHT
cFIVE cFOUR cNINE cONE cSEVEN cSIX cTHREE cTWO cZERO bDOUBLE DANDA bLETTER A cAA cAI cAU cBA cBHA
cCA cCHA cDA cDDA cDDHA cDHA cE cGA cGHA cHA cI cII cJA cJHA cKA cKHA cLA cLLA cMA cNA cNGA cNNA
cNYA cO cPA cPHA cRA cSA cSHA cSSA cTA cTHA cTTA cTTHA cU cUU cVA cVOCALIC L dLL dR dRR cYA bSIGN
ANUSVARA cARDHACANDRA cHUVA cVIRAMA cVISARGA bVOWEL SIGN AA dAI dAU dE dI dII dO dU dUU dVOCALIC L
eLL eR eRR aMODIFIER BREVE WITH INVERTED BREVE bLETTER ACUTE ACCENT cALVEOLAR CLICK cAPOSTROPHE
cBEGIN HIGH TONE dLOW TONE cBILABIAL CLICK cCAPITAL A dAE dB dBARRED B dC dD dE dF dG dH eWITH
STROKE dI dJ dK dL dM dN dO dOU dP dQ dR dREVERSED E eN dT dU dV dW cCENTRED LEFT HALF RING dRIGHT
HALF RING cCHINESE TONE YANG PING fQU fRU fSHANG eYIN PING fQU fRU fSHANG cCIRCUMFLEX ACCENT
cCOLON cCROSS ACCENT cCYRILLIC EN dHARD SIGN dSOFT SIGN cDENTAL CLICK cDOT HORIZONTAL BAR dSLASH
dVERTICAL BAR cDOUBLE APOSTROPHE dPRIME cDOWN ARROWHEAD dTACK cEND HIGH TONE dLOW TONE cEXTRA-HIGH
DOTTED LEFT-STEM TONE BAR eTONE BAR dLEFT-STEM TONE BAR dTONE BAR cEXTRA-LOW DOTTED LEFT-STEM TONE
BAR eTONE BAR dLEFT-STEM TONE BAR dTONE BAR cGEORGIAN NAR cGLOTTAL STOP eWITH STROKE cGRAVE ACCENT
cHALF TRIANGULAR COLON cHIGH DOTTED LEFT-STEM TONE BAR eTONE BAR dLEFT-STEM TONE BAR dTONE BAR
cLATERAL CLICK cLEFT ARROWHEAD dHALF RING dTACK cLOW ACUTE ACCENT dCIRCUMFLEX ACCENT dDOTTED
LEFT-STEM TONE BAR eTONE BAR dDOWN ARROWHEAD dGRAVE ACCENT dINVERTED EXCLAMATION MARK dLEFT ARROW
eARROWHEAD dLEFT-STEM TONE BAR dMACRON dRIGHT ARROWHEAD dRING dTILDE dTONE BAR dUP ARROWHEAD
dVERTICAL LINE cLOWER RIGHT CORNER ANGLE cMACRON cMID DOTTED LEFT-STEM TONE BAR eTONE BAR
dLEFT-STEM TONE BAR dTONE BAR cMIDDLE DOUBLE ACUTE ACCENT eGRAVE ACCENT dGRAVE ACCENT cMINUS SIGN
cOPEN SHELF cPLUS SIGN cPRIME cRAISED COLON dDOWN ARROW dEXCLAMATION MARK dINVERTED EXCLAMATION
MARK dUP ARROW cRETROFLEX CLICK WITH RETROFLEX HOOK cREVERSED COMMA dGLOTTAL STOP fWITH STROKE
cRHOTIC HOOK cRIGHT ARROWHEAD dHALF RING dTACK cSHELF cSHORT EQUALS SIGN cSMALL A dAE dAIN dALPHA
dB eWITH HOOK dBARRED O dBETA dBOTTOM HALF O dC eWITH CURL dCAPITAL AA eB eG fWITH HOOK eH eI
fWITH STROKE eINVERTED R eL fWITH BELT eN eOE eR eU eY dCHI dCLOSED OMEGA eREVERSED OPEN E dD
eWITH HOOK gAND TAIL fTAIL dDELTA dDEZH DIGRAPH dDOTLESS J WITH STROKE hAND HOOK dDZ DIGRAPH fWITH
CURL gRETROFLEX HOOK dE dENG dESH dETH dEZH dF dFENG DIGRAPH dG eWITH HOOK dGAMMA dGREEK GAMMA
ePHI dH eWITH HOOK fSTROKE dHENG eWITH HOOK dI WITH STROKE dIOTA dJ eWITH CROSSED-TAIL dK dL eWITH
BELT fINVERTED LAZY S fMIDDLE TILDE fPALATAL HOOK fRETROFLEX HOOK hAND BELT dLEZH eWITH RETROFLEX
HOOK dLIGATURE OE dLS DIGRAPH dLZ DIGRAPH dM eWITH HOOK dN WITH LEFT HOOK fRETROFLEX HOOK dO eWITH
STROKE dOPEN E eO dP dPHI dQ dR eWITH FISHHOOK fTAIL dRAMS HORN dREVERSED E eGLOTTAL STOP eOPEN E
dS eWITH CURL fHOOK dSCHWA dSCRIPT G dSIDEWAYS U dT eWITH PALATAL HOOK fRETROFLEX HOOK dTC DIGRAPH
WITH CURL dTESH DIGRAPH dTHETA dTOP HALF O dTS DIGRAPH fWITH RETROFLEX HOOK dTURNED A eAE eALPHA
eH eI eM fWITH LONG LEG eOPEN E eR fWITH HOOK gLONG LEG iAND RETROFLEX HOOK eV eW eY fWITH BELT dU
eBAR eWITH LEFT HOOK dUPSILON dV eWITH HOOK fRIGHT HOOK dW dX dY dZ eWITH CURL fRETROFLEX HOOK
cSTRESS AND HIGH TONE eLOW TONE cSUPERSCRIPT HALF TRIANGULAR COLON dTRIANGULAR COLON cTRIANGULAR
COLON cTURNED COMMA cUNASPIRATED cUP ARROWHEAD dTACK cUS cVERTICAL LINE cVOICING cYANG DEPARTING
TONE MARK cYIN DEPARTING TONE MARK aMODULO TWO SUM aMONEY BAG bWITH WINGS aMONEY-MOUTH FACE
aMONGOLIAN BIRGA cWITH DOUBLE ORNAMENT dORNAMENT bCOLON bCOMMA bDIGIT EIGHT cFIVE cFOUR cNINE cONE
cSEVEN cSIX cTHREE cTWO cZERO bDOUBLE BIRGA WITH ORNAMENT bELLIPSIS bFOUR DOTS bFREE VARIATION
SELECTOR FOUR eONE eTHREE eTWO bFULL STOP bINVERTED BIRGA dWITH DOUBLE ORNAMENT bLETTER A cALI
GALI A eAH eANUSVARA ONE eBALUDA eCA eDA eDAGALGA eDAMARU eDDA eHALF U fYA eI eINVERTED UBADAMA
eKA eNGA eNNA ePA ePHA eSSA eTA eTHREE BALUDA eTTA eTTHA eUBADAMA eVISARGA ONE eZA eZHA cANG cBA
cCHA dWITH TWO DOTS cCHI cDA cE cEE cFA cGA cHAA cI cJA cKA cKHA cLA cLHA cMA cMANCHU ALI GALI BHA
fCA fCYA fDDHA fDHA fGHA fJHA fLHA fNGA fSSA fTA fTTA fZA fZHA dFA dI dKA dRA dZHA cNA cO cOE cPA
cQA cRA cSA cSHA cSIBE ANG dCHA dDA dE dFA dGA dGAA dHA dHAA dI dIY dJA dKA dPA dRAA dSHA dTA dTSA
dU dUE dZA dZHA cTA cTODO ALI GALI TA fZHA dANG dBA dCHA dDA dDZA dE dGA dGAA dHAA dI dJA dJIA dKA
dLONG VOWEL SIGN dMA dNIA dO dOE dPA dQA dTA dTSA dU dUE dWA dYA cTSA cU cUE cWA cYA cZA cZHI cZRA
bMANCHU COMMA cFULL STOP bNIRUGU bROTATED BIRGA dWITH DOUBLE ORNAMENT eORNAMENT bSIBE SYLLABLE
BOUNDARY MARKER bSWIRL BIRGA dWITH DOUBLE ORNAMENT eORNAMENT bTODO SOFT HYPHEN bTRIPLE BIRGA WITH
ORNAMENT bTURNED SWIRL BIRGA WITH DOUBLE ORNAMENT bVOWEL SEPARATOR aMONKEY bFACE aMONOGRAM FOR
EARTH cYANG cYIN aMONORAIL aMONOSTABLE SYMBOL aMOOD BUBBLE aMOON CAKE bVIEWING CEREMONY aMOSQUE
aMOSQUITO aMOTHER CHRISTMAS aMOTOR BOAT bSCOOTER aMOTORIZED WHEELCHAIR aMOTORWAY aMOUNT FUJI
aMOUNTAIN bBICYCLIST bCABLEWAY bRAILWAY aMOUSE bFACE bTRAP aMOUTH aMOVIE CAMERA aMOYAI aMRO DANDA
bDIGIT EIGHT cFIVE cFOUR cNINE cONE cSEVEN cSIX cTHREE cTWO cZERO bDOUBLE DANDA bLETTER A cBA cCHU
cDA cDAI cE cEA cHAI cHAO cKEAAE cKHAI cKO cLA cLAN cMAEM cMIM cNGI cNIN cO cOL cOO cPA cPHI cRI
cRO cSHI cTA cTEK cTHEA cWA cYO aMUCH GREATER-THAN bLESS-THAN aMULTANI LETTER A cBA cBHA cCA cCHA
cDA cDDA cDDDA cDDHA cDHA cE cGA cGHA cHA cI cJA cJJA cKA cKHA cLA cMA cNA cNNA cNYA cPA cPHA cRA
cRHA cRRA cSA cTA cTHA cTTA cTTHA cU cVA cYA bSECTION MARK aMULTIMAP aMULTIPLE MUSICAL NOTES
aMULTIPLICATION SIGN cIN DOUBLE CIRCLE dLEFT HALF CIRCLE dRIGHT HALF CIRCLE dTRIANGLE cWITH DOT
ABOVE dUNDERBAR bX aMULTISET bMULTIPLICATION bUNION aMUSHROOM aMUSIC FLAT SIGN bNATURAL SIGN
bSHARP SIGN aMUSICAL KEYBOARD cWITH JACKS bNOTE bSCORE bSYMBOL ARPEGGIATO DOWN dUP cBEGIN BEAM
dPHRASE dSLUR dTIE cBRACE cBRACKET cBREATH MARK cBREVE cBREVIS dREST cC CLEF cCAESURA cCIRCLE X
NOTEHEAD cCLIMACUS cCLIVIS cCLUSTER NOTEHEAD BLACK eWHITE cCODA cCOMBINING ACCENT dACCENT-STACCATO
dAUGMENTATION DOT dBEND dDOIT dDOUBLE TONGUE dDOWN BOW dFLAG-1 dFLAG-2 dFLAG-3 dFLAG-4 dFLAG-5
dFLIP dHARMONIC dLOURE dMARCATO dMARCATO-STACCATO dRIP dSMEAR dSNAP PIZZICATO dSPRECHGESANG STEM
dSTACCATISSIMO dSTACCATO dSTEM dTENUTO dTREMOLO-1 dTREMOLO-2 dTREMOLO-3 dTRIPLE TONGUE dUP BOW
cCOMMON TIME cCRESCENDO cCROIX cCUT TIME cDA CAPO cDAL SEGNO cDAMP dALL cDASHED BARLINE
cDECRESCENDO cDEGREE SLASH cDOUBLE BARLINE dFLAT dSHARP cDRUM CLEF-1 dCLEF-2 cEIGHTH NOTE dREST
cEND BEAM dOF STIMME dPHRASE dSLUR dTIE cF CLEF eOTTAVA ALTA fBASSA cFERMATA dBELOW cFINAL BARLINE
cFINGERED TREMOLO-1 dTREMOLO-2 dTREMOLO-3 cFIVE-LINE STAFF cFLAT DOWN dUP cFORTE cFOUR-LINE STAFF
cFOUR-STRING FRETBOARD cFUSA BLACK dWHITE cG CLEF eOTTAVA ALTA fBASSA cGLISSANDO DOWN dUP cGRACE
NOTE NO SLASH eSLASH cGREGORIAN C CLEF dF CLEF cHALF NOTE dPEDAL MARK dREST cHAUPTSTIMME cINVERTED
TURN cKIEVAN C CLEF dEIGHTH NOTE STEM DOWN gUP dEND OF PIECE dFINAL NOTE dFLAT SIGN dHALF NOTE
dQUARTER NOTE STEM DOWN gUP dRECITATIVE MARK dWHOLE NOTE cKORON cLEFT REPEAT SIGN cLONGA
dIMPERFECTA REST dPERFECTA REST cMAXIMA cMEZZO cMINIMA dBLACK dREST cMOON NOTEHEAD BLACK eWHITE
cMULTI REST cMULTIPLE MEASURE REST cNATURAL DOWN dUP cNEBENSTIMME cNOTEHEAD BLACK cNULL NOTEHEAD
cONE HUNDRED TWENTY-EIGHTH NOTE fREST cONE-LINE STAFF cORNAMENT STROKE-1 dSTROKE-10 dSTROKE-11
dSTROKE-2 dSTROKE-3 dSTROKE-4 dSTROKE-5 dSTROKE-6 dSTROKE-7 dSTROKE-8 dSTROKE-9 cOTTAVA ALTA
dBASSA cPARENTHESIS NOTEHEAD cPEDAL MARK dUP MARK cPES SUBPUNCTIS cPIANO cPLUS NOTEHEAD cPODATUS
cPORRECTUS dFLEXUS cQUARTER NOTE dREST dTONE FLAT eSHARP cQUINDICESIMA ALTA dBASSA cREPEAT DOTS
cREPEATED FIGURE-1 dFIGURE-2 dFIGURE-3 cREVERSE FINAL BARLINE cRIGHT REPEAT SIGN cRINFORZANDO
cSCANDICUS dFLEXUS cSEGNO cSEMIBREVIS BLACK dREST dWHITE cSEMIMINIMA BLACK dREST dWHITE cSHARP
DOWN dUP cSHORT BARLINE cSINGLE BARLINE cSIX-LINE STAFF cSIX-STRING FRETBOARD cSIXTEENTH NOTE
dREST cSIXTY-FOURTH NOTE dREST cSORI cSQUARE B dNOTEHEAD BLACK eWHITE cSUBITO cTEMPUS IMPERFECTUM
CUM PROLATIONE IMPERFECTA hDIMINUTION-1 hDIMINUTION-2 hDIMINUTION-3 gPERFECTA dPERFECTUM CUM
PROLATIONE IMPERFECTA gPERFECTA hDIMINUTION-1 cTHIRTY-SECOND NOTE dREST cTHREE-LINE STAFF
cTORCULUS dRESUPINUS cTR cTRIANGLE NOTEHEAD DOWN BLACK fWHITE eLEFT BLACK fWHITE eRIGHT BLACK
fWHITE eUP BLACK fRIGHT BLACK gWHITE fWHITE cTRIANGLE-ROUND NOTEHEAD DOWN BLACK fWHITE cTURN
dSLASH dUP cTWO-LINE STAFF cVIRGA cVOID NOTEHEAD cWHOLE NOTE dREST cWITH FINGERNAILS cX NOTEHEAD
cZ aMVS aMW aMYANMAR CONSONANT SIGN MEDIAL HA eRA eWA eYA dMON MEDIAL LA fMA fNA dSHAN MEDIAL WA
bDIGIT EIGHT cFIVE cFOUR cNINE cONE cSEVEN cSIX cTHREE cTWO cZERO bLETTER A cAITON RA cAU cBA cBHA
cCA cCHA cDA cDDA cDDHA cDHA cE cEASTERN PWO KAREN GHWA fNNA fYWA cGA cGHA cGREAT SA cHA cI cII
cJA cJHA cKA cKHA cKHAMTI CA dCHA dDDA dDDHA dDHA dFA dGA dHA dHHA dJA dJHA dLLA dNA dNYA dRA dSA
dTTA dTTHA dXA dZA cLA cLLA cMA cMON BBA dBBE dE dJHA dNGA cNA cNGA cNNA cNNYA cNYA cO cPA cPHA
cRA cRUMAI PALAUNG FA cSA cSGAW KAREN SHA cSHA cSHAN A dBA dBHA dCA dCHA dDA dFA dGA dGHA dHA dJHA
dKA dKHA dNA dNNA dNYA dPHA dTHA dZA cSHWE PALAUNG CHA eSHA cSSA cTA cTAI LAING BA eBHA eDA eDDA
eDDHA eDHA eFA eGA eGHA eJA eJHA eLLA eNNA eNYA cTHA cTTA cTTHA cU cUU cVOCALIC L dLL dR dRR cWA
cWESTERN PWO KAREN PWA fTHA cYA bLOGOGRAM KHAMTI HM dOAY dQN bMODIFIER LETTER KHAMTI REDUPLICATION
dSHAN REDUPLICATION bSHAN DIGIT EIGHT dFIVE dFOUR dNINE dONE dSEVEN dSIX dTHREE dTWO dZERO bSIGN
ANUSVARA cASAT cDOT BELOW cKHAMTI TONE-1 dTONE-3 cLITTLE SECTION cPAO KAREN TONE cRUMAI PALAUNG
TONE-5 cSECTION cSHAN COUNCIL EMPHATIC TONE eTONE-2 eTONE-3 dSAW dTONE-2 dTONE-3 dTONE-5 dTONE-6
cTAI LAING TONE-2 eTONE-5 cVIRAMA cVISARGA cWESTERN PWO KAREN TONE-1 fTONE-2 fTONE-3 fTONE-4
fTONE-5 bSYMBOL AFOREMENTIONED cAITON EXCLAMATION dONE dTWO cCOMPLETED cGENITIVE cLOCATIVE cSHAN
EXCLAMATION dONE bTAI LAING DIGIT EIGHT eFIVE eFOUR eNINE eONE eSEVEN eSIX eTHREE eTWO eZERO bTONE
MARK SGAW KAREN HATHI fKE PHO bVOWEL SIGN AA dAI dAITON A eAI dE eABOVE dGEBA KAREN I dI dII
dKAYAH EE eOE eU dMON II eO dSGAW KAREN EU dSHAN AA eE fABOVE eFINAL Y dTALL AA dU dUU dVOCALIC L
eLL eR eRR dWESTERN PWO KAREN EU gUE"

def nNames : String := "
aN-ARY CIRCLED DOT OPERATOR cPLUS OPERATOR cTIMES OPERATOR bCOPRODUCT bINTERSECTION bLOGICAL AND
cOR bPRODUCT bSQUARE INTERSECTION OPERATOR cUNION OPERATOR bSUMMATION bTIMES OPERATOR bUNION
cOPERATOR WITH DOT ePLUS bWHITE VERTICAL BAR aNABATAEAN CRUCIFORM NUMBER FOUR bLETTER ALEPH cAYIN
cBETH cDALETH cFINAL ALEPH dBETH dHE dKAPH dLAMEDH dMEM dNUN dSHIN dYODH cGIMEL cHE cHETH cKAPH
cLAMEDH cMEM cNUN cPE cQOPH cRESH cSADHE cSAMEKH cSHIN cTAW cTETH cWAW cYODH cZAYIN bNUMBER FIVE
cFOUR cONE dHUNDRED cTEN cTHREE cTWENTY cTWO aNABLA aNAIL POLISH aNAIRA SIGN aNAK aNAME BADGE
aNAND aNANDINAGARI HEADSTROKE bLETTER A cAA cAI cAU cBA cBHA cCA cCHA cDA cDDA cDDHA cDHA cE cGA
cGHA cHA cI cII cJA cJHA cKA cKHA cLA cLLA cMA cNA cNGA cNNA cNYA cO cPA cPHA cRA cRRA cSA cSHA
cSSA cTA cTHA cTTA cTTHA cU cUU cVA cVOCALIC R dRR cYA bSIGN ANUSVARA cAVAGRAHA cSIDDHAM cVIRAMA
cVISARGA bVOWEL SIGN AA dAI dAU dE dI dII dO dPRISHTHAMATRA E dU dUU dVOCALIC R eRR aNARROW
NO-BREAK SPACE aNATIONAL DIGIT SHAPES bPARK aNAUSEATED FACE aNAZAR AMULET aNBH aNBSP aNECKTIE
aNEGATED DOUBLE VERTICAL BAR DOUBLE RIGHT TURNSTILE aNEGATIVE ACKNOWLEDGE bCIRCLED DIGIT ZERO
cLATIN CAPITAL LETTER A fB fC fD fE fF fG fH fI fJ fK fL fM fN fO fP fQ fR fS fT fU fV fW fX fY fZ
cNUMBER EIGHTEEN dELEVEN dFIFTEEN dFOURTEEN dNINETEEN dSEVENTEEN dSIXTEEN dTHIRTEEN dTWELVE
dTWENTY cSQUARE cTRIANGLE bDIAGONAL CROSS cDIAMOND cMIDDLE RIGHT TO LOWER CENTRE bSQUARED AB
cCROSS MARK cIC cLATIN CAPITAL LETTER A fB fC fD fE fF fG fH fI fJ fK fL fM fN fO fP fQ fR fS fT
fU fV fW fX fY fZ cPA cQUESTION MARK cSA cWC aNEITHER A SUBSET OF NOR EQUAL TO cSUPERSET OF NOR
EQUAL TO bAPPROXIMATELY NOR ACTUALLY EQUAL TO bGREATER-THAN NOR EQUAL TO dEQUIVALENT TO dLESS-THAN
bLESS-THAN NOR EQUAL TO dEQUIVALENT TO dGREATER-THAN aNEL aNEPTUNE bFORM TWO aNERD FACE aNESSUS
aNEST WITH EGGS aNESTING DOLLS aNEUTER aNEUTRAL CHESS BISHOP dROTATED NINETY DEGREES eTWO HUNDRED
SEVENTY DEGREES cEQUIHOPPER dROTATED NINETY DEGREES cKING dROTATED NINETY DEGREES eTWO HUNDRED
SEVENTY DEGREES cKNIGHT dROTATED FORTY-FIVE DEGREES eNINETY DEGREES eONE HUNDRED THIRTY-FIVE
DEGREES eTHREE HUNDRED FIFTEEN DEGREES eTWO HUNDRED SEVENTY DEGREES gTWENTY-FIVE DEGREES cPAWN
dROTATED NINETY DEGREES eTWO HUNDRED SEVENTY DEGREES cQUEEN dROTATED NINETY DEGREES eTWO HUNDRED
SEVENTY DEGREES cROOK dROTATED NINETY DEGREES eTWO HUNDRED SEVENTY DEGREES cTURNED BISHOP dKING
dKNIGHT dPAWN dQUEEN dROOK bFACE aNEW LINE bMOON SYMBOL cWITH FACE bSHEQEL SIGN bTAI LUE DIGIT
EIGHT eFIVE eFOUR eNINE eONE eSEVEN eSIX eTHREE eTWO eZERO dLETTER FINAL B fD fK fM fN fNG fV
eHIGH BA fDA fFA fHA fKA fKVA fLA fMA fNA fNGA fPA fPHA fQA fSA fSUA fTA fTHA fTSA fVA fXA fXVA
fYA eLOW BA fDA fFA fHA fKA fKVA fLA fMA fNA fNGA fPA fPHA fQA fSA fSUA fTA fTHA fTSA fVA fXA fXVA
fYA dSIGN LAE eLAEV dTHAM DIGIT ONE dTONE MARK-1 eMARK-2 dVOWEL SIGN AA fAAY fAE fAY fE fII fIY fO
fOA fOAY fOY fU fUE fUEY fUU fUY fVOWEL SHORTENER aNEWA ABBREVIATION SIGN bCOMMA bDANDA bDIGIT
EIGHT cFIVE cFOUR cNINE cONE cSEVEN cSIX cTHREE cTWO cZERO bDOUBLE COMMA cDANDA bGAP FILLER
bINSERTION SIGN bLETTER A cAA cAI cAU cBA cBHA cCA cCHA cDA cDDA cDDHA cDHA cE cGA cGHA cHA cI cII
cJA cJHA cKA cKHA cLA cLHA cMA cMHA cNA cNGA cNGHA cNHA cNNA cNYA cNYHA cO cPA cPHA cRA cRHA cSA
cSHA cSSA cTA cTHA cTTA cTTHA cU cUU cVEDIC ANUSVARA cVOCALIC L dLL dR dRR cWA cYA bOM
bPLACEHOLDER MARK bSANDHI MARK bSIDDHI bSIGN ANUSVARA cAVAGRAHA cCANDRABINDU cFINAL ANUSVARA
cJIHVAMULIYA cNUKTA cUPADHMANIYA cVIRAMA cVISARGA bVOWEL SIGN AA dAI dAU dE dI dII dO dU dUU
dVOCALIC L eLL eR eRR aNEWLINE LEFT bRIGHT aNEWSPAPER aNEXT LINE bPAGE aNIGHT WITH STARS aNINJA
aNKO COMBINING DOUBLE DOT ABOVE cLONG DESCENDING TONE dHIGH TONE dLOW TONE dRISING TONE
cNASALIZATION MARK cSHORT HIGH TONE dLOW TONE dRISING TONE bCOMMA bDANTAYALAN bDIGIT EIGHT cFIVE
cFOUR cNINE cONE cSEVEN cSIX cTHREE cTWO cZERO bDOROME SIGN bEXCLAMATION MARK bHIGH TONE
APOSTROPHE bLAJANYALAN bLETTER A cBA cCHA cDA cDAGBASINNA cE cEE cFA cGBA cHA cI cJA cJONA CHA dJA
dRA cKA cLA cMA cN cNA dWOLOSO cNYA dWOLOSO cO cOO cPA cRA cRRA cSA cTA cU cWA cYA bLOW TONE
APOSTROPHE bSYMBOL GBAKURUNEN cOO DENNEN bTAMAN SIGN aNL aNNBSP aNO BICYCLES bBREAK HERE bENTRY
cSIGN bMOBILE PHONES bONE UNDER EIGHTEEN SYMBOL bPEDESTRIANS bPIRACY bSMOKING SYMBOL aNO-BREAK
SPACE aNOMINAL DIGIT SHAPES aNOMISMA SIGN aNON-BREAKING HYPHEN aNON-POTABLE WATER SYMBOL
aNONFORKING aNOR aNORDIC MARK SIGN aNORMAL SUBGROUP OF dOR EQUAL TO aNORTH EAST AND SOUTH WEST
ARROW cARROW dAND SOUTH EAST ARROW dCROSSING NORTH WEST ARROW eSOUTH EAST ARROW dWITH HOOK cBLACK
ARROW cDOUBLE ARROW cPOINTING BUD dLEAF dVINE LEAF cSANS-SERIF ARROW cTRIANGLE-HEADED ARROW eTO
BAR cWHITE ARROW bINDIC FRACTION ONE EIGHTH eHALF eQUARTER eSIXTEENTH dTHREE QUARTERS eSIXTEENTHS
cPLACEHOLDER MARK cQUANTITY MARK cQUARTER MARK cRUPEE MARK bWEST AND SOUTH EAST ARROW cARROW dAND
NORTH EAST ARROW dCROSSING NORTH EAST ARROW dTO CORNER eLONG BAR dWITH HOOK cBLACK ARROW cDOUBLE
ARROW cPOINTING BUD dLEAF dVINE LEAF cSANS-SERIF ARROW cTRIANGLE-HEADED ARROW eTO BAR cWHITE ARROW
aNORTHEAST-POINTING AIRPLANE aNOSE aNOT A SUBSET OF cSUPERSET OF bALMOST EQUAL TO bAN ELEMENT OF
bASYMPTOTICALLY EQUAL TO bCHECK MARK bEQUAL TO bEQUIVALENT TO bGREATER-THAN bIDENTICAL TO
bLESS-THAN bNORMAL SUBGROUP OF eOR EQUAL TO bPARALLEL TO bSIGN bSQUARE IMAGE OF OR EQUAL TO
cORIGINAL OF OR EQUAL TO bTILDE bTRUE aNOTCHED LEFT SEMICIRCLE WITH THREE DOTS bLOWER
RIGHT-SHADOWED WHITE RIGHTWARDS ARROW bRIGHT SEMICIRCLE WITH THREE DOTS bUPPER RIGHT-SHADOWED
WHITE RIGHTWARDS ARROW aNOTE bPAD bPAGE aNOTEBOOK bWITH DECORATIVE COVER aNUL aNULL aNUMBER
EIGHTEEN FULL STOP bELEVEN FULL STOP bFIFTEEN FULL STOP bFOURTEEN FULL STOP bNINETEEN FULL STOP
bSEVENTEEN FULL STOP bSIGN bSIXTEEN FULL STOP bTEN FULL STOP bTHIRTEEN FULL STOP bTWELVE FULL STOP
bTWENTY FULL STOP aNUMERO SIGN aNUSHU CHARACTER-1B170 bCHARACTER-1B171 bCHARACTER-1B172
bCHARACTER-1B173 bCHARACTER-1B174 bCHARACTER-1B175 bCHARACTER-1B176 bCHARACTER-1B177
bCHARACTER-1B178 bCHARACTER-1B179 bCHARACTER-1B17A bCHARACTER-1B17B bCHARACTER-1B17C
bCHARACTER-1B17D bCHARACTER-1B17E bCHARACTER-1B17F bCHARACTER-1B180 bCHARACTER-1B181
bCHARACTER-1B182 bCHARACTER-1B183 bCHARACTER-1B184 bCHARACTER-1B185 bCHARACTER-1B186
bCHARACTER-1B187 bCHARACTER-1B188 bCHARACTER-1B189 bCHARACTER-1B18A bCHARACTER-1B18B
bCHARACTER-1B18C bCHARACTER-1B18D bCHARACTER-1B18E bCHARACTER-1B18F bCHARACTER-1B190
bCHARACTER-1B191 bCHARACTER-1B192 bCHARACTER-1B193 bCHARACTER-1B194 bCHARACTER-1B195
bCHARACTER-1B196 bCHARACTER-1B197 bCHARACTER-1B198 bCHARACTER-1B199 bCHARACTER-1B19A
bCHARACTER-1B19B bCHARACTER-1B19C bCHARACTER-1B19D bCHARACTER-1B19E bCHARACTER-1B19F
bCHARACTER-1B1A0 bCHARACTER-1B1A1 bCHARACTER-1B1A2 bCHARACTER-1B1A3 bCHARACTER-1B1A4
bCHARACTER-1B1A5 bCHARACTER-1B1A6 bCHARACTER-1B1A7 bCHARACTER-1B1A8 bCHARACTER-1B1A9
bCHARACTER-1B1AA bCHARACTER-1B1AB bCHARACTER-1B1AC bCHARACTER-1B1AD bCHARACTER-1B1AE
bCHARACTER-1B1AF bCHARACTER-1B1B0 bCHARACTER-1B1B1 bCHARACTER-1B1B2 bCHARACTER-1B1B3
bCHARACTER-1B1B4 bCHARACTER-1B1B5 bCHARACTER-1B1B6 bCHARACTER-1B1B7 bCHARACTER-1B1B8
bCHARACTER-1B1B9 bCHARACTER-1B1BA bCHARACTER-1B1BB bCHARACTER-1B1BC bCHARACTER-1B1BD
bCHARACTER-1B1BE bCHARACTER-1B1BF bCHARACTER-1B1C0 bCHARACTER-1B1C1 bCHARACTER-1B1C2
bCHARACTER-1B1C3 bCHARACTER-1B1C4 bCHARACTER-1B1C5 bCHARACTER-1B1C6 bCHARACTER-1B1C7
bCHARACTER-1B1C8 bCHARACTER-1B1C9 bCHARACTER-1B1CA bCHARACTER-1B1CB bCHARACTER-1B1CC
bCHARACTER-1B1CD bCHARACTER-1B1CE bCHARACTER-1B1CF bCHARACTER-1B1D0 bCHARACTER-1B1D1
bCHARACTER-1B1D2 bCHARACTER-1B1D3 bCHARACTER-1B1D4 bCHARACTER-1B1D5 bCHARACTER-1B1D6
bCHARACTER-1B1D7 bCHARACTER-1B1D8 bCHARACTER-1B1D9 bCHARACTER-1B1DA bCHARACTER-1B1DB
bCHARACTER-1B1DC bCHARACTER-1B1DD bCHARACTER-1B1DE bCHARACTER-1B1DF bCHARACTER-1B1E0
bCHARACTER-1B1E1 bCHARACTER-1B1E2 bCHARACTER-1B1E3 bCHARACTER-1B1E4 bCHARACTER-1B1E5
bCHARACTER-1B1E6 bCHARACTER-1B1E7 bCHARACTER-1B1E8 bCHARACTER-1B1E9 bCHARACTER-1B1EA
bCHARACTER-1B1EB bCHARACTER-1B1EC bCHARACTER-1B1ED bCHARACTER-1B1EE bCHARACTER-1B1EF
bCHARACTER-1B1F0 bCHARACTER-1B1F1 bCHARACTER-1B1F2 bCHARACTER-1B1F3 bCHARACTER-1B1F4
bCHARACTER-1B1F5 bCHARACTER-1B1F6 bCHARACTER-1B1F7 bCHARACTER-1B1F8 bCHARACTER-1B1F9
bCHARACTER-1B1FA bCHARACTER-1B1FB bCHARACTER-1B1FC bCHARACTER-1B1FD bCHARACTER-1B1FE
bCHARACTER-1B1FF bCHARACTER-1B200 bCHARACTER-1B201 bCHARACTER-1B202 bCHARACTER-1B203
bCHARACTER-1B204 bCHARACTER-1B205 bCHARACTER-1B206 bCHARACTER-1B207 bCHARACTER-1B208
bCHARACTER-1B209 bCHARACTER-1B20A bCHARACTER-1B20B bCHARACTER-1B20C bCHARACTER-1B20D
bCHARACTER-1B20E bCHARACTER-1B20F bCHARACTER-1B210 bCHARACTER-1B211 bCHARACTER-1B212
bCHARACTER-1B213 bCHARACTER-1B214 bCHARACTER-1B215 bCHARACTER-1B216 bCHARACTER-1B217
bCHARACTER-1B218 bCHARACTER-1B219 bCHARACTER-1B21A bCHARACTER-1B21B bCHARACTER-1B21C
bCHARACTER-1B21D bCHARACTER-1B21E bCHARACTER-1B21F bCHARACTER-1B220 bCHARACTER-1B221
bCHARACTER-1B222 bCHARACTER-1B223 bCHARACTER-1B224 bCHARACTER-1B225 bCHARACTER-1B226
bCHARACTER-1B227 bCHARACTER-1B228 bCHARACTER-1B229 bCHARACTER-1B22A bCHARACTER-1B22B
bCHARACTER-1B22C bCHARACTER-1B22D bCHARACTER-1B22E bCHARACTER-1B22F bCHARACTER-1B230
bCHARACTER-1B231 bCHARACTER-1B232 bCHARACTER-1B233 bCHARACTER-1B234 bCHARACTER-1B235
bCHARACTER-1B236 bCHARACTER-1B237 bCHARACTER-1B238 bCHARACTER-1B239 bCHARACTER-1B23A
bCHARACTER-1B23B bCHARACTER-1B23C bCHARACTER-1B23D bCHARACTER-1B23E bCHARACTER-1B23F
bCHARACTER-1B240 bCHARACTER-1B241 bCHARACTER-1B242 bCHARACTER-1B243 bCHARACTER-1B244
bCHARACTER-1B245 bCHARACTER-1B246 bCHARACTER-1B247 bCHARACTER-1B248 bCHARACTER-1B249
bCHARACTER-1B24A bCHARACTER-1B24B bCHARACTER-1B24C bCHARACTER-1B24D bCHARACTER-1B24E
bCHARACTER-1B24F bCHARACTER-1B250 bCHARACTER-1B251 bCHARACTER-1B252 bCHARACTER-1B253
bCHARACTER-1B254 bCHARACTER-1B255 bCHARACTER-1B256 bCHARACTER-1B257 bCHARACTER-1B258
bCHARACTER-1B259 bCHARACTER-1B25A bCHARACTER-1B25B bCHARACTER-1B25C bCHARACTER-1B25D
bCHARACTER-1B25E bCHARACTER-1B25F bCHARACTER-1B260 bCHARACTER-1B261 bCHARACTER-1B262
bCHARACTER-1B263 bCHARACTER-1B264 bCHARACTER-1B265 bCHARACTER-1B266 bCHARACTER-1B267
bCHARACTER-1B268 bCHARACTER-1B269 bCHARACTER-1B26A bCHARACTER-1B26B bCHARACTER-1B26C
bCHARACTER-1B26D bCHARACTER-1B26E bCHARACTER-1B26F bCHARACTER-1B270 bCHARACTER-1B271
bCHARACTER-1B272 bCHARACTER-1B273 bCHARACTER-1B274 bCHARACTER-1B275 bCHARACTER-1B276
bCHARACTER-1B277 bCHARACTER-1B278 bCHARACTER-1B279 bCHARACTER-1B27A bCHARACTER-1B27B
bCHARACTER-1B27C bCHARACTER-1B27D bCHARACTER-1B27E bCHARACTER-1B27F bCHARACTER-1B280
bCHARACTER-1B281 bCHARACTER-1B282 bCHARACTER-1B283 bCHARACTER-1B284 bCHARACTER-1B285
bCHARACTER-1B286 bCHARACTER-1B287 bCHARACTER-1B288 bCHARACTER-1B289 bCHARACTER-1B28A
bCHARACTER-1B28B bCHARACTER-1B28C bCHARACTER-1B28D bCHARACTER-1B28E bCHARACTER-1B28F
bCHARACTER-1B290 bCHARACTER-1B291 bCHARACTER-1B292 bCHARACTER-1B293 bCHARACTER-1B294
bCHARACTER-1B295 bCHARACTER-1B296 bCHARACTER-1B297 bCHARACTER-1B298 bCHARACTER-1B299
bCHARACTER-1B29A bCHARACTER-1B29B bCHARACTER-1B29C bCHARACTER-1B29D bCHARACTER-1B29E
bCHARACTER-1B29F bCHARACTER-1B2A0 bCHARACTER-1B2A1 bCHARACTER-1B2A2 bCHARACTER-1B2A3
bCHARACTER-1B2A4 bCHARACTER-1B2A5 bCHARACTER-1B2A6 bCHARACTER-1B2A7 bCHARACTER-1B2A8
bCHARACTER-1B2A9 bCHARACTER-1B2AA bCHARACTER-1B2AB bCHARACTER-1B2AC bCHARACTER-1B2AD
bCHARACTER-1B2AE bCHARACTER-1B2AF bCHARACTER-1B2B0 bCHARACTER-1B2B1 bCHARACTER-1B2B2
bCHARACTER-1B2B3 bCHARACTER-1B2B4 bCHARACTER-1B2B5 bCHARACTER-1B2B6 bCHARACTER-1B2B7
bCHARACTER-1B2B8 bCHARACTER-1B2B9 bCHARACTER-1B2BA bCHARACTER-1B2BB bCHARACTER-1B2BC
bCHARACTER-1B2BD bCHARACTER-1B2BE bCHARACTER-1B2BF bCHARACTER-1B2C0 bCHARACTER-1B2C1
bCHARACTER-1B2C2 bCHARACTER-1B2C3 bCHARACTER-1B2C4 bCHARACTER-1B2C5 bCHARACTER-1B2C6
bCHARACTER-1B2C7 bCHARACTER-1B2C8 bCHARACTER-1B2C9 bCHARACTER-1B2CA bCHARACTER-1B2CB
bCHARACTER-1B2CC bCHARACTER-1B2CD bCHARACTER-1B2CE bCHARACTER-1B2CF bCHARACTER-1B2D0
bCHARACTER-1B2D1 bCHARACTER-1B2D2 bCHARACTER-1B2D3 bCHARACTER-1B2D4 bCHARACTER-1B2D5
bCHARACTER-1B2D6 bCHARACTER-1B2D7 bCHARACTER-1B2D8 bCHARACTER-1B2D9 bCHARACTER-1B2DA
bCHARACTER-1B2DB bCHARACTER-1B2DC bCHARACTER-1B2DD bCHARACTER-1B2DE bCHARACTER-1B2DF
bCHARACTER-1B2E0 bCHARACTER-1B2E1 bCHARACTER-1B2E2 bCHARACTER-1B2E3 bCHARACTER-1B2E4
bCHARACTER-1B2E5 bCHARACTER-1B2E6 bCHARACTER-1B2E7 bCHARACTER-1B2E8 bCHARACTER-1B2E9
bCHARACTER-1B2EA bCHARACTER-1B2EB bCHARACTER-1B2EC bCHARACTER-1B2ED bCHARACTER-1B2EE
bCHARACTER-1B2EF bCHARACTER-1B2F0 bCHARACTER-1B2F1 bCHARACTER-1B2F2 bCHARACTER-1B2F3
bCHARACTER-1B2F4 bCHARACTER-1B2F5 bCHARACTER-1B2F6 bCHARACTER-1B2F7 bCHARACTER-1B2F8
bCHARACTER-1B2F9 bCHARACTER-1B2FA bCHARACTER-1B2FB bITERATION MARK aNUT AND BOLT aNYIAKENG PUACHUE
HMONG CIRCLED CA dDIGIT EIGHT eFIVE eFOUR eNINE eONE eSEVEN eSIX eTHREE eTWO eZERO dLETTER A eAA
eCA eDA eDLA eE eEE eFA eGA eHA eHAH eI eKA eLA eMA eMLA eNA eNCA eNKA eNPA eNPLA eNQA eNRA eNTA
eNTSA eNTXA eNYA eO eOO ePA ePLA eQA eRA eRRA eSA eTA eTSA eTXA eU eVA eW eXA eXYA eYA eZA
dLOGOGRAM NYAJ dSIGN FOR ANIMAL fINVERTEBRATE fLOCATION fPERSON fTHING eXW XW dSYLLABLE LENGTHENER
dTONE-B dTONE-D dTONE-G dTONE-J dTONE-M dTONE-S dTONE-V"

end NetLookup.Text.CharacterName
