/-! # Names of characters that begin with a letter from D to F -/

namespace NetLookup.Text.CharacterName

def dNames : String := "
aDAGGER bKNIFE bWITH LEFT GUARD cRIGHT GUARD aDALET SYMBOL aDANCER aDANGO aDARK SHADE bSUNGLASSES
aDASH SYMBOL bWITH LEFT UPTURN aDASHED LOW LINE bOVERLINE bTRIANGLE-HEADED RIGHTWARDS ARROW aDATA
LINK ESCAPE aDC1 aDC2 aDC3 aDC4 aDCS aDEAF PERSON aDECIDUOUS TREE aDECIMAL EXPONENT SYMBOL
bSEPARATOR KEY SYMBOL aDECREASE FONT SIZE SYMBOL aDEER aDEGREE CELSIUS bFAHRENHEIT bSIGN aDEL
aDELETE aDELIVERY TRUCK aDELTA EQUAL TO aDENTISTRY SYMBOL LIGHT DOWN AND HORIZONTAL gWITH CIRCLE
hTRIANGLE hWAVE dUP AND HORIZONTAL gWITH CIRCLE hTRIANGLE hWAVE dVERTICAL AND BOTTOM LEFT gRIGHT
fTOP LEFT gRIGHT fWAVE eWITH CIRCLE fTRIANGLE aDEPARTMENT STORE aDERELICT HOUSE BUILDING
aDESCENDING NODE aDESERET CAPITAL LETTER AY dBEE dCHEE dDEE dEF dEL dEM dEN dENG dER dES dESH dETH
dEW dGAY dH dJEE dKAY dLONG A eAH eE eI eO eOO dOI dOW dPEE dSHORT A eAH eE eI eO eOO dTEE dTHEE
dVEE dWU dYEE dZEE dZHEE bSMALL LETTER AY dBEE dCHEE dDEE dEF dEL dEM dEN dENG dER dES dESH dETH
dEW dGAY dH dJEE dKAY dLONG A eAH eE eI eO eOO dOI dOW dPEE dSHORT A eAH eE eI eO eOO dTEE dTHEE
dVEE dWU dYEE dZEE dZHEE aDESERT bISLAND aDESKTOP COMPUTER bWINDOW aDEVANAGARI ABBREVIATION SIGN
bACUTE ACCENT bCARET bDANDA bDIGIT EIGHT cFIVE cFOUR cNINE cONE cSEVEN cSIX cTHREE cTWO cZERO
bDOUBLE DANDA bGAP FILLER bGRAVE ACCENT bHEADSTROKE bJAIN OM bLETTER A cAA cAI cAU cAW cAY cBA
cBBA cBHA cCA cCANDRA A dE dO cCHA cDA cDDA cDDDA cDDDHA cDDHA cDHA cE cFA cGA cGGA cGHA cGHHA
cGLOTTAL STOP cHA cHEAVY YA cI cII cJA cJHA cJJA cKA cKHA cKHHA cLA cLLA cLLLA cMA cMARWARI DDA
cNA cNGA cNNA cNNNA cNYA cO cOE cOOE cPA cPHA cQA cRA cRHA cRRA cSA cSHA cSHORT A dE dO cSSA cTA
cTHA cTTA cTTHA cU cUE cUU cUUE cVA cVOCALIC L dLL dR dRR cYA cYYA cZA cZHA bOM bSIGN ANUSVARA
cAVAGRAHA cCANDRABINDU dAVAGRAHA dTHREE dTWO dVIRAMA cDOUBLE CANDRABINDU VIRAMA cHIGH SPACING DOT
cINVERTED CANDRABINDU cNUKTA cPUSHPIKA cSIDDHAM cSPACING CANDRABINDU cVIRAMA cVISARGA bSTRESS SIGN
ANUDATTA dUDATTA bVOWEL SIGN AA dAI dAU dAW dAY dCANDRA E eLONG E eO dE dI dII dO dOE dOOE
dPRISHTHAMATRA E dSHORT E eO dU dUE dUU dUUE dVOCALIC L eLL eR eRR aDEVICE CONTROL FOUR cONE
cSTRING cTHREE cTWO aDIAERESIS aDIAMETER SIGN aDIAMOND OPERATOR bSHAPE WITH A DOT INSIDE bTARGET
bWITH BOTTOM HALF BLACK cLEFT HALF BLACK cRIGHT HALF BLACK cTOP HALF BLACK aDIE FACE-1 bFACE-2
bFACE-3 bFACE-4 bFACE-5 bFACE-6 aDIESEL LOCOMOTIVE aDIFFERENCE BETWEEN aDIGIT EIGHT cCOMMA cFULL
STOP bFIVE cCOMMA cFULL STOP bFOUR cCOMMA cFULL STOP bNINE cCOMMA cFULL STOP bONE cCOMMA cFULL
STOP bSEVEN cCOMMA cFULL STOP bSIX cCOMMA cFULL STOP bTHREE cCOMMA cFULL STOP bTWO cCOMMA cFULL
STOP bZERO cCOMMA cFULL STOP aDIGRAM FOR EARTH cEARTHLY HEAVEN dHUMAN cGREATER YANG dYIN cHEAVENLY
EARTH cHUMAN EARTH cLESSER YANG dYIN aDIMENSION ORIGIN aDINGBAT CIRCLED SANS-SERIF DIGIT EIGHT
eFIVE eFOUR eNINE eONE eSEVEN eSIX eTHREE eTWO eZERO dNUMBER TEN bNEGATIVE CIRCLED DIGIT EIGHT
eFIVE eFOUR eNINE eONE eSEVEN eSIX eTHREE eTWO dNUMBER TEN dSANS-SERIF DIGIT EIGHT fFIVE fFOUR
fNINE fONE fSEVEN fSIX fTHREE fTWO fZERO eNUMBER TEN aDIRECT CURRENT SYMBOL FORM TWO bHIT
aDISABLED CAR aDISAPPOINTED BUT RELIEVED FACE bFACE aDISCONTINUOUS UNDERLINE SYMBOL aDISGUISED
FACE aDITTO MARK aDIVES AKURU DIGIT EIGHT dFIVE dFOUR dNINE dONE dSEVEN dSIX dTHREE dTWO dZERO
cDOUBLE DANDA cEND OF TEXT MARK cGAP FILLER cINITIAL RA cLETTER A dAA dBA dBHA dCA dCHA dDA dDDA
dDDHA dDHA dE dGA dGHA dHA dI dII dJA dKA dKHA dLA dLLA dMA dNA dNGA dNNA dNYA dO dPA dPHA dRA dSA
dSHA dSSA dTA dTHA dTTA dU dUU dVA dYA dYYA dZA cMEDIAL RA dYA cPREFIXED NASAL SIGN cSIGN ANUSVARA
dCANDRABINDU dHALANTA dNUKTA cVIRAMA cVOWEL SIGN AA eAI eE eI eII eO eU eUU aDIVIDES aDIVING MASK
aDIVISION SIGN bSLASH bTIMES aDIVORCE SYMBOL aDIYA LAMP aDIZZY FACE bSYMBOL aDLE aDNA DOUBLE HELIX
aDO NOT LITTER SYMBOL aDOCUMENT bWITH PICTURE cTEXT dAND PICTURE aDODO aDOES NOT CONTAIN AS MEMBER
eNORMAL SUBGROUP gOR EQUAL cDIVIDE dWITH REVERSED NEGATION SLASH cFORCE cPRECEDE dOR EQUAL cPROVE
cSUCCEED dOR EQUAL aDOG bFACE aDOGRA ABBREVIATION SIGN bLETTER A cAA cAI cAU cBA cBHA cCA cCHA cDA
cDDA cDDHA cDHA cE cGA cGHA cHA cI cII cJA cJHA cKA cKHA cLA cMA cNA cNGA cNNA cNYA cO cPA cPHA
cRA cRRA cSA cSHA cSSA cTA cTHA cTTA cTTHA cU cUU cVA cYA bSIGN ANUSVARA cNUKTA cVIRAMA cVISARGA
bVOWEL SIGN AA dAI dAU dE dI dII dO dU dUU dVOCALIC R eRR aDOLLAR SIGN aDOLPHIN aDOMINO TILE
HORIZONTAL BACK cHORIZONTAL-00-00 cHORIZONTAL-00-01 cHORIZONTAL-00-02 cHORIZONTAL-00-03
cHORIZONTAL-00-04 cHORIZONTAL-00-05 cHORIZONTAL-00-06 cHORIZONTAL-01-00 cHORIZONTAL-01-01
cHORIZONTAL-01-02 cHORIZONTAL-01-03 cHORIZONTAL-01-04 cHORIZONTAL-01-05 cHORIZONTAL-01-06
cHORIZONTAL-02-00 cHORIZONTAL-02-01 cHORIZONTAL-02-02 cHORIZONTAL-02-03 cHORIZONTAL-02-04
cHORIZONTAL-02-05 cHORIZONTAL-02-06 cHORIZONTAL-03-00 cHORIZONTAL-03-01 cHORIZONTAL-03-02
cHORIZONTAL-03-03 cHORIZONTAL-03-04 cHORIZONTAL-03-05 cHORIZONTAL-03-06 cHORIZONTAL-04-00
cHORIZONTAL-04-01 cHORIZONTAL-04-02 cHORIZONTAL-04-03 cHORIZONTAL-04-04 cHORIZONTAL-04-05
cHORIZONTAL-04-06 cHORIZONTAL-05-00 cHORIZONTAL-05-01 cHORIZONTAL-05-02 cHORIZONTAL-05-03
cHORIZONTAL-05-04 cHORIZONTAL-05-05 cHORIZONTAL-05-06 cHORIZONTAL-06-00 cHORIZONTAL-06-01
cHORIZONTAL-06-02 cHORIZONTAL-06-03 cHORIZONTAL-06-04 cHORIZONTAL-06-05 cHORIZONTAL-06-06
cVERTICAL BACK cVERTICAL-00-00 cVERTICAL-00-01 cVERTICAL-00-02 cVERTICAL-00-03 cVERTICAL-00-04
cVERTICAL-00-05 cVERTICAL-00-06 cVERTICAL-01-00 cVERTICAL-01-01 cVERTICAL-01-02 cVERTICAL-01-03
cVERTICAL-01-04 cVERTICAL-01-05 cVERTICAL-01-06 cVERTICAL-02-00 cVERTICAL-02-01 cVERTICAL-02-02
cVERTICAL-02-03 cVERTICAL-02-04 cVERTICAL-02-05 cVERTICAL-02-06 cVERTICAL-03-00 cVERTICAL-03-01
cVERTICAL-03-02 cVERTICAL-03-03 cVERTICAL-03-04 cVERTICAL-03-05 cVERTICAL-03-06 cVERTICAL-04-00
cVERTICAL-04-01 cVERTICAL-04-02 cVERTICAL-04-03 cVERTICAL-04-04 cVERTICAL-04-05 cVERTICAL-04-06
cVERTICAL-05-00 cVERTICAL-05-01 cVERTICAL-05-02 cVERTICAL-05-03 cVERTICAL-05-04 cVERTICAL-05-05
cVERTICAL-05-06 cVERTICAL-06-00 cVERTICAL-06-01 cVERTICAL-06-02 cVERTICAL-06-03 cVERTICAL-06-04
cVERTICAL-06-05 cVERTICAL-06-06 aDONG SIGN aDOOR aDOT ABOVE bMINUS bOPERATOR bPLUS aDOTTED CIRCLE
bCROSS bFENCE bLINE FACE bOBELOS bRIGHT-POINTING ANGLE bSOLIDUS bSQUARE bTRANSPOSITION MARKER
aDOUBLE ACUTE ACCENT bCIRCLED DIGIT EIGHT dFIVE dFOUR dNINE dONE dSEVEN dSIX dTHREE dTWO cNUMBER
TEN bCOLON EQUAL bCURLY LOOP bDAGGER bDOWN TACK bEXCLAMATION MARK bHIGH-REVERSED-9 QUOTATION MARK
bHYPHEN bINTEGRAL bINTERSECTION bLEFT ARC GREATER-THAN BRACKET bLOGICAL AND cOR bLOW LINE bLOW-9
QUOTATION MARK bLOW-REVERSED-9 QUOTATION MARK bNESTED GREATER-THAN cLESS-THAN dWITH UNDERBAR
bOBLIQUE HYPHEN bPLUS bPRECEDES bPRIME cQUOTATION MARK bQUESTION MARK bRIGHT ARC LESS-THAN BRACKET
bSOLIDUS OPERATOR bSQUARE INTERSECTION cUNION bSTACKED COMMA bSTROKE NOT SIGN bSUBSET bSUCCEEDS
bSUPERSET bSUSPENSION MARK bUNION bUP TACK bVERTICAL BAR dDOUBLE LEFT TURNSTILE eRIGHT TURNSTILE
dLEFT TURNSTILE cLINE bWAVY OVERLINE aDOUBLE-ENDED MULTIMAP aDOUBLE-LINE EQUAL TO OR GREATER-THAN
eLESS-THAN bSLANTED EQUAL TO OR GREATER-THAN fLESS-THAN cGREATER-THAN OR EQUAL TO cLESS-THAN OR
EQUAL TO aDOUBLE-STRUCK CAPITAL C cGAMMA cH cN cP cPI cQ cR cZ bITALIC CAPITAL D cSMALL D dE dI dJ
bN-ARY SUMMATION bSMALL GAMMA cPI aDOUBLED FEMALE SIGN bMALE SIGN bSYMBOL aDOUGHNUT aDOVE OF PEACE
aDOWN ARROWHEAD bFISH TAIL bRIGHT DIAGONAL ELLIPSIS bTACK cWITH CIRCLE BELOW aDOWN-POINTING RED
TRIANGLE bSMALL RED TRIANGLE bTRIANGLE WITH LEFT HALF BLACK dRIGHT HALF BLACK aDOWNWARD FACING
HOOK dWITH DOT cNOTCHED HOOK eWITH DOT aDOWNWARDS ANCORA bARROW cAND RIGHT ONE EIGHTH BLOCK cFROM
BAR cLEFTWARDS OF UPWARDS ARROW cTO BAR cWITH CORNER LEFTWARDS dDOUBLE STROKE dEQUILATERAL
ARROWHEAD dHORIZONTAL STROKE dLARGE TRIANGLE ARROWHEAD dMEDIUM TRIANGLE ARROWHEAD dNOTCHED TAIL
dSMALL EQUILATERAL ARROWHEAD eTRIANGLE ARROWHEAD dTIP LEFTWARDS eRIGHTWARDS bBLACK ARROW cCIRCLED
WHITE ARROW bCOMPRESSED ARROW bDASHED ARROW bDOUBLE ARROW bFINGER-POST ARROW bHARPOON WITH BARB
LEFT BESIDE DOWNWARDS HARPOON WITH BARB RIGHT gUPWARDS HARPOON WITH BARB RIGHT fFROM BAR fTO BAR
eLEFTWARDS eRIGHT FROM BAR fTO BAR eRIGHTWARDS bHEAVY ARROW cCOMPRESSED ARROW bPAIRED ARROWS
bQUADRUPLE ARROW bROCKET bSANS-SERIF ARROW bSQUARED ARROW bTRIANGLE ARROWHEAD bTRIANGLE-HEADED
ARROW dLEFTWARDS OF UPWARDS TRIANGLE-HEADED ARROW dTO BAR dWITH BOLD SHAFT eDOUBLE HORIZONTAL
STROKE eHEAVY SHAFT eLONG TIP LEFTWARDS gRIGHTWARDS eMEDIUM SHAFT eNARROW SHAFT eVERY HEAVY SHAFT
cDASHED ARROW cPAIRED ARROWS cZIGZAG ARROW bTRIPLE ARROW bTWO HEADED ARROW bTWO-HEADED ARROW WITH
TRIANGLE ARROWHEADS bWHITE ARROW dWITHIN TRIANGLE ARROWHEAD bZIGZAG ARROW aDRACHMA SIGN aDRAFTING
POINT RIGHTWARDS ARROW aDRAGON bFACE aDRESS aDRIVE SLOW SIGN aDROMEDARY CAMEL aDROOLING FACE aDROP
OF BLOOD aDROPLET aDRUM WITH DRUMSTICKS aDUCK aDUMPLING aDUPLOYAN AFFIX ATTACHED E HOOK dI HOOK
dLEFT-TO-RIGHT SECANT dSECANT dTAIL dTANGENT eHOOK cHIGH ACUTE dCIRCLE dDOT dGRAVE dLINE dLONG
GRAVE dTIGHT ACUTE dVERTICAL eSECANT dWAVE cLEFT HORIZONTAL SECANT cLOW ACUTE dARROW dCIRCLE dDOT
dGRAVE dLINE dLONG GRAVE dTIGHT ACUTE dVERTICAL eSECANT dWAVE cMID HORIZONTAL SECANT dVERTICAL
SECANT cRIGHT HORIZONTAL SECANT bDOUBLE MARK bLETTER A cAOU cB cD dS cDH cE cEE cEU cF dN cG dR S
cH cHL cI cIE cJ dM eS dN eS dS eWITH DOT dWITH DOT eDOTS INSIDE AND ABOVE cK dM dR S cKK cL cLH
cLONG I dU cM dN eS dS dWITH DOT cN dM eS dS dWITH DOT cNASAL A dI dO dU cO cOA cOOH cOU cOW cP dN
cPERNIN AM dAN cR dS cRH cROMANIAN I dU cS dJ eS dK eR dM dN dP eR dS dT eR dWITH DOT fBELOW
cSHORT I cSLOAN AN dDH dEE dEH dEN dJ dON dOW dU cT dR S dS cTH cU dN cUH cUI cV cVOCALIC M cW dR
cWA cWEI cWH cWI cWO cWOW cX cXW cYE bPUNCTUATION CHINOOK FULL STOP bSIGN O WITH CROSS bTHICK
LETTER SELECTOR aDVD"

def eNames : String := "
aE-MAIL SYMBOL aEAGLE aEAR bOF MAIZE cRICE bWITH HEARING AID aEARTH bGLOBE AMERICAS
cASIA-AUSTRALIA cEUROPE-AFRICA bGROUND aEAST SYRIAC CROSS aEDITORIAL CORONIS aEGG aEGYPTIAN
HIEROGLYPH A001 cA002 cA003 cA004 cA005 cA005A cA006 cA006A cA006B cA007 cA008 cA009 cA010 cA011
cA012 cA013 cA014 cA014A cA015 cA016 cA017 cA017A cA018 cA019 cA020 cA021 cA022 cA023 cA024 cA025
cA026 cA027 cA028 cA029 cA030 cA031 cA032 cA032A cA033 cA034 cA035 cA036 cA037 cA038 cA039 cA040
cA040A cA041 cA042 cA042A cA043 cA043A cA044 cA045 cA045A cA046 cA047 cA048 cA049 cA050 cA051
cA052 cA053 cA054 cA055 cA056 cA057 cA058 cA059 cA060 cA061 cA062 cA063 cA064 cA065 cA066 cA067
cA068 cA069 cA070 cAA001 cAA002 cAA003 cAA004 cAA005 cAA006 cAA007 cAA007A cAA007B cAA008 cAA009
cAA010 cAA011 cAA012 cAA013 cAA014 cAA015 cAA016 cAA017 cAA018 cAA019 cAA020 cAA021 cAA022 cAA023
cAA024 cAA025 cAA026 cAA027 cAA028 cAA029 cAA030 cAA031 cAA032 cB001 cB002 cB003 cB004 cB005
cB005A cB006 cB007 cB008 cB009 cBEGIN SEGMENT cC001 cC002 cC002A cC002B cC002C cC003 cC004 cC005
cC006 cC007 cC008 cC009 cC010 cC010A cC011 cC012 cC013 cC014 cC015 cC016 cC017 cC018 cC019 cC020
cC021 cC022 cC023 cC024 cD001 cD002 cD003 cD004 cD005 cD006 cD007 cD008 cD008A cD009 cD010 cD011
cD012 cD013 cD014 cD015 cD016 cD017 cD018 cD019 cD020 cD021 cD022 cD023 cD024 cD025 cD026 cD027
cD027A cD028 cD029 cD030 cD031 cD031A cD032 cD033 cD034 cD034A cD035 cD036 cD037 cD038 cD039 cD040
cD041 cD042 cD043 cD044 cD045 cD046 cD046A cD047 cD048 cD048A cD049 cD050 cD050A cD050B cD050C
cD050D cD050E cD050F cD050G cD050H cD050I cD051 cD052 cD052A cD053 cD054 cD054A cD055 cD056 cD057
cD058 cD059 cD060 cD061 cD062 cD063 cD064 cD065 cD066 cD067 cD067A cD067B cD067C cD067D cD067E
cD067F cD067G cD067H cE001 cE002 cE003 cE004 cE005 cE006 cE007 cE008 cE008A cE009 cE009A cE010
cE011 cE012 cE013 cE014 cE015 cE016 cE016A cE017 cE017A cE018 cE019 cE020 cE020A cE021 cE022 cE023
cE024 cE025 cE026 cE027 cE028 cE028A cE029 cE030 cE031 cE032 cE033 cE034 cE034A cE036 cE037 cE038
cEND SEGMENT cF001 cF001A cF002 cF003 cF004 cF005 cF006 cF007 cF008 cF009 cF010 cF011 cF012 cF013
cF013A cF014 cF015 cF016 cF017 cF018 cF019 cF020 cF021 cF021A cF022 cF023 cF024 cF025 cF026 cF027
cF028 cF029 cF030 cF031 cF031A cF032 cF033 cF034 cF035 cF036 cF037 cF037A cF038 cF038A cF039 cF040
cF041 cF042 cF043 cF044 cF045 cF045A cF046 cF046A cF047 cF047A cF048 cF049 cF050 cF051 cF051A
cF051B cF051C cF052 cF053 cG001 cG002 cG003 cG004 cG005 cG006 cG006A cG007 cG007A cG007B cG008
cG009 cG010 cG011 cG011A cG012 cG013 cG014 cG015 cG016 cG017 cG018 cG019 cG020 cG020A cG021 cG022
cG023 cG024 cG025 cG026 cG026A cG027 cG028 cG029 cG030 cG031 cG032 cG033 cG034 cG035 cG036 cG036A
cG037 cG037A cG038 cG039 cG040 cG041 cG042 cG043 cG043A cG044 cG045 cG045A cG046 cG047 cG048 cG049
cG050 cG051 cG052 cG053 cG054 cH001 cH002 cH003 cH004 cH005 cH006 cH006A cH007 cH008 cHORIZONTAL
JOINER cI001 cI002 cI003 cI004 cI005 cI005A cI006 cI007 cI008 cI009 cI009A cI010 cI010A cI011
cI011A cI012 cI013 cI014 cI015 cINSERT AT BOTTOM END fSTART eTOP END fSTART cK001 cK002 cK003
cK004 cK005 cK006 cK007 cK008 cL001 cL002 cL002A cL003 cL004 cL005 cL006 cL006A cL007 cL008 cM001
cM001A cM001B cM002 cM003 cM003A cM004 cM005 cM006 cM007 cM008 cM009 cM010 cM010A cM011 cM012
cM012A cM012B cM012C cM012D cM012E cM012F cM012G cM012H cM013 cM014 cM015 cM015A cM016 cM016A
cM017 cM017A cM018 cM019 cM020 cM021 cM022 cM022A cM023 cM024 cM024A cM025 cM026 cM027 cM028
cM028A cM029 cM030 cM031 cM031A cM032 cM033 cM033A cM033B cM034 cM035 cM036 cM037 cM038 cM039
cM040 cM040A cM041 cM042 cM043 cM044 cN001 cN002 cN003 cN004 cN005 cN006 cN007 cN008 cN009 cN010
cN011 cN012 cN013 cN014 cN015 cN016 cN017 cN018 cN018A cN018B cN019 cN020 cN021 cN022 cN023 cN024
cN025 cN025A cN026 cN027 cN028 cN029 cN030 cN031 cN032 cN033 cN033A cN034 cN034A cN035 cN035A
cN036 cN037 cN037A cN038 cN039 cN040 cN041 cN042 cNL001 cNL002 cNL003 cNL004 cNL005 cNL005A cNL006
cNL007 cNL008 cNL009 cNL010 cNL011 cNL012 cNL013 cNL014 cNL015 cNL016 cNL017 cNL017A cNL018 cNL019
cNL020 cNU001 cNU002 cNU003 cNU004 cNU005 cNU006 cNU007 cNU008 cNU009 cNU010 cNU010A cNU011
cNU011A cNU012 cNU013 cNU014 cNU015 cNU016 cNU017 cNU018 cNU018A cNU019 cNU020 cNU021 cNU022
cNU022A cO001 cO001A cO002 cO003 cO004 cO005 cO005A cO006 cO006A cO006B cO006C cO006D cO006E
cO006F cO007 cO008 cO009 cO010 cO010A cO010B cO010C cO011 cO012 cO013 cO014 cO015 cO016 cO017
cO018 cO019 cO019A cO020 cO020A cO021 cO022 cO023 cO024 cO024A cO025 cO025A cO026 cO027 cO028
cO029 cO029A cO030 cO030A cO031 cO032 cO033 cO033A cO034 cO035 cO036 cO036A cO036B cO036C cO036D
cO037 cO038 cO039 cO040 cO041 cO042 cO043 cO044 cO045 cO046 cO047 cO048 cO049 cO050 cO050A cO050B
cO051 cOVERLAY MIDDLE cP001 cP001A cP002 cP003 cP003A cP004 cP005 cP006 cP007 cP008 cP009 cP010
cP011 cQ001 cQ002 cQ003 cQ004 cQ005 cQ006 cQ007 cR001 cR002 cR002A cR003 cR003A cR003B cR004 cR005
cR006 cR007 cR008 cR009 cR010 cR010A cR011 cR012 cR013 cR014 cR015 cR016 cR016A cR017 cR018 cR019
cR020 cR021 cR022 cR023 cR024 cR025 cR026 cR027 cR028 cR029 cS001 cS002 cS002A cS003 cS004 cS005
cS006 cS006A cS007 cS008 cS009 cS010 cS011 cS012 cS013 cS014 cS014A cS014B cS015 cS016 cS017
cS017A cS018 cS019 cS020 cS021 cS022 cS023 cS024 cS025 cS026 cS026A cS026B cS027 cS028 cS029 cS030
cS031 cS032 cS033 cS034 cS035 cS035A cS036 cS037 cS038 cS039 cS040 cS041 cS042 cS043 cS044 cS045
cS046 cT001 cT002 cT003 cT003A cT004 cT005 cT006 cT007 cT007A cT008 cT008A cT009 cT009A cT010
cT011 cT011A cT012 cT013 cT014 cT015 cT016 cT016A cT017 cT018 cT019 cT020 cT021 cT022 cT023 cT024
cT025 cT026 cT027 cT028 cT029 cT030 cT031 cT032 cT032A cT033 cT033A cT034 cT035 cT036 cU001 cU002
cU003 cU004 cU005 cU006 cU006A cU006B cU007 cU008 cU009 cU010 cU011 cU012 cU013 cU014 cU015 cU016
cU017 cU018 cU019 cU020 cU021 cU022 cU023 cU023A cU024 cU025 cU026 cU027 cU028 cU029 cU029A cU030
cU031 cU032 cU032A cU033 cU034 cU035 cU036 cU037 cU038 cU039 cU040 cU041 cU042 cV001 cV001A cV001B
cV001C cV001D cV001E cV001F cV001G cV001H cV001I cV002 cV002A cV003 cV004 cV005 cV006 cV007 cV007A
cV007B cV008 cV009 cV010 cV011 cV011A cV011B cV011C cV012 cV012A cV012B cV013 cV014 cV015 cV016
cV017 cV018 cV019 cV020 cV020A cV020B cV020C cV020D cV020E cV020F cV020G cV020H cV020I cV020J
cV020K cV020L cV021 cV022 cV023 cV023A cV024 cV025 cV026 cV027 cV028 cV028A cV029 cV029A cV030
cV030A cV031 cV031A cV032 cV033 cV033A cV034 cV035 cV036 cV037 cV037A cV038 cV039 cV040 cV040A
cVERTICAL JOINER cW001 cW002 cW003 cW003A cW004 cW005 cW006 cW007 cW008 cW009 cW009A cW010 cW010A
cW011 cW012 cW013 cW014 cW014A cW015 cW016 cW017 cW017A cW018 cW018A cW019 cW020 cW021 cW022 cW023
cW024 cW024A cW025 cX001 cX002 cX003 cX004 cX004A cX004B cX005 cX006 cX006A cX007 cX008 cX008A
cY001 cY001A cY002 cY003 cY004 cY005 cY006 cY007 cY008 cZ001 cZ002 cZ002A cZ002B cZ002C cZ002D
cZ003 cZ003A cZ003B cZ004 cZ004A cZ005 cZ005A cZ006 cZ007 cZ008 cZ009 cZ010 cZ011 cZ012 cZ013
cZ014 cZ015 cZ015A cZ015B cZ015C cZ015D cZ015E cZ015F cZ015G cZ015H cZ015I cZ016 cZ016A cZ016B
cZ016C cZ016D cZ016E cZ016F cZ016G cZ016H aEIGHT PETALLED OUTLINED BLACK FLORETTE bPOINTED BLACK
STAR cPINWHEEL STAR cRECTILINEAR BLACK STAR bSPOKED ASTERISK bTEARDROP-SPOKED PROPELLER ASTERISK
aEIGHTH NOTE aEJECT SYMBOL aELBASAN LETTER A cBE cCE cCHE cDE cDHE cE cEI cFE cGE cGHAMMA cGHE
cGJE cHE cI cJE cKE cKHE cLE cLLE cME cNA cNDE cNE cNJE cO cPE cQE cRE cRRE cSE cSHE cTE cTHE cU
cVE cXE cY cZE cZHE aELECTRIC ARROW bLIGHT BULB bPLUG bTORCH aELECTRICAL INTERSECTION aELEMENT OF
cOPENING DOWNWARDS dUPWARDS cWITH DOT ABOVE dLONG HORIZONTAL STROKE dOVERBAR dTWO HORIZONTAL
STROKES dUNDERBAR dVERTICAL BAR AT END OF HORIZONTAL STROKE aELEPHANT aELEVATOR aELF aELYMAIC
LETTER ALEPH cAYIN cBETH cDALETH cGIMEL cHE cHETH cKAPH cLAMEDH cMEM cNUN cPE cQOPH cRESH cSADHE
cSAMEKH cSHIN cTAW cTETH cWAW cYODH cZAYIN bLIGATURE ZAYIN-YODH aEM DASH bQUAD bSPACE aEMOJI
COMPONENT BALD cCURLY HAIR cRED HAIR cWHITE HAIR bMODIFIER FITZPATRICK TYPE-1-2 dTYPE-3 dTYPE-4
dTYPE-5 dTYPE-6 aEMPHASIS SYMBOL aEMPTY DOCUMENT bNEST bNOTE cPAD cPAGE bPAGE bPAGES bSET cWITH
LEFT ARROW ABOVE dOVERBAR dRIGHT ARROW ABOVE dSMALL CIRCLE ABOVE aEN DASH bQUAD bSPACE aEND OF
GUARDED AREA cLINE cMEDIUM cPROOF cPROTECTED AREA cSELECTED AREA cTEXT cTRANSMISSION dBLOCK bWITH
LEFTWARDS ARROW ABOVE aENQ aENQUIRY aENTER SYMBOL aENVELOPE bWITH DOWNWARDS ARROW ABOVE cLIGHTNING
aEOL aEOM aEOT aEPA aEQUAL AND PARALLEL TO bTO BY DEFINITION cOR GREATER-THAN dLESS-THAN dPRECEDES
dSUCCEEDS aEQUALS COLON bSIGN cABOVE LEFTWARDS ARROW dPLUS SIGN dRIGHTWARDS ARROW dTILDE OPERATOR
cAND SLANTED PARALLEL fWITH TILDE ABOVE cWITH BUMPY ABOVE dDOT BELOW dINFINITY BELOW dTWO DOTS
ABOVE AND TWO DOTS BELOW bWITH ASTERISK aEQUIANGULAR TO aEQUIVALENT TO bWITH FOUR DOTS ABOVE
aERASE TO THE LEFT dRIGHT aERIS FORM ONE cTWO aERROR-BARRED BLACK CIRCLE cDIAMOND cSQUARE bWHITE
CIRCLE cDIAMOND cSQUARE aESA aESC aESCAPE aESTIMATED SYMBOL aESTIMATES aETB aETHIOPIC COLON
bCOMBINING GEMINATION AND VOWEL LENGTH MARK dMARK cVOWEL LENGTH MARK bCOMMA bDIGIT EIGHT cFIVE
cFOUR cNINE cONE cSEVEN cSIX cTHREE cTWO bFULL STOP bNUMBER EIGHTY cFIFTY cFORTY cHUNDRED cNINETY
cSEVENTY cSIXTY cTEN dTHOUSAND cTHIRTY cTWENTY bPARAGRAPH SEPARATOR bPREFACE COLON bQUESTION MARK
bSECTION MARK bSEMICOLON bSYLLABLE BA cBAA cBBA cBBAA cBBE cBBEE cBBI cBBO cBBU cBE cBEE cBI cBO
cBOA cBU cBWA cBWE cBWEE cBWI cCA cCAA cCCA cCCAA cCCE cCCEE cCCHA cCCHAA cCCHE cCCHEE cCCHHA
cCCHHAA cCCHHE cCCHHEE cCCHHI cCCHHO cCCHHU cCCHI cCCHO cCCHU cCCI cCCO cCCU cCE cCEE cCHA cCHAA
cCHE cCHEE cCHI cCHO cCHOA cCHU cCHWA cCI cCO cCOA cCU cCWA cDA cDAA cDDA cDDAA cDDE cDDEE cDDHAA
cDDHE cDDHEE cDDHI cDDHO cDDHU cDDI cDDO cDDOA cDDU cDDWA cDE cDEE cDI cDO cDOA cDU cDWA cDZAA
cDZE cDZEE cDZI cDZO cDZU cFA cFAA cFE cFEE cFI cFO cFU cFWA cFWE cFWEE cFWI cFYA cGA cGAA cGE
cGEE cGGA cGGAA cGGE cGGEE cGGI cGGO cGGU cGGWA cGGWAA cGGWE cGGWEE cGGWI cGI cGLOTTAL A dAA dE
dEE dI dO dOA dU dWA cGO cGOA cGU cGURAGE BWEE dBWI dFWEE dFWI dGWE dGWEE dGWI dHHWA dKWE dKWEE
dKWI dMWEE dMWI dPWEE dPWI dQWE dQWEE dQWI cGWA cGWAA cGWE cGWEE cGWI cGYA cGYAA cGYE cGYEE cGYI
cGYO cGYU cHA cHAA cHE cHEE cHHA cHHAA cHHE cHHEE cHHI cHHO cHHU cHHWA cHHWE cHHWEE cHHWI cHHYA
cHHYAA cHHYE cHHYEE cHHYI cHHYO cHHYU cHI cHO cHOA cHU cJA cJAA cJE cJEE cJI cJO cJOA cJU cJWA cKA
cKAA cKE cKEE cKI cKO cKOA cKU cKWA cKWAA cKWE cKWEE cKWI cKXA cKXAA cKXE cKXEE cKXI cKXO cKXU
cKXWA cKXWAA cKXWE cKXWEE cKXWI cKYA cKYAA cKYE cKYEE cKYI cKYO cKYU cLA cLAA cLE cLEE cLI cLO
cLOA cLU cLWA cMA cMAA cME cMEE cMI cMO cMOA cMU cMWA cMWE cMWEE cMWI cMYA cNA cNAA cNE cNEE cNI
cNO cNOA cNU cNWA cNYA cNYAA cNYE cNYEE cNYI cNYO cNYOA cNYU cNYWA cPA cPAA cPE cPEE cPHA cPHAA
cPHARYNGEAL A dAA dE dEE dI dO dU cPHE cPHEE cPHI cPHO cPHOA cPHU cPHWA cPI cPO cPOA cPU cPWA cPWE
cPWEE cPWI cQA cQAA cQE cQEE cQHA cQHAA cQHE cQHEE cQHI cQHO cQHU cQHWA cQHWAA cQHWE cQHWEE cQHWI
cQI cQO cQOA cQU cQWA cQWAA cQWE cQWEE cQWI cQYA cQYAA cQYE cQYEE cQYI cQYO cQYU cRA cRAA cRE cREE
cRI cRO cROA cRU cRWA cRYA cSA cSAA cSE cSEBATBEIT BWA dFWA dMWA dPWA cSEE cSHA cSHAA cSHE cSHEE
cSHI cSHO cSHOA cSHU cSHWA cSI cSO cSOA cSSA cSSAA cSSE cSSEE cSSI cSSO cSSU cSU cSWA cSZA cSZAA
cSZE cSZEE cSZI cSZO cSZU cSZWA cTA cTAA cTE cTEE cTHA cTHAA cTHE cTHEE cTHI cTHO cTHOA cTHU cTHWA
cTI cTO cTOA cTSA cTSAA cTSE cTSEE cTSI cTSO cTSU cTSWA cTTHAA cTTHE cTTHEE cTTHI cTTHO cTTHU cTU
cTWA cTZA cTZAA cTZE cTZEE cTZI cTZO cTZOA cTZU cVA cVAA cVE cVEE cVI cVO cVU cVWA cWA cWAA cWE
cWEE cWI cWO cWOA cWU cXA cXAA cXE cXEE cXI cXO cXOA cXU cXWA cXWAA cXWE cXWEE cXWI cXYA cXYAA
cXYE cXYEE cXYI cXYO cXYU cYA cYAA cYE cYEE cYI cYO cYOA cYU cZA cZAA cZE cZEE cZHA cZHAA cZHE
cZHEE cZHI cZHO cZHU cZHWA cZI cZO cZOA cZU cZWA cZZA cZZAA cZZE cZZEE cZZI cZZO cZZU bTONAL MARK
CHIRET dDERET dDERET-HIDET dDIFAT dHIDET dKENAT dKURT dRIKRIK dSHORT RIKRIK dYIZET bWORDSPACE aETX
aEULER CONSTANT aEURO SIGN aEURO-CURRENCY SIGN aEUROPEAN CASTLE bPOST OFFICE aEVERGREEN TREE
aEXCESS aEXCLAMATION MARK bQUESTION MARK aEXPRESSIONLESS FACE aEXTENDED ARABIC-INDIC DIGIT EIGHT
dFIVE dFOUR dNINE dONE dSEVEN dSIX dTHREE dTWO dZERO aEXTRATERRESTRIAL ALIEN aEXTREMELY HEAVY FIVE
SPOKED ASTERISK cGREEK CROSS cSALTIRE cSIX SPOKED ASTERISK cWHITE CIRCLE dSQUARE aEYE aEYEGLASSES
aEYES"

def fNames : String := "
aFACE HOLDING BACK TEARS bMASSAGE bPALM bSAVOURING DELICIOUS FOOD bSCREAMING IN FEAR bTHROWING A
KISS bWITH COLD SWEAT cCOWBOY HAT cDIAGONAL MOUTH cFINGER COVERING CLOSED LIPS cHEAD-BANDAGE cLOOK
OF TRIUMPH cMEDICAL MASK cMONOCLE cNO GOOD GESTURE cOK GESTURE cONE EYEBROW RAISED cOPEN EYES AND
HAND OVER MOUTH dMOUTH eAND COLD SWEAT eVOMITING cPARTY HORN AND PARTY HAT cPEEKING EYE cPLEADING
EYES cROLLING EYES cSTUCK-OUT TONGUE eAND TIGHTLY-CLOSED EYES fWINKING EYE cTEARS OF JOY
cTHERMOMETER cUNEVEN EYES AND WAVY MOUTH bWITHOUT MOUTH aFACSIMILE SIGN aFACTORY aFAIRY aFALAFEL
aFALLEN LEAF aFALLING DIAGONAL CROSSING NORTH EAST ARROW dRISING DIAGONAL cIN WHITE CIRCLE IN
BLACK SQUARE aFAMILY aFARSI SYMBOL aFATHER CHRISTMAS aFAX ICON bMACHINE aFEARFUL FACE aFEATHER
aFEMALE SIGN aFEMININE ORDINAL INDICATOR aFENCER aFERRIS WHEEL aFERRY aFF aFIELD HOCKEY STICK AND
BALL aFIGURE DASH bSPACE aFILE CABINET bFOLDER bSEPARATOR aFILM FRAMES bPROJECTOR aFINITE PART
INTEGRAL aFIRE bENGINE bEXTINGUISHER aFIRECRACKER aFIREWORK SPARKLER aFIREWORKS aFIRST PLACE MEDAL
bQUARTER MOON dSYMBOL dWITH FACE bSTRONG ISOLATE aFISH bCAKE WITH SWIRL DESIGN aFISHEYE aFISHING
POLE AND FISH aFISTED HAND SIGN aFIVE DOT MARK cPUNCTUATION aFLAG IN HOLE aFLAMINGO aFLAT SHOE
aFLATBREAD aFLATNESS aFLEUR-DE-LIS aFLEXED BICEPS aFLOPPY DISK aFLORAL HEART aFLOWER bPLAYING
CARDS bPUNCTUATION MARK aFLUSHED FACE aFLY aFLYING DISC bENVELOPE bSAUCER aFOG aFOGGY aFOLDER
aFONDUE aFOOT aFOOTPRINTS aFOR ALL aFORCES aFORK AND KNIFE dWITH PLATE aFORKED PARAGRAPHOS
aFORKING aFORM FEED aFORTUNE COOKIE aFOUNTAIN aFOUR BALLOON-SPOKED ASTERISK bCLUB-SPOKED ASTERISK
bCORNER ARROWS CIRCLING ANTICLOCKWISE bDOT MARK cPUNCTUATION bLEAF CLOVER bPOINTED BLACK STAR
bTEARDROP-SPOKED ASTERISK aFOUR-PER-EM SPACE aFOURTH ROOT aFOX FACE aFRACTION NUMERATOR ONE bSLASH
aFRAME WITH AN X cPICTURE cTILES aFREEZING FACE aFRENCH FRANC SIGN bFRIES aFRIED SHRIMP aFROG FACE
aFRONT-FACING BABY CHICK aFRONT-TILTED SHADOWED WHITE RIGHTWARDS ARROW aFROWN aFROWNING FACE WITH
OPEN MOUTH aFS aFSI aFUEL PUMP aFULL BLOCK bMOON SYMBOL cWITH FACE bOUTER JOIN bSTOP aFULLWIDTH
AMPERSAND bAPOSTROPHE bASTERISK bBROKEN BAR bCENT SIGN bCIRCUMFLEX ACCENT bCOLON bCOMMA
bCOMMERCIAL AT bDIGIT EIGHT cFIVE cFOUR cNINE cONE cSEVEN cSIX cTHREE cTWO cZERO bDOLLAR SIGN
bEQUALS SIGN bEXCLAMATION MARK bFULL STOP bGRAVE ACCENT bGREATER-THAN SIGN bHYPHEN-MINUS bLATIN
CAPITAL LETTER A eB eC eD eE eF eG eH eI eJ eK eL eM eN eO eP eQ eR eS eT eU eV eW eX eY eZ cSMALL
LETTER A eB eC eD eE eF eG eH eI eJ eK eL eM eN eO eP eQ eR eS eT eU eV eW eX eY eZ bLEFT CURLY
BRACKET cPARENTHESIS cSQUARE BRACKET cWHITE PARENTHESIS bLESS-THAN SIGN bLOW LINE bMACRON bNOT
SIGN bNUMBER SIGN bPERCENT SIGN bPLUS SIGN bPOUND SIGN bQUESTION MARK bQUOTATION MARK bREVERSE
SOLIDUS bRIGHT CURLY BRACKET cPARENTHESIS cSQUARE BRACKET cWHITE PARENTHESIS bSEMICOLON bSOLIDUS
bTILDE bVERTICAL LINE bWON SIGN bYEN SIGN aFUNCTION APPLICATION aFUNERAL URN aFUSE aFVS1 aFVS2
aFVS3 aFVS4"

end NetLookup.Text.CharacterName
