/-! # Names of characters that begin with a letter from U to Z -/

namespace NetLookup.Text.CharacterName

def uNames : String := "
aUGARITIC LETTER AIN cALPA cBETA cDELTA cDHAL cGAMLA cGHAIN cHO cHOTA cI cKAF cKHA cLAMDA cMEM
cNUN cPU cQOPA cRASHA cSADE cSAMKA cSHIN cSSU cTET cTHANNA cTO cU cWO cYOD cZETA cZU bWORD DIVIDER
aUMBRELLA bON GROUND bWITH RAIN DROPS aUNAMUSED FACE aUNCERTAINTY SIGN aUNDERTIE aUNDO SYMBOL
aUNICORN FACE aUNION bABOVE BAR ABOVE INTERSECTION cINTERSECTION bBESIDE AND JOINED WITH UNION
bWITH LOGICAL OR cMINUS SIGN cOVERBAR aUNIT SEPARATOR aUNITED SYMBOL aUNIVERSAL RECYCLING SYMBOL
aUNMARRIED PARTNERSHIP SYMBOL aUP ARROW THROUGH CIRCLE bARROWHEAD cBETWEEN TWO HORIZONTAL BARS cIN
A RECTANGLE BOX bBARB LEFT DOWN BARB LEFT HARPOON fRIGHT HARPOON cRIGHT DOWN BARB LEFT HARPOON
fRIGHT HARPOON bDOWN ARROW dWITH BASE cBLACK ARROW cDOUBLE ARROW cSANS-SERIF ARROW
cTRIANGLE-HEADED ARROW cWHITE ARROW bFISH TAIL bRIGHT DIAGONAL ELLIPSIS bTACK cWITH CIRCLE ABOVE
aUP-POINTING AIRPLANE bMILITARY AIRPLANE bRED TRIANGLE bSMALL AIRPLANE cRED TRIANGLE bTRIANGLE
WITH LEFT HALF BLACK dRIGHT HALF BLACK aUPPER AND LEFT AND LOWER TRIANGULAR THREE QUARTERS BLOCK
cLOWER ONE EIGHTH BLOCK dTRIANGULAR HALF BLOCK cRIGHT AND LOWER TRIANGULAR THREE QUARTERS BLOCK
bBLADE SCISSORS bFIVE EIGHTHS BLOCK bHALF BLOCK dAND LOWER HALF INVERSE MEDIUM SHADE cCIRCLE
cINVERSE MEDIUM SHADE AND LOWER HALF BLOCK dWHITE CIRCLE cMEDIUM SHADE bLEFT BLOCK DIAGONAL LOWER
CENTRE TO LOWER MIDDLE RIGHT hUPPER MIDDLE RIGHT iRIGHT fLEFT TO LOWER MIDDLE RIGHT hUPPER CENTRE
iMIDDLE RIGHT fMIDDLE LEFT TO UPPER CENTRE jMIDDLE RIGHT jRIGHT eUPPER MIDDLE LEFT TO UPPER CENTRE
jRIGHT cCORNER WITH DOT cOR LOWER RIGHT CURLY BRACKET SECTION cQUADRANT CIRCULAR ARC cTO LOWER
RIGHT FILL cTRIANGLE cTRIANGULAR MEDIUM SHADE bONE EIGHTH BLOCK cQUARTER BLOCK bRIGHT BLOCK
DIAGONAL LOWER MIDDLE LEFT TO LOWER CENTRE jRIGHT eUPPER CENTRE TO LOWER MIDDLE RIGHT iRIGHT
hUPPER MIDDLE RIGHT fLEFT TO LOWER CENTRE iMIDDLE RIGHT hUPPER MIDDLE RIGHT fMIDDLE LEFT TO LOWER
CENTRE jMIDDLE RIGHT jRIGHT cDROP-SHADOWED WHITE SQUARE cOR LOWER LEFT CURLY BRACKET SECTION
cPENCIL cQUADRANT CIRCULAR ARC cSHADOWED WHITE CIRCLE eSQUARE cTO LOWER LEFT FILL cTRIANGLE
cTRIANGULAR MEDIUM SHADE bSEVEN EIGHTHS BLOCK bTHREE EIGHTHS BLOCK cQUARTERS BLOCK bTRIANGULAR ONE
QUARTER BLOCK aUPSIDE-DOWN FACE aUPWARDS ANCORA bARROW cAND RIGHT ONE EIGHTH BLOCK cFROM BAR
cLEFTWARDS OF DOWNWARDS ARROW cTO BAR cWITH DOUBLE STROKE dEQUILATERAL ARROWHEAD dHORIZONTAL
STROKE dLARGE TRIANGLE ARROWHEAD dMEDIUM TRIANGLE ARROWHEAD dNOTCHED TAIL dSMALL EQUILATERAL
ARROWHEAD eTRIANGLE ARROWHEAD dTIP LEFTWARDS eRIGHTWARDS bBLACK ARROW cCIRCLED WHITE ARROW
bCOMPRESSED ARROW bDASHED ARROW bDOUBLE ARROW bFINGER-POST ARROW bHARPOON WITH BARB LEFT BESIDE
DOWNWARDS HARPOON WITH BARB RIGHT gUPWARDS HARPOON WITH BARB RIGHT fFROM BAR fTO BAR eLEFTWARDS
eRIGHT FROM BAR fTO BAR eRIGHTWARDS bHEAVY ARROW cCOMPRESSED ARROW bPAIRED ARROWS bQUADRUPLE ARROW
bROCKET bSANS-SERIF ARROW bSQUARED ARROW bTRIANGLE ARROWHEAD bTRIANGLE-HEADED ARROW dLEFTWARDS OF
DOWNWARDS TRIANGLE-HEADED ARROW dTO BAR dWITH BOLD SHAFT eDOUBLE HORIZONTAL STROKE eHEAVY SHAFT
eLONG TIP LEFTWARDS gRIGHTWARDS eMEDIUM SHAFT eNARROW SHAFT eVERY HEAVY SHAFT cDASHED ARROW
cPAIRED ARROWS bTRIPLE ARROW bTWO HEADED ARROW bTWO-HEADED ARROW FROM SMALL CIRCLE dWITH TRIANGLE
ARROWHEADS bWHITE ARROW dFROM BAR fWITH HORIZONTAL BAR dON PEDESTAL fWITH HORIZONTAL BAR gVERTICAL
BAR dWITHIN TRIANGLE ARROWHEAD cDOUBLE ARROW eON PEDESTAL aURANUS aUS"

def vNames : String := "
aVAI COMMA bDIGIT EIGHT cFIVE cFOUR cNINE cONE cSEVEN cSIX cTHREE cTWO cZERO bFULL STOP bQUESTION
MARK bSYLLABLE A cAN cBA cBE cBEE cBHA cBHE cBHEE cBHI cBHO cBHOO cBHU cBI cBO cBOO cBU cCA cCE
cCEE cCI cCO cCOO cCU cDA cDE cDEE cDHA cDHE cDHEE cDHHA cDHHE cDHHEE cDHHI cDHHO cDHHOO cDHHU
cDHI cDHO cDHOO cDHU cDI cDO cDOO cDU cE cEE cEEN cEN cFA cFE cFEE cFI cFO cFOO cFU cGA cGBA cGBE
cGBEE cGBEN cGBI cGBO cGBON cGBOO cGBU cGE cGEE cGEN cGI cGO cGOO cGU cHA cHAN cHE cHEE cHEN cHI
cHIN cHO cHON cHOO cHU cHUN cI cIN cJA cJE cJEE cJI cJO cJOO cJU cKA cKAN cKE cKEE cKI cKO cKOO
cKPA cKPAN cKPE cKPEE cKPEN cKPI cKPO cKPOO cKPU cKU cLA cLE cLEE cLENGTHENER cLI cLO cLOO cLU cMA
cMBA cMBE cMBEE cMBI cMBO cMBOO cMBU cME cMEE cMGBA cMGBE cMGBEE cMGBI cMGBO cMGBOO cMGBU cMI cMO
cMOO cMU cNA cNDA cNDE cNDEE cNDI cNDO cNDOLE DO dFA dKA dMA dSOO cNDOO cNDU cNE cNEE cNG cNGAN
cNGEN cNGGA cNGGE cNGGEE cNGGEN cNGGI cNGGO cNGGOO cNGGU cNGON cNI cNJA cNJE cNJEE cNJI cNJO cNJOO
cNJU cNO cNOO cNU cNYA cNYE cNYEE cNYI cNYO cNYOO cNYU cO cON cOO cOON cPA cPE cPEE cPI cPO cPOO
cPU cRA cRE cREE cRI cRO cROO cRU cSA cSE cSEE cSHA cSHE cSHEE cSHI cSHO cSHOO cSHU cSI cSO cSOO
cSU cTA cTE cTEE cTHA cTHE cTHEE cTHI cTHO cTHOO cTHU cTI cTO cTOO cTU cU cUN cVA cVE cVEE cVI cVO
cVOO cVU cWA cWAN cWE cWEE cWEEN cWEN cWI cWIN cWO cWON cWOO cWOON cWU cWUN cYA cYE cYEE cYI cYO
cYOO cYU cZA cZE cZEE cZHA cZHE cZHEE cZHI cZHO cZHOO cZHU cZI cZO cZOO cZU bSYMBOL BANG cDANG
cDO-O cDOONG cFAA cFEENG cJONG cKEENG cKUNG cNII cTAA cTING cTONG aVAMPIRE aVARIATION SELECTOR-1
bSELECTOR-10 bSELECTOR-100 bSELECTOR-101 bSELECTOR-102 bSELECTOR-103 bSELECTOR-104 bSELECTOR-105
bSELECTOR-106 bSELECTOR-107 bSELECTOR-108 bSELECTOR-109 bSELECTOR-11 bSELECTOR-110 bSELECTOR-111
bSELECTOR-112 bSELECTOR-113 bSELECTOR-114 bSELECTOR-115 bSELECTOR-116 bSELECTOR-117 bSELECTOR-118
bSELECTOR-119 bSELECTOR-12 bSELECTOR-120 bSELECTOR-121 bSELECTOR-122 bSELECTOR-123 bSELECTOR-124
bSELECTOR-125 bSELECTOR-126 bSELECTOR-127 bSELECTOR-128 bSELECTOR-129 bSELECTOR-13 bSELECTOR-130
bSELECTOR-131 bSELECTOR-132 bSELECTOR-133 bSELECTOR-134 bSELECTOR-135 bSELECTOR-136 bSELECTOR-137
bSELECTOR-138 bSELECTOR-139 bSELECTOR-14 bSELECTOR-140 bSELECTOR-141 bSELECTOR-142 bSELECTOR-143
bSELECTOR-144 bSELECTOR-145 bSELECTOR-146 bSELECTOR-147 bSELECTOR-148 bSELECTOR-149 bSELECTOR-15
bSELECTOR-150 bSELECTOR-151 bSELECTOR-152 bSELECTOR-153 bSELECTOR-154 bSELECTOR-155 bSELECTOR-156
bSELECTOR-157 bSELECTOR-158 bSELECTOR-159 bSELECTOR-16 bSELECTOR-160 bSELECTOR-161 bSELECTOR-162
bSELECTOR-163 bSELECTOR-164 bSELECTOR-165 bSELECTOR-166 bSELECTOR-167 bSELECTOR-168 bSELECTOR-169
bSELECTOR-17 bSELECTOR-170 bSELECTOR-171 bSELECTOR-172 bSELECTOR-173 bSELECTOR-174 bSELECTOR-175
bSELECTOR-176 bSELECTOR-177 bSELECTOR-178 bSELECTOR-179 bSELECTOR-18 bSELECTOR-180 bSELECTOR-181
bSELECTOR-182 bSELECTOR-183 bSELECTOR-184 bSELECTOR-185 bSELECTOR-186 bSELECTOR-187 bSELECTOR-188
bSELECTOR-189 bSELECTOR-19 bSELECTOR-190 bSELECTOR-191 bSELECTOR-192 bSELECTOR-193 bSELECTOR-194
bSELECTOR-195 bSELECTOR-196 bSELECTOR-197 bSELECTOR-198 bSELECTOR-199 bSELECTOR-2 bSELECTOR-20
bSELECTOR-200 bSELECTOR-201 bSELECTOR-202 bSELECTOR-203 bSELECTOR-204 bSELECTOR-205 bSELECTOR-206
bSELECTOR-207 bSELECTOR-208 bSELECTOR-209 bSELECTOR-21 bSELECTOR-210 bSELECTOR-211 bSELECTOR-212
bSELECTOR-213 bSELECTOR-214 bSELECTOR-215 bSELECTOR-216 bSELECTOR-217 bSELECTOR-218 bSELECTOR-219
bSELECTOR-22 bSELECTOR-220 bSELECTOR-221 bSELECTOR-222 bSELECTOR-223 bSELECTOR-224 bSELECTOR-225
bSELECTOR-226 bSELECTOR-227 bSELECTOR-228 bSELECTOR-229 bSELECTOR-23 bSELECTOR-230 bSELECTOR-231
bSELECTOR-232 bSELECTOR-233 bSELECTOR-234 bSELECTOR-235 bSELECTOR-236 bSELECTOR-237 bSELECTOR-238
bSELECTOR-239 bSELECTOR-24 bSELECTOR-240 bSELECTOR-241 bSELECTOR-242 bSELECTOR-243 bSELECTOR-244
bSELECTOR-245 bSELECTOR-246 bSELECTOR-247 bSELECTOR-248 bSELECTOR-249 bSELECTOR-25 bSELECTOR-250
bSELECTOR-251 bSELECTOR-252 bSELECTOR-253 bSELECTOR-254 bSELECTOR-255 bSELECTOR-256 bSELECTOR-26
bSELECTOR-27 bSELECTOR-28 bSELECTOR-29 bSELECTOR-3 bSELECTOR-30 bSELECTOR-31 bSELECTOR-32
bSELECTOR-33 bSELECTOR-34 bSELECTOR-35 bSELECTOR-36 bSELECTOR-37 bSELECTOR-38 bSELECTOR-39
bSELECTOR-4 bSELECTOR-40 bSELECTOR-41 bSELECTOR-42 bSELECTOR-43 bSELECTOR-44 bSELECTOR-45
bSELECTOR-46 bSELECTOR-47 bSELECTOR-48 bSELECTOR-49 bSELECTOR-5 bSELECTOR-50 bSELECTOR-51
bSELECTOR-52 bSELECTOR-53 bSELECTOR-54 bSELECTOR-55 bSELECTOR-56 bSELECTOR-57 bSELECTOR-58
bSELECTOR-59 bSELECTOR-6 bSELECTOR-60 bSELECTOR-61 bSELECTOR-62 bSELECTOR-63 bSELECTOR-64
bSELECTOR-65 bSELECTOR-66 bSELECTOR-67 bSELECTOR-68 bSELECTOR-69 bSELECTOR-7 bSELECTOR-70
bSELECTOR-71 bSELECTOR-72 bSELECTOR-73 bSELECTOR-74 bSELECTOR-75 bSELECTOR-76 bSELECTOR-77
bSELECTOR-78 bSELECTOR-79 bSELECTOR-8 bSELECTOR-80 bSELECTOR-81 bSELECTOR-82 bSELECTOR-83
bSELECTOR-84 bSELECTOR-85 bSELECTOR-86 bSELECTOR-87 bSELECTOR-88 bSELECTOR-89 bSELECTOR-9
bSELECTOR-90 bSELECTOR-91 bSELECTOR-92 bSELECTOR-93 bSELECTOR-94 bSELECTOR-95 bSELECTOR-96
bSELECTOR-97 bSELECTOR-98 bSELECTOR-99 aVECTOR OR CROSS PRODUCT aVEDIC SIGN ANUSVARA ANTARGOMUKHA
dBAHIRGOMUKHA dUBHAYATO MUKHA dVAMAGOMUKHA eWITH TAIL cARDHAVISARGA cATIKRAMA cDOUBLE ANUSVARA
ANTARGOMUKHA cHEXIFORM LONG ANUSVARA cJIHVAMULIYA cLONG ANUSVARA cNIHSHVASA cREVERSED VISARGA
ANUDATTA eUDATTA cROTATED ARDHAVISARGA cRTHANG LONG ANUSVARA cTIRYAK cUPADHMANIYA cVISARGA
ANUDATTA eWITH TAIL dSVARITA dUDATTA eWITH TAIL cYAJURVEDIC MIDLINE SVARITA bTONE ATHARVAVEDIC
INDEPENDENT SVARITA cCANDRA ABOVE dBELOW cDOT BELOW cDOUBLE RING ABOVE dSVARITA cKARSHANA cKATHAKA
ANUDATTA cPRENKHA cRIGVEDIC KASHMIRI INDEPENDENT SVARITA cRING ABOVE cSHARA cTHREE DOTS BELOW
cTRIPLE SVARITA cTWO DOTS BELOW cYAJURVEDIC AGGRAVATED INDEPENDENT SVARITA dINDEPENDENT SVARITA
dKATHAKA INDEPENDENT SVARITA gSCHROEDER aVERSICLE aVERTICAL BAR BESIDE RIGHT TRIANGLE cDOUBLE LEFT
TURNSTILE cTRIPLE RIGHT TURNSTILE cWITH HORIZONTAL STROKE bELLIPSIS bFOUR DOTS bIDEOGRAPHIC
ITERATION MARK bKANA REPEAT MARK eLOWER HALF eUPPER HALF dWITH VOICED SOUND MARK hUPPER HALF bLINE
cEXTENSION cWITH CIRCLE ABOVE eBELOW dMIDDLE DOT bMALE WITH STROKE SIGN bONE EIGHTH BLOCK-2
dBLOCK-3 dBLOCK-4 dBLOCK-5 dBLOCK-6 dBLOCK-7 bSIX DOTS bTAB KEY bTABULATION cSET bTILDE bTRAFFIC
LIGHT bZIGZAG LINE aVERY BOLD GREEK CROSS bHEAVY EIGHT POINTED BLACK STAR dSPOKED ASTERISK cFIVE
SPOKED ASTERISK cGREEK CROSS cREVERSE SOLIDUS cSALTIRE cSIX SPOKED ASTERISK cSOLIDUS cWHITE CIRCLE
dSQUARE bMUCH GREATER-THAN cLESS-THAN aVESTA aVIBRATION MODE aVICTORY HAND aVIDEO CAMERA bGAME
aVIDEOCASSETTE aVIETNAMESE ALTERNATE READING MARK CA eNHAY aVIEWDATA SQUARE aVIOLIN aVIRGO
aVITHKUQI CAPITAL LETTER A dBBE dBE dCE dCHE dDE dDHE dE dEI dFE dGA dHA dHHA dI dIJE dJE dKA dLA
dLLA dME dNE dNJE dO dPE dQA dRE dSE dSHE dTE dTHE dU dVE dXE dY dZE bSMALL LETTER A dBBE dBE dCE
dCHE dDE dDHE dE dEI dFE dGA dHA dHHA dI dIJE dJE dKA dLA dLLA dME dNE dNJE dO dPE dQA dRE dSE
dSHE dTE dTHE dU dVE dXE dY dZE aVOIDED GREEK CROSS aVOLCANO aVOLLEYBALL aVOLUME INTEGRAL aVS1
aVS10 aVS100 aVS101 aVS102 aVS103 aVS104 aVS105 aVS106 aVS107 aVS108 aVS109 aVS11 aVS110 aVS111
aVS112 aVS113 aVS114 aVS115 aVS116 aVS117 aVS118 aVS119 aVS12 aVS120 aVS121 aVS122 aVS123 aVS124
aVS125 aVS126 aVS127 aVS128 aVS129 aVS13 aVS130 aVS131 aVS132 aVS133 aVS134 aVS135 aVS136 aVS137
aVS138 aVS139 aVS14 aVS140 aVS141 aVS142 aVS143 aVS144 aVS145 aVS146 aVS147 aVS148 aVS149 aVS15
aVS150 aVS151 aVS152 aVS153 aVS154 aVS155 aVS156 aVS157 aVS158 aVS159 aVS16 aVS160 aVS161 aVS162
aVS163 aVS164 aVS165 aVS166 aVS167 aVS168 aVS169 aVS17 aVS170 aVS171 aVS172 aVS173 aVS174 aVS175
aVS176 aVS177 aVS178 aVS179 aVS18 aVS180 aVS181 aVS182 aVS183 aVS184 aVS185 aVS186 aVS187 aVS188
aVS189 aVS19 aVS190 aVS191 aVS192 aVS193 aVS194 aVS195 aVS196 aVS197 aVS198 aVS199 aVS2 aVS20
aVS200 aVS201 aVS202 aVS203 aVS204 aVS205 aVS206 aVS207 aVS208 aVS209 aVS21 aVS210 aVS211 aVS212
aVS213 aVS214 aVS215 aVS216 aVS217 aVS218 aVS219 aVS22 aVS220 aVS221 aVS222 aVS223 aVS224 aVS225
aVS226 aVS227 aVS228 aVS229 aVS23 aVS230 aVS231 aVS232 aVS233 aVS234 aVS235 aVS236 aVS237 aVS238
aVS239 aVS24 aVS240 aVS241 aVS242 aVS243 aVS244 aVS245 aVS246 aVS247 aVS248 aVS249 aVS25 aVS250
aVS251 aVS252 aVS253 aVS254 aVS255 aVS256 aVS26 aVS27 aVS28 aVS29 aVS3 aVS30 aVS31 aVS32 aVS33
aVS34 aVS35 aVS36 aVS37 aVS38 aVS39 aVS4 aVS40 aVS41 aVS42 aVS43 aVS44 aVS45 aVS46 aVS47 aVS48
aVS49 aVS5 aVS50 aVS51 aVS52 aVS53 aVS54 aVS55 aVS56 aVS57 aVS58 aVS59 aVS6 aVS60 aVS61 aVS62
aVS63 aVS64 aVS65 aVS66 aVS67 aVS68 aVS69 aVS7 aVS70 aVS71 aVS72 aVS73 aVS74 aVS75 aVS76 aVS77
aVS78 aVS79 aVS8 aVS80 aVS81 aVS82 aVS83 aVS84 aVS85 aVS86 aVS87 aVS88 aVS89 aVS9 aVS90 aVS91
aVS92 aVS93 aVS94 aVS95 aVS96 aVS97 aVS98 aVS99 aVT aVTS aVULCANUS aVULGAR FRACTION FIVE EIGHTHS
dSIXTHS cFOUR FIFTHS cONE EIGHTH dFIFTH dHALF dNINTH dQUARTER dSEVENTH dSIXTH dTENTH dTHIRD cSEVEN
EIGHTHS cTHREE EIGHTHS dFIFTHS dQUARTERS cTWO FIFTHS dTHIRDS cZERO THIRDS"

def wNames : String := "
aWAFFLE aWANCHO DIGIT EIGHT cFIVE cFOUR cNINE cONE cSEVEN cSIX cTHREE cTWO cZERO bLETTER A cAA
cAAN cAANG cANG cAU cBA cCA cDA cE cEN cFA cGA cHA cI cING cJA cKA cKHA cLA cLLHA cMA cNA cNGA
cNYA cO cON cONG cPA cPHA cRA cSA cSHA cTA cTHA cTRA cTSA cU cUEN cVA cWA cYA cYIH cZA bNGUN SIGN
bTONE KOI cKOINI cTUP cTUPNI aWANING CRESCENT MOON SYMBOL bGIBBOUS MOON SYMBOL aWARANG CITI
CAPITAL LETTER A eAM eANG eAT eBU eDA eE eENN eENY eGA eHAR eHIYO eHOLO eHORR eII eKO eNGAA eNUNG
eO eODD ePU eSII eSSUU eTTE eUC eUU eVIYO eWI eYA eYO eYU eYUJ cDIGIT EIGHT dFIVE dFOUR dNINE dONE
dSEVEN dSIX dTHREE dTWO dZERO cNUMBER EIGHTY dFIFTY dFORTY dNINETY dSEVENTY dSIXTY dTEN dTHIRTY
dTWENTY cOM cSMALL LETTER A eAM eANG eAT eBU eDA eE eENN eENY eGA eHAR eHIYO eHOLO eHORR eII eKO
eNGAA eNUNG eO eODD ePU eSII eSSUU eTTE eUC eUU eVIYO eWI eYA eYO eYU eYUJ aWARNING SIGN
aWASTEBASKET aWATCH aWATER BUFFALO bCLOSET bPOLO bWAVE aWATERMELON aWAVE ARROW POINTING DIRECTLY
LEFT eRIGHT bDASH aWAVING BLACK FLAG bHAND SIGN bWHITE FLAG aWAVY DASH bLINE bLOW LINE bOVERLINE
aWAXING CRESCENT MOON SYMBOL bGIBBOUS MOON SYMBOL aWEARY CAT FACE bFACE aWEDDING aWEDGE-TAILED
RIGHTWARDS ARROW aWEIERSTRASS ELLIPTIC FUNCTION aWEIGHT LIFTER aWEST SYRIAC CROSS aWHALE aWHEEL
bOF DHARMA aWHEELCHAIR SYMBOL aWHITE ARROW SHAFT WIDTH ONE eTWO THIRDS bBULLET bCHESS BISHOP
dROTATED NINETY DEGREES eTWO HUNDRED SEVENTY DEGREES cEQUIHOPPER dROTATED NINETY DEGREES cKING
dROTATED NINETY DEGREES eTWO HUNDRED SEVENTY DEGREES cKNIGHT dROTATED FORTY-FIVE DEGREES eNINETY
DEGREES eONE HUNDRED THIRTY-FIVE DEGREES eTHREE HUNDRED FIFTEEN DEGREES eTWO HUNDRED SEVENTY
DEGREES gTWENTY-FIVE DEGREES cKNIGHT-BISHOP cKNIGHT-QUEEN cKNIGHT-ROOK cPAWN dROTATED NINETY
DEGREES eTWO HUNDRED SEVENTY DEGREES cQUEEN dROTATED NINETY DEGREES eTWO HUNDRED SEVENTY DEGREES
cROOK dROTATED NINETY DEGREES eTWO HUNDRED SEVENTY DEGREES cTURNED BISHOP dKING dKNIGHT dPAWN
dQUEEN dROOK bCIRCLE cCONTAINING BLACK SMALL CIRCLE cWITH DOT RIGHT dDOWN ARROW dLOWER LEFT
QUADRANT eRIGHT QUADRANT dTWO DOTS dUPPER LEFT QUADRANT eRIGHT QUADRANT bCLUB SUIT bCONCAVE-SIDED
DIAMOND dWITH LEFTWARDS TICK eRIGHTWARDS TICK bDIAMOND cCONTAINING BLACK MEDIUM DIAMOND eSMALL
DIAMOND eVERY SMALL DIAMOND cIN SQUARE cSUIT cWITH CENTRED DOT bDOWN POINTING BACKHAND INDEX
dINDEX dLEFT HAND INDEX bDOWN-POINTING SMALL TRIANGLE cTRIANGLE bDRAUGHTS KING cMAN bEXCLAMATION
MARK ORNAMENT bFLAG cWITH HORIZONTAL MIDDLE BLACK STRIPE bFLORETTE bFLOWER bFOUR POINTED CUSP
dSTAR bFROWNING FACE bHARD SHELL FLOPPY DISK bHEART cSUIT bHEAVY CHECK MARK cSALTIRE WITH ROUNDED
CORNERS bHEXAGON bHORIZONTAL ELLIPSE bHOURGLASS bLARGE SQUARE bLATIN CROSS bLEFT LANE MERGE
cPOINTING BACKHAND INDEX dINDEX bLEFT-POINTING POINTER cSMALL TRIANGLE cTRIANGLE bLOZENGE
CONTAINING BLACK SMALL LOZENGE bMEDIUM DIAMOND cLOZENGE cSMALL SQUARE cSQUARE cSTAR bMOON SELENA
bNIB bPARALLELOGRAM bPENNANT bPENTAGON bQUESTION MARK ORNAMENT bRECTANGLE bRIGHT POINTING BACKHAND
INDEX dINDEX bRIGHT-POINTING PENTAGON cPOINTER cSMALL TRIANGLE cTRIANGLE bSCISSORS bSESAME DOT
bSHOGI PIECE bSMALL LOZENGE cSQUARE cSTAR bSMILING FACE bSPADE SUIT bSQUARE cBUTTON cCONTAINING
BLACK MEDIUM SQUARE eSMALL SQUARE eVERY SMALL SQUARE cWITH CENTRE VERTICAL LINE dLEFTWARDS TICK
dLOWER LEFT QUADRANT eRIGHT QUADRANT dRIGHTWARDS TICK dROUNDED CORNERS dUPPER LEFT QUADRANT eRIGHT
QUADRANT dVERTICAL BISECTING LINE bSTAR bSUN cBEHIND CLOUD eWITH RAIN cWITH RAYS dSMALL CLOUD
bTELEPHONE bTOUCHTONE TELEPHONE bTRAPEZIUM bTRIANGLE CONTAINING SMALL WHITE TRIANGLE bTWO-WAY LEFT
WAY TRAFFIC bUP POINTING BACKHAND INDEX dINDEX bUP-POINTING CHEVRON cSMALL TRIANGLE cTRIANGLE
dWITH DOT bVERTICAL BAR cELLIPSE cRECTANGLE bVERY SMALL SQUARE aWHITE-FEATHERED RIGHTWARDS ARROW
aWIDE-HEADED DOWNWARDS BARB ARROW cHEAVY BARB ARROW cLIGHT BARB ARROW cMEDIUM BARB ARROW cVERY
HEAVY BARB ARROW bLEFTWARDS BARB ARROW cHEAVY BARB ARROW cLIGHT BARB ARROW cMEDIUM BARB ARROW
cVERY HEAVY BARB ARROW bNORTH EAST BARB ARROW dHEAVY BARB ARROW dLIGHT BARB ARROW dMEDIUM BARB
ARROW dVERY HEAVY BARB ARROW cWEST BARB ARROW dHEAVY BARB ARROW dLIGHT BARB ARROW dMEDIUM BARB
ARROW dVERY HEAVY BARB ARROW bRIGHTWARDS BARB ARROW cHEAVY BARB ARROW cLIGHT BARB ARROW cMEDIUM
BARB ARROW cVERY HEAVY BARB ARROW bSOUTH EAST BARB ARROW dHEAVY BARB ARROW dLIGHT BARB ARROW
dMEDIUM BARB ARROW dVERY HEAVY BARB ARROW cWEST BARB ARROW dHEAVY BARB ARROW dLIGHT BARB ARROW
dMEDIUM BARB ARROW dVERY HEAVY BARB ARROW bUPWARDS BARB ARROW cHEAVY BARB ARROW cLIGHT BARB ARROW
cMEDIUM BARB ARROW cVERY HEAVY BARB ARROW aWIGGLY VERTICAL LINE aWILTED FLOWER aWIND BLOWING FACE
bCHIME aWINDOW aWINE GLASS aWINKING FACE aWIRED KEYBOARD aWJ aWOLF FACE aWOMAN bWITH BUNNY EARS
aWOMANS BOOTS bCLOTHES bHAT bSANDAL aWOMENS SYMBOL aWON SIGN aWOOD aWORD JOINER bSEPARATOR MIDDLE
DOT aWORLD MAP aWORM aWORRIED FACE aWRAPPED PRESENT aWREATH PRODUCT aWRENCH aWRESTLERS aWRITING
HAND"

def xNames : String := "
aX IN A RECTANGLE BOX aX-RAY aXIANGQI BLACK CANNON cCHARIOT cELEPHANT cGENERAL cHORSE cMANDARIN
cSOLDIER bRED CANNON cCHARIOT cELEPHANT cGENERAL cHORSE cMANDARIN cSOLDIER aXOR"

def yNames : String := "
aYAWNING FACE aYELLOW HEART aYEN SIGN aYEZIDI COMBINING HAMZA MARK cMADDA MARK bHYPHENATION MARK
bLETTER BE cCHHIM cCHIM cCIM cDAD cDAL cELIF cET cEW cEYN cFA cGAF cHAY cHHA cJA cKAF cKHAF cLAM
dWITH DOT ABOVE cMIM cNUN cOW cPE cPHE cQAF cRA cRHA cSAD cSE cSHIN cSIN cTA cTHE cUM cVA
dALTERNATE FORM cWAW cXA cXHEYN cYOT dWITH CIRCUMFLEX ABOVE cZA cZAL cZE aYI RADICAL BBUT cBUR
cCHE cCIP cCUOP cCY cCYP cCYT cDDUR cDU cGA cGEP cGGOP cGGUO cGOT cHMO cHXIT cHXOP cHXUO cJJIE
cJJUT cJJY cJO cKE cKIT cLI cLIE cLYR cMI cMOP cNBIE cNYIP cNYOP cNZUP cOP cPUT cPYT cQOT cSHAT
cSHOP cSHUR cSHY cSSI cTAT cTU cVEP cVUR cWO cYIT cYO cZA cZOT cZUP cZUR cZZIET bSYLLABLE A cAP
cAT cAX cBA cBAP cBAT cBAX cBBA cBBAP cBBAT cBBAX cBBE cBBEP cBBEX cBBI cBBIE cBBIEP cBBIET cBBIEX
cBBIP cBBIT cBBIX cBBO cBBOP cBBOT cBBOX cBBU cBBUO cBBUOP cBBUOX cBBUP cBBUR cBBURX cBBUT cBBUX
cBBY cBBYP cBBYT cBBYX cBE cBEP cBEX cBI cBIE cBIEP cBIET cBIEX cBIP cBIT cBIX cBO cBOP cBOT cBOX
cBU cBUO cBUOP cBUOX cBUP cBUR cBURX cBUT cBUX cBY cBYP cBYR cBYRX cBYT cBYX cCA cCAP cCAT cCAX
cCE cCEP cCEX cCHA cCHAP cCHAT cCHAX cCHE cCHEP cCHET cCHEX cCHO cCHOP cCHOT cCHOX cCHU cCHUO
cCHUOP cCHUOT cCHUOX cCHUP cCHUR cCHURX cCHUX cCHY cCHYP cCHYR cCHYRX cCHYT cCHYX cCI cCIE cCIEP
cCIET cCIEX cCIP cCIT cCIX cCO cCOP cCOT cCOX cCU cCUO cCUOP cCUOX cCUP cCUR cCURX cCUT cCUX cCY
cCYP cCYR cCYRX cCYT cCYX cDA cDAP cDAT cDAX cDDA cDDAP cDDAT cDDAX cDDE cDDEP cDDEX cDDI cDDIE
cDDIEP cDDIEX cDDIP cDDIT cDDIX cDDO cDDOP cDDOT cDDOX cDDU cDDUO cDDUOP cDDUOX cDDUP cDDUR cDDURX
cDDUT cDDUX cDE cDEP cDEX cDI cDIE cDIEP cDIEX cDIP cDIT cDIX cDO cDOP cDOT cDOX cDU cDUO cDUOX
cDUP cDUR cDURX cDUT cDUX cE cEX cFA cFAP cFAT cFAX cFI cFIP cFIT cFIX cFO cFOP cFOX cFU cFUP cFUR
cFURX cFUT cFUX cFY cFYP cFYT cFYX cGA cGAP cGAT cGAX cGE cGEP cGET cGEX cGGA cGGAP cGGAT cGGAX
cGGE cGGEP cGGET cGGEX cGGI cGGIE cGGIEP cGGIEX cGGIT cGGIX cGGO cGGOP cGGOT cGGOX cGGU cGGUO
cGGUOP cGGUOT cGGUOX cGGUP cGGUR cGGURX cGGUT cGGUX cGI cGIE cGIEP cGIET cGIEX cGIP cGIT cGIX cGO
cGOP cGOT cGOX cGU cGUO cGUOP cGUOT cGUOX cGUP cGUR cGURX cGUT cGUX cHA cHAP cHAT cHAX cHE cHEP
cHEX cHIE cHIEX cHIT cHLA cHLAP cHLAT cHLAX cHLE cHLEP cHLEX cHLI cHLIE cHLIEP cHLIEX cHLIP cHLIT
cHLIX cHLO cHLOP cHLOX cHLU cHLUO cHLUOP cHLUOX cHLUP cHLUR cHLURX cHLUT cHLUX cHLY cHLYP cHLYR
cHLYRX cHLYT cHLYX cHMA cHMAP cHMAT cHMAX cHMI cHMIE cHMIEP cHMIEX cHMIP cHMIT cHMIX cHMO cHMOP
cHMOT cHMOX cHMU cHMUO cHMUOP cHMUOX cHMUP cHMUR cHMURX cHMUT cHMUX cHMY cHMYP cHMYR cHMYRX cHMYX
cHNA cHNAP cHNAT cHNAX cHNE cHNEP cHNEX cHNI cHNIE cHNIEP cHNIET cHNIEX cHNIP cHNIT cHNIX cHNOP
cHNOT cHNOX cHNUO cHNUOX cHNUT cHO cHOP cHOT cHOX cHUO cHUOP cHUOT cHUOX cHXA cHXAP cHXAT cHXAX
cHXE cHXEP cHXEX cHXI cHXIE cHXIEP cHXIET cHXIEX cHXIP cHXIT cHXIX cHXO cHXOP cHXOT cHXOX cHXUO
cHXUOP cHXUOT cHXUOX cI cIE cIEP cIET cIEX cIP cIT cITERATION MARK cIX cJI cJIE cJIEP cJIET cJIEX
cJIP cJIT cJIX cJJI cJJIE cJJIEP cJJIET cJJIEX cJJIP cJJIT cJJIX cJJO cJJOP cJJOT cJJOX cJJU cJJUO
cJJUOP cJJUOX cJJUP cJJUR cJJURX cJJUT cJJUX cJJY cJJYP cJJYT cJJYX cJO cJOP cJOT cJOX cJU cJUO
cJUOP cJUOT cJUOX cJUP cJUR cJURX cJUT cJUX cJY cJYP cJYR cJYRX cJYT cJYX cKA cKAP cKAT cKAX cKE
cKEP cKET cKEX cKI cKIE cKIEP cKIEX cKIP cKIT cKIX cKO cKOP cKOT cKOX cKU cKUO cKUOP cKUOX cKUP
cKUR cKURX cKUT cKUX cLA cLAP cLAT cLAX cLE cLEP cLEX cLI cLIE cLIEP cLIET cLIEX cLIP cLIT cLIX
cLO cLOP cLOT cLOX cLU cLUO cLUOP cLUOT cLUOX cLUP cLUR cLURX cLUT cLUX cLY cLYP cLYR cLYRX cLYT
cLYX cMA cMAP cMAT cMAX cME cMEX cMGA cMGAP cMGAT cMGAX cMGE cMGEP cMGEX cMGIE cMGIEX cMGO cMGOP
cMGOT cMGOX cMGU cMGUO cMGUOP cMGUOX cMGUP cMGUR cMGURX cMGUT cMGUX cMI cMIE cMIEP cMIEX cMIP cMIT
cMIX cMO cMOP cMOT cMOX cMU cMUO cMUOP cMUOT cMUOX cMUP cMUR cMURX cMUT cMUX cMY cMYP cMYT cMYX
cNA cNAP cNAX cNBA cNBAP cNBAT cNBAX cNBI cNBIE cNBIEP cNBIEX cNBIP cNBIT cNBIX cNBO cNBOP cNBOT
cNBOX cNBU cNBUP cNBUR cNBURX cNBUT cNBUX cNBY cNBYP cNBYR cNBYRX cNBYT cNBYX cNDA cNDAP cNDAT
cNDAX cNDE cNDEP cNDEX cNDI cNDIE cNDIEX cNDIP cNDIT cNDIX cNDO cNDOP cNDOT cNDOX cNDU cNDUP cNDUR
cNDURX cNDUT cNDUX cNE cNEP cNEX cNGA cNGAP cNGAT cNGAX cNGE cNGEP cNGEX cNGIE cNGIEP cNGIEX cNGO
cNGOP cNGOT cNGOX cNGUO cNGUOT cNGUOX cNI cNIE cNIEP cNIEX cNIP cNIT cNIX cNJI cNJIE cNJIEP cNJIET
cNJIEX cNJIP cNJIT cNJIX cNJO cNJOP cNJOT cNJOX cNJU cNJUO cNJUOX cNJUP cNJUR cNJURX cNJUX cNJY
cNJYP cNJYR cNJYRX cNJYT cNJYX cNO cNOP cNOT cNOX cNRA cNRAP cNRAT cNRAX cNRE cNREP cNRET cNREX
cNRO cNROP cNROX cNRU cNRUP cNRUR cNRURX cNRUT cNRUX cNRY cNRYP cNRYR cNRYRX cNRYT cNRYX cNU cNUO
cNUOP cNUOX cNUP cNUR cNURX cNUT cNUX cNYI cNYIE cNYIEP cNYIET cNYIEX cNYIP cNYIT cNYIX cNYO cNYOP
cNYOT cNYOX cNYU cNYUO cNYUOP cNYUOX cNYUP cNYUT cNYUX cNZA cNZAP cNZAT cNZAX cNZE cNZEX cNZI
cNZIE cNZIEP cNZIEX cNZIP cNZIT cNZIX cNZOP cNZOX cNZU cNZUO cNZUOX cNZUP cNZUR cNZURX cNZUX cNZY
cNZYP cNZYR cNZYRX cNZYT cNZYX cO cOP cOT cOX cPA cPAP cPAT cPAX cPI cPIE cPIEP cPIEX cPIP cPIT
cPIX cPO cPOP cPOT cPOX cPU cPUO cPUOP cPUOX cPUP cPUR cPURX cPUT cPUX cPY cPYP cPYR cPYRX cPYT
cPYX cQI cQIE cQIEP cQIET cQIEX cQIP cQIT cQIX cQO cQOP cQOT cQOX cQU cQUO cQUOP cQUOT cQUOX cQUP
cQUR cQURX cQUT cQUX cQY cQYP cQYR cQYRX cQYT cQYX cRA cRAP cRAT cRAX cRE cREP cREX cRO cROP cROT
cROX cRRA cRRAX cRRE cRREP cRRET cRREX cRRO cRROP cRROT cRROX cRRU cRRUO cRRUOX cRRUP cRRUR cRRURX
cRRUT cRRUX cRRY cRRYP cRRYR cRRYRX cRRYT cRRYX cRU cRUO cRUOP cRUOX cRUP cRUR cRURX cRUT cRUX cRY
cRYP cRYR cRYRX cRYT cRYX cSA cSAP cSAT cSAX cSE cSEP cSEX cSHA cSHAP cSHAT cSHAX cSHE cSHEP cSHET
cSHEX cSHO cSHOP cSHOT cSHOX cSHU cSHUO cSHUOP cSHUOX cSHUP cSHUR cSHURX cSHUT cSHUX cSHY cSHYP
cSHYR cSHYRX cSHYT cSHYX cSI cSIE cSIEP cSIEX cSIP cSIT cSIX cSO cSOP cSOT cSOX cSSA cSSAP cSSAT
cSSAX cSSE cSSEP cSSEX cSSI cSSIE cSSIEP cSSIEX cSSIP cSSIT cSSIX cSSO cSSOP cSSOT cSSOX cSSU
cSSUP cSSUT cSSUX cSSY cSSYP cSSYR cSSYRX cSSYT cSSYX cSU cSUO cSUOP cSUOX cSUP cSUR cSURX cSUT
cSUX cSY cSYP cSYR cSYRX cSYT cSYX cTA cTAP cTAT cTAX cTE cTEP cTEX cTI cTIE cTIEP cTIEX cTIP cTIT
cTIX cTO cTOP cTOT cTOX cTU cTUO cTUOP cTUOT cTUOX cTUP cTUR cTURX cTUT cTUX cUO cUOP cUOX cVA
cVAP cVAT cVAX cVEP cVEX cVI cVIE cVIEP cVIET cVIEX cVIP cVIT cVIX cVO cVOP cVOT cVOX cVU cVUP
cVUR cVURX cVUT cVUX cVY cVYP cVYR cVYRX cVYT cVYX cWA cWAP cWAT cWAX cWE cWEP cWEX cWO cWOP cWOX
cWU cWUO cWUOP cWUOX cXI cXIE cXIEP cXIET cXIEX cXIP cXIT cXIX cXO cXOP cXOT cXOX cXUO cXUOX cXY
cXYP cXYR cXYRX cXYT cXYX cYI cYIE cYIEP cYIET cYIEX cYIP cYIT cYIX cYO cYOP cYOT cYOX cYU cYUO
cYUOP cYUOT cYUOX cYUP cYUR cYURX cYUT cYUX cYY cYYP cYYR cYYRX cYYT cYYX cZA cZAP cZAT cZAX cZE
cZEP cZEX cZHA cZHAP cZHAT cZHAX cZHE cZHEP cZHET cZHEX cZHO cZHOP cZHOT cZHOX cZHU cZHUO cZHUOP
cZHUOX cZHUP cZHUR cZHURX cZHUT cZHUX cZHY cZHYP cZHYR cZHYRX cZHYT cZHYX cZI cZIE cZIEP cZIEX
cZIP cZIT cZIX cZO cZOP cZOT cZOX cZU cZUO cZUOP cZUOX cZUP cZUR cZURX cZUT cZUX cZY cZYP cZYR
cZYRX cZYT cZYX cZZA cZZAP cZZAT cZZAX cZZE cZZEP cZZEX cZZI cZZIE cZZIEP cZZIET cZZIEX cZZIP
cZZIT cZZIX cZZO cZZOP cZZOX cZZU cZZUP cZZUR cZZURX cZZUX cZZY cZZYP cZZYR cZZYRX cZZYT cZZYX
aYIN YANG aYO-YO"

def zNames : String := "
aZ NOTATION BAG MEMBERSHIP cDOMAIN ANTIRESTRICTION cLEFT BINDING BRACKET dIMAGE BRACKET cRANGE
ANTIRESTRICTION cRELATIONAL COMPOSITION cRIGHT BINDING BRACKET dIMAGE BRACKET cSCHEMA COMPOSITION
dPIPING dPROJECTION cSPOT cTYPE COLON aZANABAZAR SQUARE CLOSING DOUBLE-LINED HEAD MARK dHEAD MARK
cCLUSTER-FINAL LETTER LA eRA eVA eYA cCLUSTER-INITIAL LETTER RA cFINAL CONSONANT MARK cINITIAL
DOUBLE-LINED HEAD MARK dHEAD MARK cLETTER -A dA dBA dBHA dCA dCHA dDA dDDA dDDHA dDHA dDZA dDZHA
dGA dGHA dHA dJA dKA dKHA dKSSA dLA dMA dNA dNGA dNNA dNYA dPA dPHA dRA dSA dSHA dSSA dTA dTHA
dTSA dTSHA dTTA dTTHA dVA dYA dZA dZHA cMARK DOUBLE SHAD dLONG TSHEG dSHAD dTSHEG cSIGN ANUSVARA
dCANDRA WITH ORNAMENT dCANDRABINDU eWITH ORNAMENT dVIRAMA dVISARGA cSUBJOINER cVOWEL LENGTH MARK
dSIGN AI eAU eE eI eO eOE eREVERSED I eU eUE aZEBRA FACE aZERO WIDTH JOINER cNO-BREAK SPACE
cNON-JOINER cSPACE aZEUS aZIPPER-MOUTH FACE aZNAMENNY COMBINING ATTACHING VERTICAL OMET cLOWER
TONAL RANGE INDICATOR cMARK BORZAYA dCHASHKA ePOLNAYA dCURVED OMET dDEMESTVENNY ZADERZHKA
dDVOETOCHIE dGORAZDO NIZKO ON LEFT gRIGHT fS KRYZHEM ON LEFT iRIGHT eVYSOKO dKACHKA dKRYZH eON
LEFT dKUPNAYA dLOMKA dMALO POVYSHE ON LEFT gRIGHT fS KHOKHLOM ON LEFT iRIGHT gKRYZHEM fSTRANNO
dNIZKO ON LEFT fRIGHT eS KRYZHEM ON LEFT hRIGHT dOBLACHKO dON dOTSECHKA dPODCHASHIE eWITH VERTICAL
STROKE dPODVERTKA dPOVYSHE ON LEFT fRIGHT eS KHOKHLOM ON LEFT hRIGHT fKRYZHEM eSTRANNO dRAVNO
dRAZSEKA dSKOBA dSOROCHYA NOZHKA dSREDNE ON LEFT fRIGHT dSTRANNO MALO POVYSHE dTIKHAYA dTOCHKA
dTSATA ON LEFT fRIGHT eS KRYZHEM dUDARKA dVYSOKO ON LEFT fRIGHT eS KHOKHLOM ON LEFT hRIGHT
fKRYZHEM dZADERZHKA dZELO dZEVOK cTONAL RANGE MARK MRACHNO fSVETLO fTRESVETLO bNEUME CHASHKA
cCHELYUSTKA cDEMESTVENNY KLYUCH cDERBITSA cDOUBLE ZAPYATAYA cDUDA cDVA V CHELNU cFITA cGOLUBCHIK
BORZY dMRACHNY dSVETLY dTIKHY dTRESVETLY cKHAMILO cKLYUCH cKOBYLA cKRYUK dTIKHY cKRYZH cKUFISMA
cMECHIK dKLYUCHENEPOSTOYANNY dKLYUCHEPOVODNY dKLYUCHEVOY dPOVODNY cNEMKA cOBLAKO cOSOKA
dKLYUCHEVAYA NEPOSTOYANNAYA eSVETLAYA dKRYUKOVAYA SVETLAYA dSVETLAYA dTRESVETLAYA cPALKA cPARAKLIT
cPAUK cPEREVODKA dNEPOSTOYANNAYA cPODCHASHIE cPOLKULIZMY cREVERSED CHELYUSTKA cROG cSKAMEYTSA
DVOECHELNAYA KLYUCHEVAYA eNEPOSTOYANNAYA ePROSTAYA eSVETLAYA dKLYUCHENEPOSTOYANNAYA dKLYUCHEVAYA
SVETLAYA eTIKHAYA dMRACHNAYA dSVETLAYA dTIKHAYA dTRESVETLAYA cSLOZHITIE dS KRYZHEM eZAPYATOY
dZAKRYTOE cSTATYA dNEPOSTOYANNAYA dS DVUMYA ZAPYATYMI eKRYZHEM fI ZAPYATOY eROGOM eZAPYATOY fI
KRYZHEM gPODCHASHIEM dZAKRYTAYA eS ZAPYATOY cSTOPITSA dS OCHKOM dWITH SOROCHYA NOZHKA cSTRELA
DVOECHELNAYA eKLYUCHEVAYA dDVOECHELNOKRYZHEVAYA dDVOECHELNOPOVODNAYA eKLYUCHEVAYA dGROMNAYA eWITH
SINGLE ZAPYATAYA dGROMOKRYZHEVAYA ePOVODNAYA dGROMOPOVODNAYA eWITH DOUBLE ZAPYATAYA fSINGLE
ZAPYATAYA dKLYUCHENEPOSTOYANNAYA dKLYUCHEPOVODNAYA dKRYUKOVAYA eGROMNAYA fWITH SINGLE ZAPYATAYA
eGROMOKRYZHEVAYA fPOVODNAYA eGROMOPOVODNAYA fWITH DOUBLE ZAPYATAYA gSINGLE ZAPYATAYA ePOVODNAYA
eTRYASKA dKRYZHEVAYA dMRACHNOTIKHAYA dNEPOSTOYANNAYA dPOLUPOVODNAYA dPOVODNAYA dPROSTAYA dTIKHAYA
PUTNAYA dTRYASOGLASNAYA dTRYASOPOVODNAYA dTRYASOSTRELNAYA cVRAKHIYA KLYUCHEVAYA MRACHNAYA
ePROSTAYA eSVETLAYA eTRESVETLAYA dMRACHNAYA dPROSTAYA dSVETLAYA dTRESVETLAYA cZANOZHEK cZAPYATAYA
cZMEYTSA bPRIZNAK MODIFIER DIRECTION FLIP dKRYZH dLEVEL-2 dLEVEL-3 dROG aZOMBIE aZWJ aZWNBSP aZWNJ
aZWSP"

end NetLookup.Text.CharacterName
