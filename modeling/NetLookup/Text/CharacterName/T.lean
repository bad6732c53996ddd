/-! # Names of characters that begin with T -/

namespace NetLookup.Text.CharacterName

def tNames : String := "
aT-REX aT-SHIRT aTAB aTABLE TENNIS PADDLE AND BALL aTACO aTAG AMPERSAND bAPOSTROPHE bASTERISK
bCIRCUMFLEX ACCENT bCOLON bCOMMA bCOMMERCIAL AT bDIGIT EIGHT cFIVE cFOUR cNINE cONE cSEVEN cSIX
cTHREE cTWO cZERO bDOLLAR SIGN bEQUALS SIGN bEXCLAMATION MARK bFULL STOP bGRAVE ACCENT
bGREATER-THAN SIGN bHYPHEN-MINUS bLATIN CAPITAL LETTER A eB eC eD eE eF eG eH eI eJ eK eL eM eN eO
eP eQ eR eS eT eU eV eW eX eY eZ cSMALL LETTER A eB eC eD eE eF eG eH eI eJ eK eL eM eN eO eP eQ
eR eS eT eU eV eW eX eY eZ bLEFT CURLY BRACKET cPARENTHESIS cSQUARE BRACKET bLESS-THAN SIGN bLOW
LINE bNUMBER SIGN bPERCENT SIGN bPLUS SIGN bQUESTION MARK bQUOTATION MARK bREVERSE SOLIDUS bRIGHT
CURLY BRACKET cPARENTHESIS cSQUARE BRACKET bSEMICOLON bSOLIDUS bSPACE bTILDE bVERTICAL LINE
aTAGALOG LETTER A cARCHAIC RA cBA cDA cGA cHA cI cKA cLA cMA cNA cNGA cPA cRA cSA cTA cU cWA cYA
bSIGN PAMUDPOD cVIRAMA bVOWEL SIGN I dU aTAGBANWA LETTER A cBA cDA cGA cI cKA cLA cMA cNA cNGA cPA
cSA cTA cU cWA cYA bVOWEL SIGN I dU aTAI LE LETTER A dAI dAUE dE dEE dEH dFA dHA dI dKA dKHA dLA
dMA dNA dNGA dO dOO dPA dPHA dQA dSA dTA dTHA dTONE-2 dTONE-3 dTONE-4 dTONE-5 dTONE-6 dTSA dTSHA
dU dUE dVA dXA dYA bTHAM COMBINING CRYPTOGRAMMIC DOT cCONSONANT SIGN BA eFINAL NGA eHIGH RATHA OR
LOW PA eLA TANG LAI eLOW PA eMA eMEDIAL LA fRA eSA cHORA DIGIT EIGHT eFIVE eFOUR eNINE eONE eSEVEN
eSIX eTHREE eTWO eZERO cLETTER A dBA dDA dEE dGREAT SA dHIGH CA eCHA eFA eHA eKA eKHA eKXA ePA
ePHA eRATHA eSA eSHA eSSA eTA eTHA eYA dI dII dLA dLAE dLLA dLOW CA eCHA eFA eHA eKA eKHA eKXA ePA
ePHA eRATHA eSA eTA eTHA eYA dLUE dMA dNA dNGA dNYA dOO dRA dRANA dRATA dRUE dU dUU dWA cSIGN
CAANG dDOKMAI dHANG dHOY dKAAN dKAANKUU dKEOW dKHUEN TONE-3 eTONE-4 eTONE-5 dKHUEN-LUE KARAN dMAI
KANG fLAI eSAM eYAMOK dRA HAAM dREVERSED ROTATED RANA dSAKOT dSATKAAN dSATKAANKUU dSAWAN dTONE-1
dTONE-2 dWIANG dWIANGWAAK cTHAM DIGIT EIGHT eFIVE eFOUR eNINE eONE eSEVEN eSIX eTHREE eTWO eZERO
cVOWEL SIGN A eAA eAE eAI eE eI eII eMAI SAT eO eOA ABOVE fBELOW eOO eOY eTALL AA eTHAM AI eU eUE
eUU eUUE bVIET LETTER HIGH BO eCHO eCO eDO eFO eGO eHO eKHHO eKHO eKO eLO eMO eNGO eNO eNYO eO
ePHO ePO eRO eSO eTHO eTO eVO eYO dLOW BO eCHO eCO eDO eFO eGO eHO eKHHO eKHO eKO eLO eMO eNGO eNO
eNYO eO ePHO ePO eRO eSO eTHO eTO eVO eYO cMAI KANG dKHIT cSYMBOL HO HOI dKOI KOI dKON dNUENG dSAM
cTONE MAI EK eNUENG eSONG eTHO cVOWEL AA dAM dAN dAUE dAY dE dI dIA dO dU dUA dUE dUEA aTAKEOUT
BOX aTAKRI ABBREVIATION SIGN bDIGIT EIGHT cFIVE cFOUR cNINE cONE cSEVEN cSIX cTHREE cTWO cZERO
bLETTER A cAA cAI cARCHAIC KHA cAU cBA cBHA cCA cCHA cDA cDDA cDDHA cDHA cE cGA cGHA cHA cI cII
cJA cJHA cKA cKHA cLA cMA cNA cNGA cNNA cNYA cO cPA cPHA cRA cRRA cSA cSHA cTA cTHA cTTA cTTHA cU
cUU cVA cYA bSIGN ANUSVARA cNUKTA cVIRAMA cVISARGA bVOWEL SIGN AA dAI dAU dE dI dII dO dU dUU
aTALLY MARK FIVE cONE aTAMALE aTAMIL AND ODD SIGN bAS ABOVE SIGN bAU LENGTH MARK bCREDIT SIGN
bCURRENT SIGN bDAY SIGN bDEBIT SIGN bDIGIT EIGHT cFIVE cFOUR cNINE cONE cSEVEN cSIX cTHREE cTWO
cZERO bDRY CULTIVATION SIGN bFRACTION DOWNSCALING FACTOR KIIZH cONE EIGHTH dEIGHTIETH dFIFTH
dFORTIETH dHALF-1 dHALF-2 dONE-HUNDRED-AND-SIXTIETH dQUARTER dSIXTEENTH-1 dSIXTEENTH-2
dSIXTY-FOURTH dTENTH dTHIRTY-SECOND dTHREE-HUNDRED-AND-TWENTIETH dTWENTIETH cTHREE EIGHTIETHS
dQUARTERS dSIXTEENTHS dSIXTY-FOURTHS dTWENTIETHS bIN POSSESSION SIGN bLAND SIGN bLETTER A cAA cAI
cAU cCA cE cEE cHA cI cII cJA cKA cLA cLLA cLLLA cMA cNA cNGA cNNA cNNNA cNYA cO cOO cPA cRA cRRA
cSA cSHA cSSA cTA cTTA cU cUU cVA cYA bMONTH SIGN bNUMBER ONE HUNDRED dTHOUSAND cSIGN cTEN bOM
bPUNCTUATION END OF TEXT bRUPEE SIGN bSALT PAN SIGN bSIGN AAZHAAKKU cANUSVARA cCEVITU cKAACU
cKURUNI cKUZHI cMUKKURUNI cMUTHALIYA cMUUVUZHAKKU cNEL cPAARAM cPANAM cPATHAKKU cPON cUZHAKKU
cVAKAIYARAA cVARAAKAN cVELI cVIRAMA cVISARGA bSPENT SIGN bSTARTING FROM SIGN bTOTAL SIGN
bTRADITIONAL CREDIT SIGN cNUMBER SIGN bVOWEL SIGN AA dAI dAU dE dEE dI dII dO dOO dU dUU bWET
CULTIVATION SIGN bYEAR SIGN aTANABATA TREE aTANGERINE aTANGSA DIGIT EIGHT cFIVE cFOUR cNINE cONE
cSEVEN cSIX cTHREE cTWO cZERO bLETTER AC cAQ cAWC cAWQ cAWX cAWZ cAX cAZ cBA cCA cCHA cDA cDHA cEC
cEQ cEX cEZ cFA cFINAL NG cGA cGHA cHA cHTA cHTTA cIC cIQ cIX cIZ cKA cKHA cLA cLONG UEX cMA cMC
cMQ cMX cMZ cNA cNGA cNHA cNYA cOC cOQ cOX cOZ cPA cPHA cRA cSA cSHA cSHORT AWX dUEZ cTA cTHA cTSA
cUC cUEC cUEQ cUEX cUEZ cUIC cUIQ cUIUC cUIUQ cUIUX cUIUZ cUIX cUIZ cUQ cUX cUZ cVC cVQ cVX cVZ
cWA cXA cYA cZA aTANGUT COMPONENT-001 bCOMPONENT-002 bCOMPONENT-003 bCOMPONENT-004 bCOMPONENT-005
bCOMPONENT-006 bCOMPONENT-007 bCOMPONENT-008 bCOMPONENT-009 bCOMPONENT-010 bCOMPONENT-011
bCOMPONENT-012 bCOMPONENT-013 bCOMPONENT-014 bCOMPONENT-015 bCOMPONENT-016 bCOMPONENT-017
bCOMPONENT-018 bCOMPONENT-019 bCOMPONENT-020 bCOMPONENT-021 bCOMPONENT-022 bCOMPONENT-023
bCOMPONENT-024 bCOMPONENT-025 bCOMPONENT-026 bCOMPONENT-027 bCOMPONENT-028 bCOMPONENT-029
bCOMPONENT-030 bCOMPONENT-031 bCOMPONENT-032 bCOMPONENT-033 bCOMPONENT-034 bCOMPONENT-035
bCOMPONENT-036 bCOMPONENT-037 bCOMPONENT-038 bCOMPONENT-039 bCOMPONENT-040 bCOMPONENT-041
bCOMPONENT-042 bCOMPONENT-043 bCOMPONENT-044 bCOMPONENT-045 bCOMPONENT-046 bCOMPONENT-047
bCOMPONENT-048 bCOMPONENT-049 bCOMPONENT-050 bCOMPONENT-051 bCOMPONENT-052 bCOMPONENT-053
bCOMPONENT-054 bCOMPONENT-055 bCOMPONENT-056 bCOMPONENT-057 bCOMPONENT-058 bCOMPONENT-059
bCOMPONENT-060 bCOMPONENT-061 bCOMPONENT-062 bCOMPONENT-063 bCOMPONENT-064 bCOMPONENT-065
bCOMPONENT-066 bCOMPONENT-067 bCOMPONENT-068 bCOMPONENT-069 bCOMPONENT-070 bCOMPONENT-071
bCOMPONENT-072 bCOMPONENT-073 bCOMPONENT-074 bCOMPONENT-075 bCOMPONENT-076 bCOMPONENT-077
bCOMPONENT-078 bCOMPONENT-079 bCOMPONENT-080 bCOMPONENT-081 bCOMPONENT-082 bCOMPONENT-083
bCOMPONENT-084 bCOMPONENT-085 bCOMPONENT-086 bCOMPONENT-087 bCOMPONENT-088 bCOMPONENT-089
bCOMPONENT-090 bCOMPONENT-091 bCOMPONENT-092 bCOMPONENT-093 bCOMPONENT-094 bCOMPONENT-095
bCOMPONENT-096 bCOMPONENT-097 bCOMPONENT-098 bCOMPONENT-099 bCOMPONENT-100 bCOMPONENT-101
bCOMPONENT-102 bCOMPONENT-103 bCOMPONENT-104 bCOMPONENT-105 bCOMPONENT-106 bCOMPONENT-107
bCOMPONENT-108 bCOMPONENT-109 bCOMPONENT-110 bCOMPONENT-111 bCOMPONENT-112 bCOMPONENT-113
bCOMPONENT-114 bCOMPONENT-115 bCOMPONENT-116 bCOMPONENT-117 bCOMPONENT-118 bCOMPONENT-119
bCOMPONENT-120 bCOMPONENT-121 bCOMPONENT-122 bCOMPONENT-123 bCOMPONENT-124 bCOMPONENT-125
bCOMPONENT-126 bCOMPONENT-127 bCOMPONENT-128 bCOMPONENT-129 bCOMPONENT-130 bCOMPONENT-131
bCOMPONENT-132 bCOMPONENT-133 bCOMPONENT-134 bCOMPONENT-135 bCOMPONENT-136 bCOMPONENT-137
bCOMPONENT-138 bCOMPONENT-139 bCOMPONENT-140 bCOMPONENT-141 bCOMPONENT-142 bCOMPONENT-143
bCOMPONENT-144 bCOMPONENT-145 bCOMPONENT-146 bCOMPONENT-147 bCOMPONENT-148 bCOMPONENT-149
bCOMPONENT-150 bCOMPONENT-151 bCOMPONENT-152 bCOMPONENT-153 bCOMPONENT-154 bCOMPONENT-155
bCOMPONENT-156 bCOMPONENT-157 bCOMPONENT-158 bCOMPONENT-159 bCOMPONENT-160 bCOMPONENT-161
bCOMPONENT-162 bCOMPONENT-163 bCOMPONENT-164 bCOMPONENT-165 bCOMPONENT-166 bCOMPONENT-167
bCOMPONENT-168 bCOMPONENT-169 bCOMPONENT-170 bCOMPONENT-171 bCOMPONENT-172 bCOMPONENT-173
bCOMPONENT-174 bCOMPONENT-175 bCOMPONENT-176 bCOMPONENT-177 bCOMPONENT-178 bCOMPONENT-179
bCOMPONENT-180 bCOMPONENT-181 bCOMPONENT-182 bCOMPONENT-183 bCOMPONENT-184 bCOMPONENT-185
bCOMPONENT-186 bCOMPONENT-187 bCOMPONENT-188 bCOMPONENT-189 bCOMPONENT-190 bCOMPONENT-191
bCOMPONENT-192 bCOMPONENT-193 bCOMPONENT-194 bCOMPONENT-195 bCOMPONENT-196 bCOMPONENT-197
bCOMPONENT-198 bCOMPONENT-199 bCOMPONENT-200 bCOMPONENT-201 bCOMPONENT-202 bCOMPONENT-203
bCOMPONENT-204 bCOMPONENT-205 bCOMPONENT-206 bCOMPONENT-207 bCOMPONENT-208 bCOMPONENT-209
bCOMPONENT-210 bCOMPONENT-211 bCOMPONENT-212 bCOMPONENT-213 bCOMPONENT-214 bCOMPONENT-215
bCOMPONENT-216 bCOMPONENT-217 bCOMPONENT-218 bCOMPONENT-219 bCOMPONENT-220 bCOMPONENT-221
bCOMPONENT-222 bCOMPONENT-223 bCOMPONENT-224 bCOMPONENT-225 bCOMPONENT-226 bCOMPONENT-227
bCOMPONENT-228 bCOMPONENT-229 bCOMPONENT-230 bCOMPONENT-231 bCOMPONENT-232 bCOMPONENT-233
bCOMPONENT-234 bCOMPONENT-235 bCOMPONENT-236 bCOMPONENT-237 bCOMPONENT-238 bCOMPONENT-239
bCOMPONENT-240 bCOMPONENT-241 bCOMPONENT-242 bCOMPONENT-243 bCOMPONENT-244 bCOMPONENT-245
bCOMPONENT-246 bCOMPONENT-247 bCOMPONENT-248 bCOMPONENT-249 bCOMPONENT-250 bCOMPONENT-251
bCOMPONENT-252 bCOMPONENT-253 bCOMPONENT-254 bCOMPONENT-255 bCOMPONENT-256 bCOMPONENT-257
bCOMPONENT-258 bCOMPONENT-259 bCOMPONENT-260 bCOMPONENT-261 bCOMPONENT-262 bCOMPONENT-263
bCOMPONENT-264 bCOMPONENT-265 bCOMPONENT-266 bCOMPONENT-267 bCOMPONENT-268 bCOMPONENT-269
bCOMPONENT-270 bCOMPONENT-271 bCOMPONENT-272 bCOMPONENT-273 bCOMPONENT-274 bCOMPONENT-275
bCOMPONENT-276 bCOMPONENT-277 bCOMPONENT-278 bCOMPONENT-279 bCOMPONENT-280 bCOMPONENT-281
bCOMPONENT-282 bCOMPONENT-283 bCOMPONENT-284 bCOMPONENT-285 bCOMPONENT-286 bCOMPONENT-287
bCOMPONENT-288 bCOMPONENT-289 bCOMPONENT-290 bCOMPONENT-291 bCOMPONENT-292 bCOMPONENT-293
bCOMPONENT-294 bCOMPONENT-295 bCOMPONENT-296 bCOMPONENT-297 bCOMPONENT-298 bCOMPONENT-299
bCOMPONENT-300 bCOMPONENT-301 bCOMPONENT-302 bCOMPONENT-303 bCOMPONENT-304 bCOMPONENT-305
bCOMPONENT-306 bCOMPONENT-307 bCOMPONENT-308 bCOMPONENT-309 bCOMPONENT-310 bCOMPONENT-311
bCOMPONENT-312 bCOMPONENT-313 bCOMPONENT-314 bCOMPONENT-315 bCOMPONENT-316 bCOMPONENT-317
bCOMPONENT-318 bCOMPONENT-319 bCOMPONENT-320 bCOMPONENT-321 bCOMPONENT-322 bCOMPONENT-323
bCOMPONENT-324 bCOMPONENT-325 bCOMPONENT-326 bCOMPONENT-327 bCOMPONENT-328 bCOMPONENT-329
bCOMPONENT-330 bCOMPONENT-331 bCOMPONENT-332 bCOMPONENT-333 bCOMPONENT-334 bCOMPONENT-335
bCOMPONENT-336 bCOMPONENT-337 bCOMPONENT-338 bCOMPONENT-339 bCOMPONENT-340 bCOMPONENT-341
bCOMPONENT-342 bCOMPONENT-343 bCOMPONENT-344 bCOMPONENT-345 bCOMPONENT-346 bCOMPONENT-347
bCOMPONENT-348 bCOMPONENT-349 bCOMPONENT-350 bCOMPONENT-351 bCOMPONENT-352 bCOMPONENT-353
bCOMPONENT-354 bCOMPONENT-355 bCOMPONENT-356 bCOMPONENT-357 bCOMPONENT-358 bCOMPONENT-359
bCOMPONENT-360 bCOMPONENT-361 bCOMPONENT-362 bCOMPONENT-363 bCOMPONENT-364 bCOMPONENT-365
bCOMPONENT-366 bCOMPONENT-367 bCOMPONENT-368 bCOMPONENT-369 bCOMPONENT-370 bCOMPONENT-371
bCOMPONENT-372 bCOMPONENT-373 bCOMPONENT-374 bCOMPONENT-375 bCOMPONENT-376 bCOMPONENT-377
bCOMPONENT-378 bCOMPONENT-379 bCOMPONENT-380 bCOMPONENT-381 bCOMPONENT-382 bCOMPONENT-383
bCOMPONENT-384 bCOMPONENT-385 bCOMPONENT-386 bCOMPONENT-387 bCOMPONENT-388 bCOMPONENT-389
bCOMPONENT-390 bCOMPONENT-391 bCOMPONENT-392 bCOMPONENT-393 bCOMPONENT-394 bCOMPONENT-395
bCOMPONENT-396 bCOMPONENT-397 bCOMPONENT-398 bCOMPONENT-399 bCOMPONENT-400 bCOMPONENT-401
bCOMPONENT-402 bCOMPONENT-403 bCOMPONENT-404 bCOMPONENT-405 bCOMPONENT-406 bCOMPONENT-407
bCOMPONENT-408 bCOMPONENT-409 bCOMPONENT-410 bCOMPONENT-411 bCOMPONENT-412 bCOMPONENT-413
bCOMPONENT-414 bCOMPONENT-415 bCOMPONENT-416 bCOMPONENT-417 bCOMPONENT-418 bCOMPONENT-419
bCOMPONENT-420 bCOMPONENT-421 bCOMPONENT-422 bCOMPONENT-423 bCOMPONENT-424 bCOMPONENT-425
bCOMPONENT-426 bCOMPONENT-427 bCOMPONENT-428 bCOMPONENT-429 bCOMPONENT-430 bCOMPONENT-431
bCOMPONENT-432 bCOMPONENT-433 bCOMPONENT-434 bCOMPONENT-435 bCOMPONENT-436 bCOMPONENT-437
bCOMPONENT-438 bCOMPONENT-439 bCOMPONENT-440 bCOMPONENT-441 bCOMPONENT-442 bCOMPONENT-443
bCOMPONENT-444 bCOMPONENT-445 bCOMPONENT-446 bCOMPONENT-447 bCOMPONENT-448 bCOMPONENT-449
bCOMPONENT-450 bCOMPONENT-451 bCOMPONENT-452 bCOMPONENT-453 bCOMPONENT-454 bCOMPONENT-455
bCOMPONENT-456 bCOMPONENT-457 bCOMPONENT-458 bCOMPONENT-459 bCOMPONENT-460 bCOMPONENT-461
bCOMPONENT-462 bCOMPONENT-463 bCOMPONENT-464 bCOMPONENT-465 bCOMPONENT-466 bCOMPONENT-467
bCOMPONENT-468 bCOMPONENT-469 bCOMPONENT-470 bCOMPONENT-471 bCOMPONENT-472 bCOMPONENT-473
bCOMPONENT-474 bCOMPONENT-475 bCOMPONENT-476 bCOMPONENT-477 bCOMPONENT-478 bCOMPONENT-479
bCOMPONENT-480 bCOMPONENT-481 bCOMPONENT-482 bCOMPONENT-483 bCOMPONENT-484 bCOMPONENT-485
bCOMPONENT-486 bCOMPONENT-487 bCOMPONENT-488 bCOMPONENT-489 bCOMPONENT-490 bCOMPONENT-491
bCOMPONENT-492 bCOMPONENT-493 bCOMPONENT-494 bCOMPONENT-495 bCOMPONENT-496 bCOMPONENT-497
bCOMPONENT-498 bCOMPONENT-499 bCOMPONENT-500 bCOMPONENT-501 bCOMPONENT-502 bCOMPONENT-503
bCOMPONENT-504 bCOMPONENT-505 bCOMPONENT-506 bCOMPONENT-507 bCOMPONENT-508 bCOMPONENT-509
bCOMPONENT-510 bCOMPONENT-511 bCOMPONENT-512 bCOMPONENT-513 bCOMPONENT-514 bCOMPONENT-515
bCOMPONENT-516 bCOMPONENT-517 bCOMPONENT-518 bCOMPONENT-519 bCOMPONENT-520 bCOMPONENT-521
bCOMPONENT-522 bCOMPONENT-523 bCOMPONENT-524 bCOMPONENT-525 bCOMPONENT-526 bCOMPONENT-527
bCOMPONENT-528 bCOMPONENT-529 bCOMPONENT-530 bCOMPONENT-531 bCOMPONENT-532 bCOMPONENT-533
bCOMPONENT-534 bCOMPONENT-535 bCOMPONENT-536 bCOMPONENT-537 bCOMPONENT-538 bCOMPONENT-539
bCOMPONENT-540 bCOMPONENT-541 bCOMPONENT-542 bCOMPONENT-543 bCOMPONENT-544 bCOMPONENT-545
bCOMPONENT-546 bCOMPONENT-547 bCOMPONENT-548 bCOMPONENT-549 bCOMPONENT-550 bCOMPONENT-551
bCOMPONENT-552 bCOMPONENT-553 bCOMPONENT-554 bCOMPONENT-555 bCOMPONENT-556 bCOMPONENT-557
bCOMPONENT-558 bCOMPONENT-559 bCOMPONENT-560 bCOMPONENT-561 bCOMPONENT-562 bCOMPONENT-563
bCOMPONENT-564 bCOMPONENT-565 bCOMPONENT-566 bCOMPONENT-567 bCOMPONENT-568 bCOMPONENT-569
bCOMPONENT-570 bCOMPONENT-571 bCOMPONENT-572 bCOMPONENT-573 bCOMPONENT-574 bCOMPONENT-575
bCOMPONENT-576 bCOMPONENT-577 bCOMPONENT-578 bCOMPONENT-579 bCOMPONENT-580 bCOMPONENT-581
bCOMPONENT-582 bCOMPONENT-583 bCOMPONENT-584 bCOMPONENT-585 bCOMPONENT-586 bCOMPONENT-587
bCOMPONENT-588 bCOMPONENT-589 bCOMPONENT-590 bCOMPONENT-591 bCOMPONENT-592 bCOMPONENT-593
bCOMPONENT-594 bCOMPONENT-595 bCOMPONENT-596 bCOMPONENT-597 bCOMPONENT-598 bCOMPONENT-599
bCOMPONENT-600 bCOMPONENT-601 bCOMPONENT-602 bCOMPONENT-603 bCOMPONENT-604 bCOMPONENT-605
bCOMPONENT-606 bCOMPONENT-607 bCOMPONENT-608 bCOMPONENT-609 bCOMPONENT-610 bCOMPONENT-611
bCOMPONENT-612 bCOMPONENT-613 bCOMPONENT-614 bCOMPONENT-615 bCOMPONENT-616 bCOMPONENT-617
bCOMPONENT-618 bCOMPONENT-619 bCOMPONENT-620 bCOMPONENT-621 bCOMPONENT-622 bCOMPONENT-623
bCOMPONENT-624 bCOMPONENT-625 bCOMPONENT-626 bCOMPONENT-627 bCOMPONENT-628 bCOMPONENT-629
bCOMPONENT-630 bCOMPONENT-631 bCOMPONENT-632 bCOMPONENT-633 bCOMPONENT-634 bCOMPONENT-635
bCOMPONENT-636 bCOMPONENT-637 bCOMPONENT-638 bCOMPONENT-639 bCOMPONENT-640 bCOMPONENT-641
bCOMPONENT-642 bCOMPONENT-643 bCOMPONENT-644 bCOMPONENT-645 bCOMPONENT-646 bCOMPONENT-647
bCOMPONENT-648 bCOMPONENT-649 bCOMPONENT-650 bCOMPONENT-651 bCOMPONENT-652 bCOMPONENT-653
bCOMPONENT-654 bCOMPONENT-655 bCOMPONENT-656 bCOMPONENT-657 bCOMPONENT-658 bCOMPONENT-659
bCOMPONENT-660 bCOMPONENT-661 bCOMPONENT-662 bCOMPONENT-663 bCOMPONENT-664 bCOMPONENT-665
bCOMPONENT-666 bCOMPONENT-667 bCOMPONENT-668 bCOMPONENT-669 bCOMPONENT-670 bCOMPONENT-671
bCOMPONENT-672 bCOMPONENT-673 bCOMPONENT-674 bCOMPONENT-675 bCOMPONENT-676 bCOMPONENT-677
bCOMPONENT-678 bCOMPONENT-679 bCOMPONENT-680 bCOMPONENT-681 bCOMPONENT-682 bCOMPONENT-683
bCOMPONENT-684 bCOMPONENT-685 bCOMPONENT-686 bCOMPONENT-687 bCOMPONENT-688 bCOMPONENT-689
bCOMPONENT-690 bCOMPONENT-691 bCOMPONENT-692 bCOMPONENT-693 bCOMPONENT-694 bCOMPONENT-695
bCOMPONENT-696 bCOMPONENT-697 bCOMPONENT-698 bCOMPONENT-699 bCOMPONENT-700 bCOMPONENT-701
bCOMPONENT-702 bCOMPONENT-703 bCOMPONENT-704 bCOMPONENT-705 bCOMPONENT-706 bCOMPONENT-707
bCOMPONENT-708 bCOMPONENT-709 bCOMPONENT-710 bCOMPONENT-711 bCOMPONENT-712 bCOMPONENT-713
bCOMPONENT-714 bCOMPONENT-715 bCOMPONENT-716 bCOMPONENT-717 bCOMPONENT-718 bCOMPONENT-719
bCOMPONENT-720 bCOMPONENT-721 bCOMPONENT-722 bCOMPONENT-723 bCOMPONENT-724 bCOMPONENT-725
bCOMPONENT-726 bCOMPONENT-727 bCOMPONENT-728 bCOMPONENT-729 bCOMPONENT-730 bCOMPONENT-731
bCOMPONENT-732 bCOMPONENT-733 bCOMPONENT-734 bCOMPONENT-735 bCOMPONENT-736 bCOMPONENT-737
bCOMPONENT-738 bCOMPONENT-739 bCOMPONENT-740 bCOMPONENT-741 bCOMPONENT-742 bCOMPONENT-743
bCOMPONENT-744 bCOMPONENT-745 bCOMPONENT-746 bCOMPONENT-747 bCOMPONENT-748 bCOMPONENT-749
bCOMPONENT-750 bCOMPONENT-751 bCOMPONENT-752 bCOMPONENT-753 bCOMPONENT-754 bCOMPONENT-755
bCOMPONENT-756 bCOMPONENT-757 bCOMPONENT-758 bCOMPONENT-759 bCOMPONENT-760 bCOMPONENT-761
bCOMPONENT-762 bCOMPONENT-763 bCOMPONENT-764 bCOMPONENT-765 bCOMPONENT-766 bCOMPONENT-767
bCOMPONENT-768 bITERATION MARK aTAPE CARTRIDGE bDRIVE aTAURUS aTAXI aTEACUP WITHOUT HANDLE aTEAPOT
aTEAR-OFF CALENDAR aTEARDROP-BARBED RIGHTWARDS ARROW aTEARDROP-SPOKED ASTERISK aTEDDY BEAR
aTELEPHONE LOCATION SIGN bON TOP OF MODEM bRECEIVER cWITH PAGE bRECORDER bSIGN aTELESCOPE
aTELEVISION aTELUGU AI LENGTH MARK bDIGIT EIGHT cFIVE cFOUR cNINE cONE cSEVEN cSIX cTHREE cTWO
cZERO bFRACTION DIGIT ONE FOR EVEN POWERS OF FOUR fODD POWERS OF FOUR dTHREE FOR EVEN POWERS OF
FOUR fODD POWERS OF FOUR dTWO FOR EVEN POWERS OF FOUR fODD POWERS OF FOUR dZERO FOR ODD POWERS OF
FOUR bLENGTH MARK bLETTER A cAA cAI cAU cBA cBHA cCA cCHA cDA cDDA cDDHA cDHA cDZA cE cEE cGA cGHA
cHA cI cII cJA cJHA cKA cKHA cLA cLLA cLLLA cMA cNA cNAKAARA POLLU cNGA cNNA cNYA cO cOO cPA cPHA
cRA cRRA cRRRA cSA cSHA cSSA cTA cTHA cTSA cTTA cTTHA cU cUU cVA cVOCALIC L dLL dR dRR cYA bSIGN
ANUSVARA cAVAGRAHA cCANDRABINDU cCOMBINING ANUSVARA ABOVE dCANDRABINDU ABOVE cNUKTA cSIDDHAM
cTUUMU cVIRAMA cVISARGA bVOWEL SIGN AA dAI dAU dE dEE dI dII dO dOO dU dUU dVOCALIC L eLL eR eRR
aTENGE SIGN aTENNIS RACQUET AND BALL aTENT aTEST TUBE aTETRAGRAM FOR ACCUMULATION cADVANCE
cAGGRAVATION cASCENT cBARRIER cBOLD RESOLUTION cBRANCHING OUT cCENTRE cCHANGE cCLOSED MOUTH
cCLOSENESS cCLOSURE cCOMPLETION cCOMPLIANCE cCONSTANCY cCONTACT cCONTENTION cCONTRARIETY
cDARKENING cDECISIVENESS cDEFECTIVENESS OR DISTORTION cDEPARTURE cDIFFICULTIES cDIMINISHMENT
cDIMMING cDIVERGENCE cDOUBT cDUTIES cEASE cEMBELLISHMENT cENCOUNTERS cENDEAVOUR cENLARGEMENT
cETERNITY cEXHAUSTION cFAILURE cFLIGHT cFOLLOWING cFOSTERING cFULL CIRCLE cFULLNESS cGATHERING dIN
cGOING TO MEET cGREATNESS cGUARDEDNESS cHARDNESS cHOLDING BACK cINCREASE cINNER cJOY cKEEPING
SMALL cKINSHIP cLABOURING cLAW OR MODEL cLEGION cMASSING cMEASURE cMIRED cON THE VERGE cOPPOSITION
cPACKING cPATTERN cPENETRATION cPURITY cREACH cRELEASE cRESIDENCE cRESISTANCE cRESPONSE cRITUAL
cSEVERANCE cSINKING cSTOPPAGE cSTOVE cSTRENGTH cUNITY cVASTNESS OR WASTING cWAITING cWATCH
cYOUTHFULNESS aTHAANA AABAAFILI bABAFILI bEBEFILI bEEBEEFILI bEYBEYFILI bIBIFILI bLETTER AINU
cALIFU cBAA cCHAVIYANI cDAADHU cDAVIYANI cDHAALU cFAAFU cGAAFU cGHAINU cGNAVIYANI cHAA cHHAA
cJAVIYANI cKAAFU cKHAA cLAAMU cLHAVIYANI cMEEMU cNAA cNOONU cPAVIYANI cQAAFU cRAA cSAADHU cSEENU
cSHAVIYANI cSHEENU cTAVIYANI cTHAA cTHAALU cTO cTTAA cVAAVU cWAAVU cYAA cZAA cZAVIYANI cZO
bOABOAFILI bOBOFILI bOOBOOFILI bSUKUN bUBUFILI aTHAI CHARACTER ANGKHANKHU cBO BAIMAI cCHO CHAN
dCHANG dCHING dCHOE cDO CHADA dDEK cFO FA dFAN cFONGMAN cHO HIP dNOKHUK cKHO KHAI dKHON dKHUAT
dKHWAI dRAKHANG cKHOMUT cKO KAI cLAKKHANGYAO cLO CHULA dLING cLU cMAI CHATTAWA dEK dHAN-AKAT dTHO
dTRI cMAITAIKHU cMAIYAMOK cMO MA cNGO NGU cNIKHAHIT cNO NEN dNU cO ANG cPAIYANNOI cPHINTHU cPHO
PHAN dPHUNG dSAMPHAO cPO PLA cRO RUA cRU cSARA A dAA dAE dAI MAIMALAI eMAIMUAN dAM dE dI dII dO dU
dUE dUEE dUU cSO RUSI dSALA dSO dSUA cTHANTHAKHAT cTHO NANGMONTHO dPHUTHAO dTHAHAN dTHAN dTHONG
dTHUNG cTO PATAK dTAO cWO WAEN cYAMAKKAN cYO YAK dYING bCURRENCY SYMBOL BAHT bDIGIT EIGHT cFIVE
cFOUR cNINE cONE cSEVEN cSIX cTHREE cTWO cZERO aTHERE DOES NOT EXIST bEXISTS aTHEREFORE
aTHERMODYNAMIC aTHERMOMETER aTHIN GREEK CROSS bSALTIRE bSPACE aTHINKING FACE aTHIRD PLACE MEDAL
aTHONG SANDAL aTHOUGHT BALLOON aTHREE BUTTON MOUSE bCONSECUTIVE EQUALS SIGNS bDIMENSIONAL ANGLE
bDOT PUNCTUATION bLEFTWARDS ARROWS bLINES CONVERGING LEFT dRIGHT bNETWORKED COMPUTERS bPOINTED
BLACK STAR bRAYS ABOVE cBELOW cLEFT cRIGHT bRIGHTWARDS ARROWS bSPEECH BUBBLES aTHREE-D
BOTTOM-LIGHTED RIGHTWARDS ARROWHEAD bLEFT-LIGHTED DOWNWARDS EQUILATERAL ARROWHEAD bRIGHT-LIGHTED
UPWARDS EQUILATERAL ARROWHEAD bTOP-LIGHTED LEFTWARDS EQUILATERAL ARROWHEAD cRIGHTWARDS ARROWHEAD
dEQUILATERAL ARROWHEAD aTHREE-EM DASH aTHREE-PER-EM SPACE aTHUMBS DOWN SIGN bUP SIGN aTHUNDER
CLOUD AND RAIN aTHUNDERSTORM aTIBETAN ASTROLOGICAL SIGN -KHYUD PA dSDONG TSHUGS dSGRA GCAN -CHAR
RTAGS bCANTILLATION SIGN CANG TE-U dHEAVY BEAT dLIGHT BEAT dSBUB -CHAL bDIGIT EIGHT cFIVE cFOUR
cHALF EIGHT dFIVE dFOUR dNINE dONE dSEVEN dSIX dTHREE dTWO dZERO cNINE cONE cSEVEN cSIX cTHREE
cTWO cZERO bKU RU KHA eBZHI MIG CAN bLETTER -A cA cBA cBHA cCA cCHA cDA cDDA cDDHA cDHA cDZA cDZHA
cFIXED-FORM RA cGA cGHA cHA cJA cKA cKHA cKKA cKSSA cLA cMA cNA cNGA cNNA cNYA cPA cPHA cRA cRRA
cSA cSHA cSSA cTA cTHA cTSA cTSHA cTTA cTTHA cWA cYA cZA cZHA bLOGOTYPE SIGN CHAD RTAGS dLHAG
RTAGS bMARK ANG KHANG GYAS eGYON cBKA- SHOG GI MGO RGYAN eYIG MGO cBSDUS RTAGS cBSKA- SHOG GI MGO
RGYAN cBSKUR YIG MGO cCARET -DZUD RTAGS BZHI MIG CAN fME LONG CAN dYIG MGO PHUR SHAD MA cCHE MGO
cCLOSING BRDA RNYING YIG MGO SGAB MA dYIG MGO SGAB MA cDELIMITER TSHEG BSTAR cGTER TSHEG dYIG MGO
-UM GTER TSHEG MA gRNAM BCAD MA fTRUNCATED A cGUG RTAGS GYAS eGYON cHALANTA cINITIAL BRDA RNYING
YIG MGO MDUN MA dYIG MGO MDUN MA cINTERSYLLABIC TSHEG cLEADING MCHAN RTAGS cMNYAM YIG GI MGO RGYAN
cNGAS BZUNG NYI ZLA eSGOR RTAGS cNYIS SHAD dTSHEG eSHAD cPALUTA cRGYA GRAM SHAD cRIN CHEN SPUNGS
SHAD cSBRUL SHAD cSHAD cTRAILING MCHAN RTAGS cTSA -PHRU cTSHEG SHAD cYIG MGO TSHEG SHAD MA bSIGN
GRU CAN RGYINGS dMED RGYINGS cINVERTED MCHU CAN cLCE TSA CAN cLCI RTAGS cMAR TSHES cMCHU CAN cNYI
ZLA NAA DA cRDEL DKAR GCIG eGNYIS eGSUM eRDEL NAG dNAG GCIG eGNYIS eGSUM eRDEL DKAR cRJES SU NGA
RO cRNAM BCAD cSNA LDAN cYANG RTAGS cYAR TSHES bSUBJOINED LETTER -A dA dBA dBHA dCA dCHA dDA dDDA
dDDHA dDHA dDZA dDZHA dFIXED-FORM RA eWA eYA dGA dGHA dHA dJA dKA dKHA dKSSA dLA dMA dNA dNGA dNNA
dNYA dPA dPHA dRA dSA dSHA dSSA dTA dTHA dTSA dTSHA dTTA dTTHA dWA dYA dZA dZHA cSIGN INVERTED
MCHU CAN dLCE TSA CAN dMCHU CAN bSYLLABLE OM bSYMBOL DRIL BU cNOR BU eBZHI -KHYIL eGSUM -KHYIL
eNYIS -KHYIL cPADMA GDAN cPHUR PA cRDO RJE eRGYA GRAM bVOWEL SIGN AA dE dEE dI dII dO dOO
dREVERSED I eII dU dUU dVOCALIC L eLL eR eRR aTICKET aTIE OVER INFINITY aTIFINAGH CONSONANT JOINER
bLETTER AHAGGAR YAZH cAYER YAGH cBERBER ACADEMY YAH eYAJ cTAWELLEMET YAZ cTUAREG YAGH dYAGN dYAH
dYAK dYAKH dYANG dYAQ dYAZH cYA cYAA cYAB cYABH cYACH cYAD cYADD cYADDH cYADH cYAF cYAG cYAGH
cYAGHH cYAH cYAHH cYAJ cYAK cYAKH cYAKHH cYAL cYAM cYAN cYAP cYAQ cYAR cYARR cYAS cYASH cYASS cYAT
cYATH cYATT cYAV cYAW cYAY cYAZ cYAZH cYAZZ cYE cYEY cYI cYO cYU bMODIFIER LETTER LABIALIZATION
MARK bSEPARATOR MARK aTIGER bFACE aTIGHT TRIFOLIATE SNOWFLAKE aTILDE bOPERATOR cABOVE LEFTWARDS
ARROW dRIGHTWARDS ARROW cWITH DOT ABOVE dRISING DOTS bWITH DOT ABOVE dBELOW cRING ABOVE aTIMER
CLOCK aTIMES WITH LEFT HALF BLACK cRIGHT HALF BLACK aTINY bTWO DOTS OVER ONE DOT PUNCTUATION
aTIRED FACE aTIRHUTA ABBREVIATION SIGN bANJI bDIGIT EIGHT cFIVE cFOUR cNINE cONE cSEVEN cSIX
cTHREE cTWO cZERO bGVANG bLETTER A cAA cAI cAU cBA cBHA cCA cCHA cDA cDDA cDDHA cDHA cE cGA cGHA
cHA cI cII cJA cJHA cKA cKHA cLA cMA cNA cNGA cNNA cNYA cO cPA cPHA cRA cSA cSHA cSSA cTA cTHA
cTTA cTTHA cU cUU cVA cVOCALIC L dLL dR dRR cYA bOM bSIGN ANUSVARA cAVAGRAHA cCANDRABINDU cNUKTA
cVIRAMA cVISARGA bVOWEL SIGN AA dAI dAU dE dI dII dO dSHORT E eO dU dUU dVOCALIC L eLL eR eRR
aTIRONIAN SIGN CAPITAL ET cET aTOILET aTOKYO TOWER aTOMATO aTONGUE aTOOLBOX aTOOTH aTOOTHBRUSH
aTOP ARC ANTICLOCKWISE ARROW eWITH PLUS cCLOCKWISE ARROW WITH MINUS bCURLY BRACKET bHALF BLACK
CIRCLE cINTEGRAL cLEFT PARENTHESIS cRIGHT PARENTHESIS cSECTION SIGN bHAT bLEFT CORNER cCROP cHALF
BRACKET bPARENTHESIS bRIGHT CORNER cCROP cHALF BRACKET bSQUARE BRACKET bTORTOISE SHELL BRACKET
bWITH UPWARDS ARROW ABOVE aTORTOISE SHELL BRACKETED CJK UNIFIED IDEOGRAPH-4E09 fIDEOGRAPH-4E8C
fIDEOGRAPH-52DD fIDEOGRAPH-5B89 fIDEOGRAPH-6253 fIDEOGRAPH-6557 fIDEOGRAPH-672C fIDEOGRAPH-70B9
fIDEOGRAPH-76D7 dLATIN CAPITAL LETTER S aTOTAL RUNOUT aTOTO LETTER A cAE cBA cBREATHY AE dE dEO dI
dIU cCHA cDA cE cEO cGA cHA cI cIU cJA cKA cLA cMA cNA cNGA cO cPA cRA cSA cTA cU cWA cYA bSIGN
RISING TONE aTRACKBALL aTRACTOR aTRADE MARK SIGN aTRAIN aTRAM bCAR aTRANSPLUTO aTRANSVERSAL
INTERSECTION aTRIANGLE WITH DOT ABOVE cROUNDED CORNERS cSERIFS AT BOTTOM cUNDERBAR
aTRIANGLE-HEADED RIGHTWARDS ARROW aTRIANGULAR BULLET bFLAG ON POST bRULER aTRICOLON aTRIDENT
EMBLEM aTRIGRAM FOR EARTH cFIRE cHEAVEN cLAKE cMOUNTAIN cTHUNDER cWATER cWIND aTRIPLE COLON
OPERATOR bDAGGER bHORIZONTAL BAR WITH DOUBLE VERTICAL STROKE eTRIPLE VERTICAL STROKE bINTEGRAL
bNESTED GREATER-THAN cLESS-THAN bPLUS bPRIME bSOLIDUS BINARY RELATION bTILDE bVERTICAL BAR BINARY
RELATION dDELIMITER dRIGHT TURNSTILE dWITH HORIZONTAL STROKE aTROLL aTROLLEYBUS aTROPHY aTROPICAL
DRINK bFISH aTRUE bLIGHT MOON ARTA aTRUMPET aTUGRIK SIGN aTULIP aTUMBLER GLASS aTURKEY aTURKISH
LIRA SIGN aTURNED AMPERSAND bANGLE bBLACK PENTAGON cSHOGI PIECE bCAPITAL F bCOMMA bDAGGER bDIGIT
THREE cTWO bGREEK SMALL LETTER IOTA bNORTH EAST POINTING LEAF cWEST POINTING LEAF bNOT SIGN bOK
HAND SIGN bSANS-SERIF CAPITAL G dL dY bSEMICOLON bSMALL F bSOUTH EAST POINTING LEAF cWEST POINTING
LEAF bWHITE SHOGI PIECE aTURTLE aTWELVE POINTED BLACK STAR aTWISTED RIGHTWARDS ARROWS aTWO
ASTERISKS ALIGNED VERTICALLY bBUTTON MOUSE bCONSECUTIVE EQUALS SIGNS bDOT LEADER cPUNCTUATION
bDOTS OVER ONE DOT PUNCTUATION bHEARTS bINTERSECTING LOGICAL AND dOR bJOINED SQUARES bLOGICAL AND
OPERATOR cOR OPERATOR bMEN HOLDING HANDS bSPEECH BUBBLES bWOMEN HOLDING HANDS aTWO-EM DASH"

end NetLookup.Text.CharacterName
