/-!
# The table of character names

The names of the characters of the Unicode standard, version 14, that no
rule makes, and the other names that the standard gives to some characters.
They are written as an outline of words, in the order of the alphabet: each
word follows its depth, which is a small letter, and continues what stands
before it at the depths above. A colon behind a word says that no name ends
with it.
-/

namespace LocalServer.Text

/-- **The outline of the names.** -/
def characterNameTable : List String :=
  ["aABACUS aAC: bCURRENT aACCORDION aACCOUNT: bOF aACK aACKNOWLEDGE aACTIVATE: bARABIC: cFORM:",
   "dSHAPING bSYMMETRIC: cSWAPPING aACUTE: bACCENT bANGLE aADDRESSED: bTO: cTHE: dSUBJECT",
   "aADHESIVE: bBANDAGE aADI: bSHAKTI aADLAM: bALIF: cLENGTHENER bCAPITAL: cLETTER: dALIF dBA dBHE",
   "dCHI dDAALI dDHA dE dFA dGA dGBE dHA dI dJIIM dKAF dKHA dKPO dLAAM dMIIM dNHA dNUN dNYA dO dPE",
   "dQAAF dRA dSHA dSINNYIIYHE dTU dU dVA dWAW dYA dYHE dZAL bCONSONANT: cMODIFIER bDIGIT: cEIGHT",
   "cFIVE cFOUR cNINE cONE cSEVEN cSIX cTHREE cTWO cZERO bGEMINATE: cCONSONANT: dMODIFIER",
   "bGEMINATION: cMARK bHAMZA bINITIAL: cEXCLAMATION: dMARK cQUESTION: dMARK bNASALIZATION: cMARK",
   "bNUKTA bSMALL: cLETTER: dALIF dBA dBHE dCHI dDAALI dDHA dE dFA dGA dGBE dHA dI dJIIM dKAF dKHA",
   "dKPO dLAAM dMIIM dNHA dNUN dNYA dO dPE dQAAF dRA dSHA dSINNYIIYHE dTU dU dVA dWAW dYA dYHE",
   "dZAL bVOWEL: cLENGTHENER aADMETOS aADMISSION: bTICKETS aADULT aAEGEAN: bCHECK: cMARK bDRY:",
   "cMEASURE: dFIRST: eSUBUNIT bLIQUID: cMEASURE: dFIRST: eSUBUNIT bMEASURE: cSECOND: dSUBUNIT",
   "cTHIRD: dSUBUNIT bNUMBER: cEIGHT dHUNDRED dTHOUSAND cEIGHTY dTHOUSAND cFIFTY dTHOUSAND cFIVE",
   "dHUNDRED dTHOUSAND cFORTY dTHOUSAND cFOUR dHUNDRED dTHOUSAND cNINE dHUNDRED dTHOUSAND cNINETY",
   "dTHOUSAND cONE dHUNDRED dTHOUSAND cSEVEN dHUNDRED dTHOUSAND cSEVENTY dTHOUSAND cSIX dHUNDRED",
   "dTHOUSAND cSIXTY dTHOUSAND cTEN dTHOUSAND cTHIRTY dTHOUSAND cTHREE dHUNDRED dTHOUSAND cTWENTY",
   "dTHOUSAND cTWO dHUNDRED dTHOUSAND bWEIGHT: cBASE: dUNIT cFIRST: dSUBUNIT cFOURTH: dSUBUNIT",
   "cSECOND: dSUBUNIT cTHIRD: dSUBUNIT bWORD: cSEPARATOR: dDOT dLINE aAERIAL: bTRAMWAY aAFGHANI:",
   "bSIGN aAHOM: bCONSONANT: cSIGN: dMEDIAL: eLA eLIGATING: fRA eRA bDIGIT: cEIGHT cFIVE cFOUR",
   "cNINE cONE cSEVEN cSIX cTHREE cTWO cZERO bLETTER: cA cALTERNATE: dBA dGA dTA cBA cBHA cCA cCHA",
   "cDA cDDA cDDHA cDHA cGA cGHA cHA cJA cJHA cKA cKHA cLA cLLA cMA cNA cNGA cNNA cNYA cPA cPHA",
   "cRA cSA cTA cTHA cTTA cTTHA bNUMBER: cTEN cTWENTY bSIGN: cKILLER cRULAI cSECTION cSMALL:",
   "dSECTION bSYMBOL: cVI bVOWEL: cSIGN: dA dAA dAI dAM dAW dE dI dII dO dU dUU aAIRPLANE",
   "bARRIVING bDEPARTURE aAKTIESELSKAB aALARM: bCLOCK aALCHEMICAL: bSYMBOL: cFOR: dAIR dALEMBIC",
   "dALKALI dALKALI-2 dALUM dAMALGAM dANTIMONY: eORE dAQUA: eREGIA eREGIA-2 eVITAE eVITAE-2",
   "dAQUAFORTIS dARSENIC dASHES dAURIPIGMENT dBATH: eOF: fMARY fVAPOURS dBISMUTH: eORE dBLACK:",
   "eSULFUR dBORAX dBORAX-2 dBORAX-3 dBRICK dCADUCEUS dCALX dCAPUT: eMORTUUM dCINNABAR dCOPPER:",
   "eANTIMONIATE eORE dCROCUS: eOF: fCOPPER fCOPPER-2 fIRON dCRUCIBLE dCRUCIBLE-2 dCRUCIBLE-3",
   "dCRUCIBLE-4 dCRUCIBLE-5 dDAY-NIGHT dDISSOLVE dDISSOLVE-2 dDISTILL dEARTH dFIRE dGOLD dGUM",
   "dHALF: eDRAM eOUNCE dHORSE: eDUNG dHOUR dIRON: eORE eORE-2 dIRON-COPPER: eORE dLEAD: eORE",
   "dLODESTONE dMARCASITE dMERCURY: eSUBLIMATE eSUBLIMATE-2 eSUBLIMATE-3 dMONTH dNIGHT dNITRE dOIL",
   "dPHILOSOPHERS: eSULFUR dPOT: eASHES dPOWDER dPOWDERED: eBRICK dPRECIPITATE dPURIFY",
   "dPUTREFACTION dQUICK: eLIME dQUINTESSENCE dREALGAR dREALGAR-2 dREGULUS eOF: fANTIMONY",
   "fANTIMONY-2 fIRON dREGULUS-2 dREGULUS-3 dREGULUS-4 dRETORT dROCK: eSALT eSALT-2 dSAL-AMMONIAC",
   "dSALT eOF: fANTIMONY fCOPPER: gANTIMONIATE dSCEPTER: eOF: fJOVE dSILVER dSOAP dSPIRIT",
   "dSTARRED: eTRIDENT dSTRATUM: eSUPER: fSTRATUM fSTRATUM-2 dSUBLIMATE: eOF: fANTIMONY fCOPPER",
   "fSALT: gOF: hANTIMONY hCOPPER dSUBLIMATION dSULFUR dTARTAR dTARTAR-2 dTIN: eORE dTINCTURE",
   "dTRIDENT dTUTTY dURINE dVERDIGRIS dVINEGAR eOF: fANTIMONY dVINEGAR-2 dVINEGAR-3 dVITRIOL",
   "dVITRIOL-2 dWATER dWAX aALEF: bSYMBOL aALEMBIC aALERT aALIEN: bMONSTER aALL: bAROUND-PROFILE",
   "bEQUAL: cTO aALM aALMOST: bEQUAL: cOR: dEQUAL: eTO cTO dWITH: eCIRCUMFLEX: fACCENT aALTERNATE:",
   "bONE-WAY: cLEFT: dWAY: eTRAFFIC aALTERNATIVE: bKEY: cSYMBOL aAMALGAMATION: bOR: cCOPRODUCT",
   "aAMBULANCE aAMERICAN: bFOOTBALL aAMPERSAND aAMPHORA aANATOLIAN: bHIEROGLYPH: cA001 cA002 cA003",
   "cA004 cA005 cA006 cA007 cA008 cA009 cA010 cA010A cA011 cA012 cA013 cA014 cA015 cA016 cA017",
   "cA018 cA019 cA020 cA021 cA022 cA023 cA024 cA025 cA026 cA026A cA027 cA028 cA029 cA030 cA031",
   "cA032 cA033 cA034 cA035 cA036 cA037 cA038 cA039 cA039A cA040 cA041 cA041A cA042 cA043 cA044",
   "cA045 cA045A cA046 cA046A cA046B cA047 cA048 cA049 cA050 cA051 cA052 cA053 cA054 cA055 cA056",
   "cA057 cA058 cA059 cA060 cA061 cA062 cA063 cA064 cA065 cA066 cA066A cA066B cA066C cA067 cA068",
   "cA069 cA070 cA071 cA072 cA073 cA074 cA075 cA076 cA077 cA078 cA079 cA080 cA081 cA082 cA083",
   "cA084 cA085 cA086 cA087 cA088 cA089 cA090 cA091 cA092 cA093 cA094 cA095 cA096 cA097 cA097A",
   "cA098 cA098A cA099 cA100 cA100A cA101 cA101A cA102 cA102A cA103 cA104 cA104A cA104B cA104C",
   "cA105 cA105A cA105B cA106 cA107 cA107A cA107B cA107C cA108 cA109 cA110 cA110A cA110B cA111",
   "cA112 cA113 cA114 cA115 cA115A cA116 cA117 cA118 cA119 cA120 cA121 cA122 cA123 cA124 cA125",
   "cA125A cA126 cA127 cA128 cA129 cA130 cA131 cA132 cA133 cA134 cA135 cA135A cA136 cA137 cA138",
   "cA139 cA140 cA141 cA142 cA143 cA144 cA145 cA146 cA147 cA148 cA149 cA150 cA151 cA152 cA153",
   "cA154 cA155 cA156 cA157 cA158 cA159 cA160 cA161 cA162 cA163 cA164 cA165 cA166 cA167 cA168",
   "cA169 cA170 cA171 cA172 cA173 cA174 cA175 cA176 cA177 cA178 cA179 cA180 cA181 cA182 cA183",
   "cA184 cA185 cA186 cA187 cA188 cA189 cA190 cA191 cA192 cA193 cA194 cA195 cA196 cA197 cA198",
   "cA199 cA200 cA201 cA202 cA202A cA202B cA203 cA204 cA205 cA206 cA207 cA207A cA208 cA209 cA209A",
   "cA210 cA211 cA212 cA213 cA214 cA215 cA215A cA216 cA216A cA217 cA218 cA219 cA220 cA221 cA222",
   "cA223 cA224 cA225 cA226 cA227 cA227A cA228 cA229 cA230 cA231 cA232 cA233 cA234 cA235 cA236",
   "cA237 cA238 cA239 cA240 cA241 cA242 cA243 cA244 cA245 cA246 cA247 cA248 cA249 cA250 cA251",
   "cA252 cA253 cA254 cA255 cA256 cA257 cA258 cA259 cA260 cA261 cA262 cA263 cA264 cA265 cA266",
   "cA267 cA267A cA268 cA269 cA270 cA271 cA272 cA273 cA274 cA275 cA276 cA277 cA278 cA279 cA280",
   "cA281 cA282 cA283 cA284 cA285 cA286 cA287 cA288 cA289 cA289A cA290 cA291 cA292 cA293 cA294",
   "cA294A cA295 cA296 cA297 cA298 cA299 cA299A cA300 cA301 cA302 cA303 cA304 cA305 cA306 cA307",
   "cA308 cA309 cA309A cA310 cA311 cA312 cA313 cA314 cA315 cA316 cA317 cA318 cA319 cA320 cA321",
   "cA322 cA323 cA324 cA325 cA326 cA327 cA328 cA329 cA329A cA330 cA331 cA332A cA332B cA332C cA333",
   "cA334 cA335 cA336 cA336A cA336B cA336C cA337 cA338 cA339 cA340 cA341 cA342 cA343 cA344 cA345",
   "cA346 cA347 cA348 cA349 cA350 cA351 cA352 cA353 cA354 cA355 cA356 cA357 cA358 cA359 cA359A",
   "cA360 cA361 cA362 cA363 cA364 cA364A cA365 cA366 cA367 cA368 cA368A cA369 cA370 cA371 cA371A",
   "cA372 cA373 cA374 cA375 cA376 cA377 cA378 cA379 cA380 cA381 cA381A cA382 cA383: dRA: eOR: fRI",
   "cA383A cA384 cA385 cA386 cA386A cA387 cA388 cA389 cA390 cA391 cA392 cA393: dEIGHT cA394 cA395",
   "cA396 cA397 cA398 cA399 cA400 cA401 cA402 cA403 cA404 cA405 cA406 cA407 cA408 cA409 cA410:",
   "dBEGIN: eLOGOGRAM: fMARK cA410A: dEND: eLOGOGRAM: fMARK cA411 cA412 cA413 cA414 cA415 cA416",
   "cA417 cA418 cA419 cA420 cA421 cA422 cA423 cA424 cA425 cA426 cA427 cA428 cA429 cA430 cA431",
   "cA432 cA433 cA434 cA435 cA436 cA437 cA438 cA439 cA440 cA441 cA442 cA443 cA444 cA445 cA446",
   "cA447 cA448 cA449 cA450 cA450A cA451 cA452 cA453 cA454 cA455 cA456 cA457 cA457A cA458 cA459",
   "cA460 cA461 cA462 cA463 cA464 cA465 cA466 cA467 cA468 cA469 cA470 cA471 cA472 cA473 cA474",
   "cA475 cA476 cA477 cA478 cA479 cA480 cA481 cA482 cA483 cA484 cA485 cA486 cA487 cA488 cA489",
   "cA490 cA491 cA492 cA493 cA494 cA495 cA496 cA497 cA501 cA502 cA503 cA504 cA505 cA506 cA507",
   "cA508 cA509 cA510 cA511 cA512 cA513 cA514 cA515 cA516 cA517 cA518 cA519 cA520 cA521 cA522",
   "cA523 cA524 cA525 cA526 cA527 cA528 cA529 cA530 aANATOMICAL: bHEART aANCHOR aAND: bWITH: cDOT",
   "aANGER: bSYMBOL aANGLE bWITH: cS: dINSIDE cUNDERBAR aANGRY: bFACE aANGSTROM: bSIGN aANGUISHED:",
   "bFACE aANKH aANT aANTENNA: bWITH: cBARS aANTICLOCKWISE: bCLOSED: cCIRCLE: dARROW bCONTOUR:",
   "cINTEGRAL bDOWNWARDS: cAND: dUPWARDS: eOPEN: fCIRCLE: gARROWS bGAPPED: cCIRCLE: dARROW",
   "bINTEGRATION bOPEN: cCIRCLE: dARROW bTOP: cSEMICIRCLE: dARROW bTRIANGLE-HEADED: cBOTTOM:",
   "dU-SHAPED: eARROW cLEFT: dU-SHAPED: eARROW cOPEN: dCIRCLE: eARROW cRIGHT: dU-SHAPED: eARROW",
   "cTOP: dU-SHAPED: eARROW aAPC aAPL: bFUNCTIONAL: cSYMBOL: dALPHA eUNDERBAR dBACKSLASH: eBAR",
   "dCIRCLE: eBACKSLASH eDIAERESIS eJOT eSTAR eSTILE eUNDERBAR dCOMMA: eBAR dDEL: eDIAERESIS",
   "eSTILE eTILDE dDELTA: eSTILE eUNDERBAR dDIAMOND: eUNDERBAR dDOWN: eCARET: fTILDE eSHOE: fSTILE",
   "eTACK: fJOT fUNDERBAR dDOWNWARDS: eVANE dEPSILON: eUNDERBAR dGREATER-THAN: eDIAERESIS dI-BEAM",
   "dIOTA eUNDERBAR dJOT: eDIAERESIS eUNDERBAR dLEFT: eSHOE: fSTILE dLEFTWARDS: eVANE dOMEGA",
   "eUNDERBAR dQUAD eBACKSLASH eCIRCLE eCOLON eDEL eDELTA eDIAMOND eDIVIDE eDOWN: fCARET",
   "eDOWNWARDS: fARROW eEQUAL eGREATER-THAN eJOT eLEFTWARDS: fARROW eLESS-THAN eNOT: fEQUAL",
   "eQUESTION eRIGHTWARDS: fARROW eSLASH eUP: fCARET eUPWARDS: fARROW dQUOTE: eQUAD eUNDERBAR dRHO",
   "dRIGHTWARDS: eVANE dSEMICOLON: eUNDERBAR dSLASH: eBAR dSQUISH: eQUAD dSTAR: eDIAERESIS dSTILE:",
   "eTILDE dTILDE: eDIAERESIS dUP: eCARET: fTILDE eSHOE: fJOT eTACK: fDIAERESIS fJOT fOVERBAR",
   "dUPWARDS: eVANE dZILDE aAPOLLON aAPOSTROPHE aAPPLICATION: bPROGRAM: cCOMMAND aAPPROACHES:",
   "bTHE: cLIMIT aAPPROXIMATELY: bBUT: cNOT: dACTUALLY: eEQUAL: fTO bEQUAL: cOR: dEQUAL: eTO cTO",
   "dOR: eTHE: fIMAGE: gOF aAQUARIUS aARABIC: bBASELINE: cROUND: dDOT bCOMMA bCURLY: cDAMMA",
   "cDAMMATAN cFATHA cFATHATAN cKASRA cKASRATAN bDAMMA cISOLATED: dFORM cMEDIAL: dFORM cWITH: dDOT",
   "bDAMMATAN cISOLATED: dFORM bDATE: cSEPARATOR bDECIMAL: cSEPARATOR bDISPUTED: cEND: dOF: eAYAH",
   "bDOUBLE: cRIGHT: dARROWHEAD: eABOVE fWITH: gDOT bDOUBLED: cMADDA bEMPTY: cCENTRE: dHIGH: eSTOP",
   "dLOW: eSTOP bEND: cOF: dAYAH dTEXT: eMARK bFATHA cISOLATED: dFORM cMEDIAL: dFORM cWITH: dDOT:",
   "eABOVE dRING dTWO: eDOTS bFATHATAN cISOLATED: dFORM bFIVE: cPOINTED: dSTAR bFOOTNOTE: cMARKER",
   "bFULL: cSTOP bHALF: cMADDA: dOVER: eMADDA bHAMZA: cABOVE cBELOW bINVERTED: cDAMMA bKASRA",
   "cISOLATED: dFORM cMEDIAL: dFORM cWITH: dDOT: eBELOW bKASRATAN cISOLATED: dFORM bLARGE:",
   "cCIRCLE: dBELOW cROUND: dDOT: eABOVE eBELOW eINSIDE: fCIRCLE: gBELOW bLEFT: cARROWHEAD: dABOVE",
   "dBELOW bLETTER: cAE cAFRICAN: dFEH dNOON dQAF eWITH: fTHREE: gDOTS: hABOVE cAIN dFINAL: eFORM",
   "dINITIAL: eFORM dISOLATED: eFORM dMEDIAL: eFORM dWITH: eTHREE: fDOTS: gABOVE gBELOW gPOINTING:",
   "hDOWNWARDS: iABOVE eTWO: fDOTS: gABOVE gVERTICALLY: hABOVE cALEF dFINAL: eFORM dISOLATED:",
   "eFORM dMAKSURA eFINAL: fFORM eISOLATED: fFORM dWASLA eFINAL: fFORM eISOLATED: fFORM dWITH:",
   "eATTACHED: fBOTTOM: gRIGHT: hKASRA iAND: jDOT: kABOVE jLEFT: kRING fFATHA fKASRA fLEFT: gHAMZA",
   "gROUND: hDOT fRIGHT: gHAMZA gROUND: hDOT fROUND: gDOT: hABOVE hBELOW fTOP: gRIGHT: hFATHA",
   "iAND: jDOT: kABOVE jLEFT: kRING eDOT: fABOVE eEXTENDED: fARABIC-INDIC: gDIGIT: hTHREE: iABOVE",
   "hTWO: iABOVE eHAMZA: fABOVE gFINAL: hFORM gISOLATED: hFORM fBELOW gFINAL: hFORM gISOLATED:",
   "hFORM eLEFT: fMIDDLE: gSTROKE eMADDA: fABOVE gFINAL: hFORM gISOLATED: hFORM eRIGHT: fMIDDLE:",
   "gSTROKE hAND: iDOT: jABOVE iLEFT: jRING eWAVY: fHAMZA: gABOVE gBELOW cBEEH dFINAL: eFORM",
   "dINITIAL: eFORM dISOLATED: eFORM dMEDIAL: eFORM cBEH dFINAL: eFORM dINITIAL: eFORM dISOLATED:",
   "eFORM dMEDIAL: eFORM dWITH: eDOT: fBELOW: gAND: hTHREE: iDOTS: jABOVE eHAMZA: fABOVE",
   "eINVERTED: fSMALL: gV: hBELOW eSMALL: fMEEM: gABOVE fV gBELOW eTHREE: fDOTS: gHORIZONTALLY:",
   "hBELOW gPOINTING: hUPWARDS: iBELOW jAND: kTWO: lDOTS: mABOVE eTWO: fDOTS: gBELOW: hAND: iDOT:",
   "jABOVE cBEHEH dFINAL: eFORM dINITIAL: eFORM dISOLATED: eFORM dMEDIAL: eFORM cDAD dFINAL: eFORM",
   "dINITIAL: eFORM dISOLATED: eFORM dMEDIAL: eFORM dWITH: eDOT: fBELOW cDAHAL dFINAL: eFORM",
   "dISOLATED: eFORM cDAL dFINAL: eFORM dISOLATED: eFORM dWITH: eDOT: fBELOW gAND: hSMALL: iTAH",
   "eFOUR: fDOTS: gABOVE eINVERTED: fSMALL: gV: hBELOW fV eRING eTHREE: fDOTS: gABOVE: hDOWNWARDS",
   "gBELOW eTWO: fDOTS: gVERTICALLY: hBELOW: iAND: jSMALL: kTAH cDDAHAL dFINAL: eFORM dISOLATED:",
   "eFORM cDDAL dFINAL: eFORM dISOLATED: eFORM cDOTLESS: dBEH dFEH dQAF cDUL dFINAL: eFORM",
   "dISOLATED: eFORM cDYEH dFINAL: eFORM dINITIAL: eFORM dISOLATED: eFORM dMEDIAL: eFORM cE",
   "dFINAL: eFORM dINITIAL: eFORM dISOLATED: eFORM dMEDIAL: eFORM cFARSI: dYEH eFINAL: fFORM",
   "eINITIAL: fFORM eISOLATED: fFORM eMEDIAL: fFORM eWITH: fEXTENDED: gARABIC-INDIC: hDIGIT:",
   "iFOUR: jBELOW iTHREE: jABOVE iTWO: jABOVE fINVERTED: gV fTHREE: gDOTS: hABOVE fTWO: gDOTS:",
   "hABOVE cFEH dFINAL: eFORM dINITIAL: eFORM dISOLATED: eFORM dMEDIAL: eFORM dWITH: eDOT: fBELOW",
   "gAND: hTHREE: iDOTS: jABOVE fMOVED: gBELOW eTHREE: fDOTS: gBELOW gPOINTING: hUPWARDS: iBELOW",
   "eTWO: fDOTS: gBELOW cGAF dFINAL: eFORM dINITIAL: eFORM dISOLATED: eFORM dMEDIAL: eFORM dWITH:",
   "eINVERTED: fSTROKE eRING eTHREE: fDOTS: gABOVE eTWO: fDOTS: gBELOW cGHAIN dFINAL: eFORM",
   "dINITIAL: eFORM dISOLATED: eFORM dMEDIAL: eFORM dWITH: eDOT: fBELOW eTHREE: fDOTS: gABOVE",
   "cGRAF cGUEH dFINAL: eFORM dINITIAL: eFORM dISOLATED: eFORM dMEDIAL: eFORM cHAH dFINAL: eFORM",
   "dINITIAL: eFORM dISOLATED: eFORM dMEDIAL: eFORM dWITH: eEXTENDED: fARABIC-INDIC: gDIGIT:",
   "hFOUR: iBELOW eHAMZA: fABOVE eINVERTED: fSMALL: gV: hBELOW eSMALL: fARABIC: gLETTER: hTAH:",
   "iABOVE iAND: jTWO: kDOTS iBELOW eTHREE: fDOTS: gABOVE gPOINTING: hUPWARDS: iBELOW eTWO: fDOTS:",
   "gABOVE gVERTICAL: hABOVE cHAMZA dISOLATED: eFORM cHEH dDOACHASHMEE eFINAL: fFORM eINITIAL:",
   "fFORM eISOLATED: fFORM eMEDIAL: fFORM dFINAL: eFORM dGOAL eFINAL: fFORM eINITIAL: fFORM",
   "eISOLATED: fFORM eMEDIAL: fFORM eWITH: fHAMZA: gABOVE dINITIAL: eFORM dISOLATED: eFORM",
   "dMEDIAL: eFORM dWITH: eINVERTED: fV eYEH: fABOVE gFINAL: hFORM gISOLATED: hFORM cHIGH: dHAMZA",
   "eALEF eWAW eYEH cJEEM dFINAL: eFORM dINITIAL: eFORM dISOLATED: eFORM dMEDIAL: eFORM dWITH:",
   "eTHREE: fDOTS: gABOVE gBELOW eTWO: fDOTS: gABOVE cJEH dFINAL: eFORM dISOLATED: eFORM cKAF",
   "dFINAL: eFORM dINITIAL: eFORM dISOLATED: eFORM dMEDIAL: eFORM dWITH: eDOT: fABOVE fBELOW eRING",
   "eTHREE: fDOTS: gBELOW eTWO: fDOTS: gABOVE cKASHMIRI: dYEH cKEHEH dFINAL: eFORM dINITIAL: eFORM",
   "dISOLATED: eFORM dMEDIAL: eFORM dWITH: eDOT: fABOVE eSMALL: fV eTHREE: fDOTS: gABOVE gBELOW",
   "gPOINTING: hUPWARDS: iBELOW eTWO: fDOTS: gABOVE gVERTICALLY: hBELOW cKHAH dFINAL: eFORM",
   "dINITIAL: eFORM dISOLATED: eFORM dMEDIAL: eFORM cKIRGHIZ: dOE eFINAL: fFORM eISOLATED: fFORM",
   "dYU eFINAL: fFORM eISOLATED: fFORM cLAM dFINAL: eFORM dINITIAL: eFORM dISOLATED: eFORM",
   "dMEDIAL: eFORM dWITH: eBAR eDOT: fABOVE eDOUBLE: fBAR eSMALL: fARABIC: gLETTER: hTAH: iABOVE",
   "fV eTHREE: fDOTS: gABOVE gBELOW cLOW: dALEF cMARK cMEEM dFINAL: eFORM dINITIAL: eFORM",
   "dISOLATED: eFORM dMEDIAL: eFORM dWITH: eDOT: fABOVE fBELOW eTHREE: fDOTS: gABOVE cNG dFINAL:",
   "eFORM dINITIAL: eFORM dISOLATED: eFORM dMEDIAL: eFORM cNGOEH dFINAL: eFORM dINITIAL: eFORM",
   "dISOLATED: eFORM dMEDIAL: eFORM cNOON dFINAL: eFORM dGHUNNA eFINAL: fFORM eISOLATED: fFORM",
   "dINITIAL: eFORM dISOLATED: eFORM dMEDIAL: eFORM dWITH: eDOT: fBELOW eINVERTED: fSMALL: gV",
   "eRING eSMALL: fTAH fV eTHREE: fDOTS: gABOVE eTWO: fDOTS: gBELOW cNYEH dFINAL: eFORM dINITIAL:",
   "eFORM dISOLATED: eFORM dMEDIAL: eFORM cOE dFINAL: eFORM dISOLATED: eFORM cPEH dFINAL: eFORM",
   "dINITIAL: eFORM dISOLATED: eFORM dMEDIAL: eFORM dWITH: eSMALL: fMEEM: gABOVE fV cPEHEH dFINAL:",
   "eFORM dINITIAL: eFORM dISOLATED: eFORM dMEDIAL: eFORM cQAF dFINAL: eFORM dINITIAL: eFORM",
   "dISOLATED: eFORM dMEDIAL: eFORM dWITH: eDOT: fABOVE fBELOW gAND: hNO: iDOTS: jABOVE eTHREE:",
   "fDOTS: gABOVE cREH dFINAL: eFORM dISOLATED: eFORM dWITH: eDOT: fBELOW gAND: hDOT: iABOVE",
   "eFOUR: fDOTS: gABOVE eHAMZA: fABOVE eINVERTED: fV eLOOP eRING eSMALL: fARABIC: gLETTER: hTAH:",
   "iAND: jTWO: kDOTS fNOON: gABOVE fV gBELOW eSTROKE eTWO: fDOTS: gABOVE gVERTICALLY: hABOVE",
   "cRNOON dFINAL: eFORM dINITIAL: eFORM dISOLATED: eFORM dMEDIAL: eFORM cROHINGYA: dYEH cRREH",
   "dFINAL: eFORM dISOLATED: eFORM cSAD dFINAL: eFORM dINITIAL: eFORM dISOLATED: eFORM dMEDIAL:",
   "eFORM dWITH: eTHREE: fDOTS: gABOVE gBELOW eTWO: fDOTS: gBELOW cSEEN dFINAL: eFORM dINITIAL:",
   "eFORM dISOLATED: eFORM dMEDIAL: eFORM dWITH: eDOT: fBELOW: gAND: hDOT: iABOVE eEXTENDED:",
   "fARABIC-INDIC: gDIGIT: hFOUR: iABOVE eFOUR: fDOTS: gABOVE eINVERTED: fV eSMALL: fARABIC:",
   "gLETTER: hTAH: iAND: jTWO: kDOTS eTHREE: fDOTS: gBELOW hAND: iTHREE: jDOTS: kABOVE eTWO:",
   "fDOTS: gVERTICALLY: hABOVE cSHEEN dFINAL: eFORM dINITIAL: eFORM dISOLATED: eFORM dMEDIAL:",
   "eFORM dWITH: eDOT: fBELOW cSTRAIGHT: dWAW cSUPERSCRIPT: dALEF cSWASH: dKAF cTAH dFINAL: eFORM",
   "dINITIAL: eFORM dISOLATED: eFORM dMEDIAL: eFORM dWITH: eDOT: fBELOW eTHREE: fDOTS: gABOVE",
   "gBELOW eTWO: fDOTS: gABOVE cTCHEH dFINAL: eFORM dINITIAL: eFORM dISOLATED: eFORM dMEDIAL:",
   "eFORM dWITH: eDOT: fABOVE eSMALL: fV cTCHEHEH dFINAL: eFORM dINITIAL: eFORM dISOLATED: eFORM",
   "dMEDIAL: eFORM cTEH dFINAL: eFORM dINITIAL: eFORM dISOLATED: eFORM dMARBUTA eFINAL: fFORM",
   "eGOAL eISOLATED: fFORM dMEDIAL: eFORM dWITH: eRING eSMALL: fTEH: gABOVE fV eTHREE: fDOTS:",
   "gABOVE: hDOWNWARDS cTEHEH dFINAL: eFORM dINITIAL: eFORM dISOLATED: eFORM dMEDIAL: eFORM cTHAL",
   "dFINAL: eFORM dISOLATED: eFORM cTHEH dFINAL: eFORM dINITIAL: eFORM dISOLATED: eFORM dMEDIAL:",
   "eFORM cTHIN: dYEH cTTEH dFINAL: eFORM dINITIAL: eFORM dISOLATED: eFORM dMEDIAL: eFORM dWITH:",
   "eSMALL: fV cTTEHEH dFINAL: eFORM dINITIAL: eFORM dISOLATED: eFORM dMEDIAL: eFORM cU dFINAL:",
   "eFORM dISOLATED: eFORM dWITH: eHAMZA: fABOVE gISOLATED: hFORM cUIGHUR: dKAZAKH: eKIRGHIZ:",
   "fALEF: gMAKSURA: hINITIAL: iFORM hMEDIAL: iFORM cVE dFINAL: eFORM dISOLATED: eFORM cVEH",
   "dFINAL: eFORM dINITIAL: eFORM dISOLATED: eFORM dMEDIAL: eFORM cWAW dFINAL: eFORM dISOLATED:",
   "eFORM dWITH: eDOT: fABOVE fWITHIN eEXTENDED: fARABIC-INDIC: gDIGIT: hTHREE: iABOVE hTWO:",
   "iABOVE eHAMZA: fABOVE gFINAL: hFORM gISOLATED: hFORM eRING eTWO: fDOTS: gABOVE cYEH dBARREE",
   "eFINAL: fFORM eISOLATED: fFORM eWITH: fEXTENDED: gARABIC-INDIC: hDIGIT: iTHREE: jABOVE iTWO:",
   "jABOVE fHAMZA: gABOVE hFINAL: iFORM hISOLATED: iFORM dFINAL: eFORM dINITIAL: eFORM dISOLATED:",
   "eFORM dMEDIAL: eFORM dWITH: eHAMZA: fABOVE gFINAL: hFORM gINITIAL: hFORM gISOLATED: hFORM",
   "gMEDIAL: hFORM eSMALL: fV eTAIL eTHREE: fDOTS: gBELOW eTWO: fDOTS: gBELOW: hAND: iDOT: jABOVE",
   "iHAMZA: jABOVE iSMALL: jNOON: kABOVE cYU dFINAL: eFORM dISOLATED: eFORM cZAH dFINAL: eFORM",
   "dINITIAL: eFORM dISOLATED: eFORM dMEDIAL: eFORM cZAIN dFINAL: eFORM dISOLATED: eFORM dWITH:",
   "eINVERTED: fV: gABOVE bLIGATURE: cAIN: dWITH: eALEF: fMAKSURA: gFINAL: hFORM gISOLATED: hFORM",
   "eJEEM: fINITIAL: gFORM fISOLATED: gFORM fWITH: gMEEM: hFINAL: iFORM hINITIAL: iFORM eMEEM:",
   "fINITIAL: gFORM fISOLATED: gFORM fWITH: gALEF: hMAKSURA: iFINAL: jFORM gMEEM: hFINAL: iFORM",
   "hINITIAL: iFORM gYEH: hFINAL: iFORM eYEH: fFINAL: gFORM fISOLATED: gFORM cAKBAR: dISOLATED:",
   "eFORM cALAYHAA: dAS-SALAAM cALAYHE: dISOLATED: eFORM cALAYHI: dAS-SALAAM dAS-SALAATU:",
   "eWAS-SALAAM cALAYHIM: dAS-SALAAM cALAYHIMAA: dAS-SALAAM cALEF: dMAKSURA: eWITH: fSUPERSCRIPT:",
   "gALEF: hFINAL: iFORM hISOLATED: iFORM dWITH: eFATHATAN: fFINAL: gFORM fISOLATED: gFORM cALLAH:",
   "dISOLATED: eFORM cAZZA: dWA: eJALL cBEH: dWITH: eALEF: fMAKSURA: gFINAL: hFORM gISOLATED:",
   "hFORM eHAH: fINITIAL: gFORM fISOLATED: gFORM fWITH: gYEH: hFINAL: iFORM eHEH: fINITIAL: gFORM",
   "fMEDIAL: gFORM eJEEM: fINITIAL: gFORM fISOLATED: gFORM eKHAH: fINITIAL: gFORM fISOLATED: gFORM",
   "fWITH: gYEH: hFINAL: iFORM eMEEM: fFINAL: gFORM fINITIAL: gFORM fISOLATED: gFORM fMEDIAL:",
   "gFORM eNOON: fFINAL: gFORM eREH: fFINAL: gFORM eYEH: fFINAL: gFORM fISOLATED: gFORM eZAIN:",
   "fFINAL: gFORM cBISMILLAH: dAR-RAHMAN: eAR-RAHEEM cDAD: dWITH: eALEF: fMAKSURA: gFINAL: hFORM",
   "gISOLATED: hFORM eHAH: fINITIAL: gFORM fISOLATED: gFORM fWITH: gALEF: hMAKSURA: iFINAL: jFORM",
   "gYEH: hFINAL: iFORM eJEEM: fINITIAL: gFORM fISOLATED: gFORM eKHAH: fINITIAL: gFORM fISOLATED:",
   "gFORM fWITH: gMEEM: hFINAL: iFORM hINITIAL: iFORM eMEEM: fINITIAL: gFORM fISOLATED: gFORM",
   "eREH: fFINAL: gFORM fISOLATED: gFORM eYEH: fFINAL: gFORM fISOLATED: gFORM cFEH: dWITH: eALEF:",
   "fMAKSURA: gFINAL: hFORM gISOLATED: hFORM eHAH: fINITIAL: gFORM fISOLATED: gFORM eJEEM:",
   "fINITIAL: gFORM fISOLATED: gFORM eKHAH: fINITIAL: gFORM fISOLATED: gFORM fWITH: gMEEM: hFINAL:",
   "iFORM hINITIAL: iFORM eMEEM: fINITIAL: gFORM fISOLATED: gFORM fWITH: gYEH: hFINAL: iFORM eYEH:",
   "fFINAL: gFORM fISOLATED: gFORM cGHAIN: dWITH: eALEF: fMAKSURA: gFINAL: hFORM gISOLATED: hFORM",
   "eJEEM: fINITIAL: gFORM fISOLATED: gFORM eMEEM: fINITIAL: gFORM fISOLATED: gFORM fWITH: gALEF:",
   "hMAKSURA: iFINAL: jFORM gMEEM: hFINAL: iFORM gYEH: hFINAL: iFORM eYEH: fFINAL: gFORM",
   "fISOLATED: gFORM cHAH: dWITH: eALEF: fMAKSURA: gFINAL: hFORM gISOLATED: hFORM eJEEM: fINITIAL:",
   "gFORM fISOLATED: gFORM fWITH: gYEH: hFINAL: iFORM eMEEM: fINITIAL: gFORM fISOLATED: gFORM",
   "fWITH: gALEF: hMAKSURA: iFINAL: jFORM gYEH: hFINAL: iFORM eYEH: fFINAL: gFORM fISOLATED: gFORM",
   "cHEH: dWITH: eALEF: fMAKSURA: gISOLATED: hFORM eJEEM: fINITIAL: gFORM fISOLATED: gFORM eMEEM:",
   "fINITIAL: gFORM fISOLATED: gFORM fWITH: gJEEM: hINITIAL: iFORM gMEEM: hINITIAL: iFORM",
   "eSUPERSCRIPT: fALEF: gINITIAL: hFORM eYEH: fISOLATED: gFORM cJALLAJALALOUHOU cJEEM: dWITH:",
   "eALEF: fMAKSURA: gFINAL: hFORM gISOLATED: hFORM eHAH: fINITIAL: gFORM fISOLATED: gFORM fWITH:",
   "gALEF: hMAKSURA: iFINAL: jFORM gYEH: hFINAL: iFORM eMEEM: fINITIAL: gFORM fISOLATED: gFORM",
   "fWITH: gALEF: hMAKSURA: iFINAL: jFORM gHAH: hFINAL: iFORM hINITIAL: iFORM gYEH: hFINAL: iFORM",
   "eYEH: fFINAL: gFORM fISOLATED: gFORM cKAF: dWITH: eALEF: fFINAL: gFORM fISOLATED: gFORM",
   "fMAKSURA: gFINAL: hFORM gISOLATED: hFORM eHAH: fINITIAL: gFORM fISOLATED: gFORM eJEEM:",
   "fINITIAL: gFORM fISOLATED: gFORM eKHAH: fINITIAL: gFORM fISOLATED: gFORM eLAM: fFINAL: gFORM",
   "fINITIAL: gFORM fISOLATED: gFORM fMEDIAL: gFORM eMEEM: fFINAL: gFORM fINITIAL: gFORM",
   "fISOLATED: gFORM fMEDIAL: gFORM fWITH: gMEEM: hFINAL: iFORM hINITIAL: iFORM gYEH: hFINAL:",
   "iFORM eYEH: fFINAL: gFORM fISOLATED: gFORM cKHAH: dWITH: eALEF: fMAKSURA: gFINAL: hFORM",
   "gISOLATED: hFORM eHAH: fISOLATED: gFORM eJEEM: fINITIAL: gFORM fISOLATED: gFORM eMEEM:",
   "fINITIAL: gFORM fISOLATED: gFORM eYEH: fFINAL: gFORM fISOLATED: gFORM cLAM: dWITH: eALEF:",
   "fFINAL: gFORM fISOLATED: gFORM fMAKSURA: gFINAL: hFORM gISOLATED: hFORM fWITH: gHAMZA: hABOVE:",
   "iFINAL: jFORM iISOLATED: jFORM hBELOW: iFINAL: jFORM iISOLATED: jFORM gMADDA: hABOVE: iFINAL:",
   "jFORM iISOLATED: jFORM eHAH: fINITIAL: gFORM fISOLATED: gFORM fWITH: gALEF: hMAKSURA: iFINAL:",
   "jFORM gMEEM: hFINAL: iFORM hINITIAL: iFORM gYEH: hFINAL: iFORM eHEH: fINITIAL: gFORM eJEEM:",
   "fINITIAL: gFORM fISOLATED: gFORM fWITH: gJEEM: hFINAL: iFORM hINITIAL: iFORM gMEEM: hFINAL:",
   "iFORM hINITIAL: iFORM gYEH: hFINAL: iFORM eKHAH: fINITIAL: gFORM fISOLATED: gFORM fWITH:",
   "gMEEM: hFINAL: iFORM hINITIAL: iFORM eMEEM: fFINAL: gFORM fINITIAL: gFORM fISOLATED: gFORM",
   "fMEDIAL: gFORM fWITH: gHAH: hFINAL: iFORM hINITIAL: iFORM gYEH: hFINAL: iFORM eYEH: fFINAL:",
   "gFORM fISOLATED: gFORM cMEEM: dWITH: eALEF: fFINAL: gFORM fMAKSURA: gISOLATED: hFORM eHAH:",
   "fINITIAL: gFORM fISOLATED: gFORM fWITH: gJEEM: hINITIAL: iFORM gMEEM: hINITIAL: iFORM gYEH:",
   "hFINAL: iFORM eJEEM: fINITIAL: gFORM fISOLATED: gFORM fWITH: gHAH: hINITIAL: iFORM gKHAH:",
   "hINITIAL: iFORM gMEEM: hINITIAL: iFORM gYEH: hFINAL: iFORM eKHAH: fINITIAL: gFORM fISOLATED:",
   "gFORM fWITH: gJEEM: hINITIAL: iFORM gMEEM: hINITIAL: iFORM gYEH: hFINAL: iFORM eMEEM: fFINAL:",
   "gFORM fINITIAL: gFORM fISOLATED: gFORM fWITH: gYEH: hFINAL: iFORM eYEH: fISOLATED: gFORM",
   "cMOHAMMAD: dISOLATED: eFORM cNOON: dWITH: eALEF: fMAKSURA: gFINAL: hFORM gISOLATED: hFORM",
   "eHAH: fINITIAL: gFORM fISOLATED: gFORM fWITH: gALEF: hMAKSURA: iFINAL: jFORM gMEEM: hINITIAL:",
   "iFORM gYEH: hFINAL: iFORM eHEH: fINITIAL: gFORM fMEDIAL: gFORM eJEEM: fINITIAL: gFORM",
   "fISOLATED: gFORM fWITH: gALEF: hMAKSURA: iFINAL: jFORM gHAH: hFINAL: iFORM hINITIAL: iFORM",
   "gMEEM: hFINAL: iFORM hINITIAL: iFORM gYEH: hFINAL: iFORM eKHAH: fINITIAL: gFORM fISOLATED:",
   "gFORM eMEEM: fFINAL: gFORM fINITIAL: gFORM fISOLATED: gFORM fMEDIAL: gFORM fWITH: gALEF:",
   "hMAKSURA: iFINAL: jFORM gYEH: hFINAL: iFORM eNOON: fFINAL: gFORM eREH: fFINAL: gFORM eYEH:",
   "fFINAL: gFORM fISOLATED: gFORM eZAIN: fFINAL: gFORM cQAF: dWITH: eALEF: fMAKSURA: gFINAL:",
   "hFORM gISOLATED: hFORM eHAH: fINITIAL: gFORM fISOLATED: gFORM eMEEM: fINITIAL: gFORM",
   "fISOLATED: gFORM fWITH: gHAH: hFINAL: iFORM hINITIAL: iFORM gMEEM: hFINAL: iFORM gYEH: hFINAL:",
   "iFORM eYEH: fFINAL: gFORM fISOLATED: gFORM cQALA: dUSED: eAS: fKORANIC: gSTOP: hSIGN:",
   "iISOLATED: jFORM cQUDDISA: dSIRRAH cRADI: dALLAAHU: eANH eANHAA eANHUM eANHUMAA eANHUNNA",
   "cRAHIMAHU: dALLAAH cRAHIMAHUM: dALLAAH cRASOUL: dISOLATED: eFORM cREH: dWITH: eSUPERSCRIPT:",
   "fALEF: gISOLATED: hFORM cSAD: dWITH: eALEF: fMAKSURA: gFINAL: hFORM gISOLATED: hFORM eHAH:",
   "fINITIAL: gFORM fISOLATED: gFORM fWITH: gHAH: hFINAL: iFORM hINITIAL: iFORM gYEH: hFINAL:",
   "iFORM eKHAH: fINITIAL: gFORM eMEEM: fINITIAL: gFORM fISOLATED: gFORM fWITH: gMEEM: hFINAL:",
   "iFORM hINITIAL: iFORM eREH: fFINAL: gFORM fISOLATED: gFORM eYEH: fFINAL: gFORM fISOLATED:",
   "gFORM cSALAAMUHU: dALAYNAA cSALAM: dISOLATED: eFORM cSALLA: dISOLATED: eFORM dUSED: eAS:",
   "fKORANIC: gSTOP: hSIGN: iISOLATED: jFORM cSALLALLAAHU: dALAYHI: eWA-AALIH cSALLALLAHOU:",
   "dALAYHE: eWASALLAM cSALLALLAHU: dALAYHI: eWAAALIHEE: fWA-SALLAM cSEEN: dWITH: eALEF: fMAKSURA:",
   "gFINAL: hFORM gISOLATED: hFORM eHAH: fINITIAL: gFORM fISOLATED: gFORM fMEDIAL: gFORM fWITH:",
   "gJEEM: hINITIAL: iFORM eHEH: fINITIAL: gFORM fMEDIAL: gFORM eJEEM: fINITIAL: gFORM fISOLATED:",
   "gFORM fMEDIAL: gFORM fWITH: gALEF: hMAKSURA: iFINAL: jFORM gHAH: hINITIAL: iFORM eKHAH:",
   "fINITIAL: gFORM fISOLATED: gFORM fMEDIAL: gFORM fWITH: gALEF: hMAKSURA: iFINAL: jFORM gYEH:",
   "hFINAL: iFORM eMEEM: fINITIAL: gFORM fISOLATED: gFORM fMEDIAL: gFORM fWITH: gHAH: hFINAL:",
   "iFORM hINITIAL: iFORM gJEEM: hINITIAL: iFORM gMEEM: hFINAL: iFORM hINITIAL: iFORM eREH:",
   "fFINAL: gFORM fISOLATED: gFORM eYEH: fFINAL: gFORM fISOLATED: gFORM cSHADDA: dWITH: eDAMMA:",
   "fISOLATED: gFORM fMEDIAL: gFORM eDAMMATAN: fISOLATED: gFORM eFATHA: fISOLATED: gFORM fMEDIAL:",
   "gFORM eKASRA: fISOLATED: gFORM fMEDIAL: gFORM eKASRATAN: fISOLATED: gFORM eSUPERSCRIPT: fALEF:",
   "gISOLATED: hFORM cSHEEN: dWITH: eALEF: fMAKSURA: gFINAL: hFORM gISOLATED: hFORM eHAH: fFINAL:",
   "gFORM fINITIAL: gFORM fISOLATED: gFORM fMEDIAL: gFORM fWITH: gMEEM: hFINAL: iFORM hINITIAL:",
   "iFORM gYEH: hFINAL: iFORM eHEH: fINITIAL: gFORM fMEDIAL: gFORM eJEEM: fFINAL: gFORM fINITIAL:",
   "gFORM fISOLATED: gFORM fMEDIAL: gFORM fWITH: gYEH: hFINAL: iFORM eKHAH: fFINAL: gFORM",
   "fINITIAL: gFORM fISOLATED: gFORM fMEDIAL: gFORM eMEEM: fFINAL: gFORM fINITIAL: gFORM",
   "fISOLATED: gFORM fMEDIAL: gFORM fWITH: gKHAH: hFINAL: iFORM hINITIAL: iFORM gMEEM: hFINAL:",
   "iFORM hINITIAL: iFORM eREH: fFINAL: gFORM fISOLATED: gFORM eYEH: fFINAL: gFORM fISOLATED:",
   "gFORM cSUBHAANAHU: dWA: eTAAALAA cTABAARAKA: dWA-TAAALAA cTAH: dWITH: eALEF: fMAKSURA: gFINAL:",
   "hFORM gISOLATED: hFORM eHAH: fINITIAL: gFORM fISOLATED: gFORM eMEEM: fINITIAL: gFORM",
   "fISOLATED: gFORM fMEDIAL: gFORM fWITH: gHAH: hFINAL: iFORM hINITIAL: iFORM gMEEM: hINITIAL:",
   "iFORM gYEH: hFINAL: iFORM eYEH: fFINAL: gFORM fISOLATED: gFORM cTEH: dWITH: eALEF: fMAKSURA:",
   "gFINAL: hFORM gISOLATED: hFORM eHAH: fINITIAL: gFORM fISOLATED: gFORM fWITH: gJEEM: hFINAL:",
   "iFORM hINITIAL: iFORM gMEEM: hINITIAL: iFORM eHEH: fINITIAL: gFORM fMEDIAL: gFORM eJEEM:",
   "fINITIAL: gFORM fISOLATED: gFORM fWITH: gALEF: hMAKSURA: iFINAL: jFORM gMEEM: hINITIAL: iFORM",
   "gYEH: hFINAL: iFORM eKHAH: fINITIAL: gFORM fISOLATED: gFORM fWITH: gALEF: hMAKSURA: iFINAL:",
   "jFORM gMEEM: hINITIAL: iFORM gYEH: hFINAL: iFORM eMEEM: fFINAL: gFORM fINITIAL: gFORM",
   "fISOLATED: gFORM fMEDIAL: gFORM fWITH: gALEF: hMAKSURA: iFINAL: jFORM gHAH: hINITIAL: iFORM",
   "gJEEM: hINITIAL: iFORM gKHAH: hINITIAL: iFORM gYEH: hFINAL: iFORM eNOON: fFINAL: gFORM eREH:",
   "fFINAL: gFORM eYEH: fFINAL: gFORM fISOLATED: gFORM eZAIN: fFINAL: gFORM cTHAL: dWITH:",
   "eSUPERSCRIPT: fALEF: gISOLATED: hFORM cTHEH: dWITH: eALEF: fMAKSURA: gFINAL: hFORM gISOLATED:",
   "hFORM eHEH: fMEDIAL: gFORM eJEEM: fISOLATED: gFORM eMEEM: fFINAL: gFORM fINITIAL: gFORM",
   "fISOLATED: gFORM fMEDIAL: gFORM eNOON: fFINAL: gFORM eREH: fFINAL: gFORM eYEH: fFINAL: gFORM",
   "fISOLATED: gFORM eZAIN: fFINAL: gFORM cUIGHUR: dKIRGHIZ: eYEH: fWITH: gHAMZA: hABOVE: iWITH:",
   "jALEF: kMAKSURA: lFINAL: mFORM lINITIAL: mFORM lISOLATED: mFORM cWASALLAM: dISOLATED: eFORM",
   "cYEH: dWITH: eALEF: fMAKSURA: gFINAL: hFORM gISOLATED: hFORM eHAH: fINITIAL: gFORM fISOLATED:",
   "gFORM fWITH: gYEH: hFINAL: iFORM eHAMZA: fABOVE: gWITH: hAE: iFINAL: jFORM iISOLATED: jFORM",
   "hALEF: iFINAL: jFORM iISOLATED: jFORM iMAKSURA: jFINAL: kFORM jISOLATED: kFORM hE: iFINAL:",
   "jFORM iINITIAL: jFORM iISOLATED: jFORM hHAH: iINITIAL: jFORM iISOLATED: jFORM hHEH: iINITIAL:",
   "jFORM iMEDIAL: jFORM hJEEM: iINITIAL: jFORM iISOLATED: jFORM hKHAH: iINITIAL: jFORM hMEEM:",
   "iFINAL: jFORM iINITIAL: jFORM iISOLATED: jFORM iMEDIAL: jFORM hNOON: iFINAL: jFORM hOE:",
   "iFINAL: jFORM iISOLATED: jFORM hREH: iFINAL: jFORM hU: iFINAL: jFORM iISOLATED: jFORM hWAW:",
   "iFINAL: jFORM iISOLATED: jFORM hYEH: iFINAL: jFORM iISOLATED: jFORM hYU: iFINAL: jFORM",
   "iISOLATED: jFORM hZAIN: iFINAL: jFORM eHEH: fINITIAL: gFORM fMEDIAL: gFORM eJEEM: fINITIAL:",
   "gFORM fISOLATED: gFORM fWITH: gYEH: hFINAL: iFORM eKHAH: fINITIAL: gFORM fISOLATED: gFORM",
   "eMEEM: fFINAL: gFORM fINITIAL: gFORM fISOLATED: gFORM fMEDIAL: gFORM fWITH: gMEEM: hFINAL:",
   "iFORM hINITIAL: iFORM gYEH: hFINAL: iFORM eNOON: fFINAL: gFORM eREH: fFINAL: gFORM eYEH:",
   "fFINAL: gFORM fISOLATED: gFORM eZAIN: fFINAL: gFORM cZAH: dWITH: eMEEM: fINITIAL: gFORM",
   "fISOLATED: gFORM fMEDIAL: gFORM bMADDA: cWAAJIB bMADDAH: cABOVE bMARK: cNOON: dGHUNNA",
   "cSIDEWAYS: dNOON: eGHUNNA bMATHEMATICAL: cAIN cALEF cBEH cDAD cDAL cDOTLESS: dBEH dFEH dNOON",
   "dQAF cDOUBLE-STRUCK: dAIN dBEH dDAD dDAL dFEH dGHAIN dHAH dJEEM dKHAH dLAM dMEEM dNOON dQAF",
   "dREH dSAD dSEEN dSHEEN dTAH dTEH dTHAL dTHEH dWAW dYEH dZAH dZAIN cFEH cGHAIN cHAH cINITIAL:",
   "dAIN dBEH dDAD dFEH dGHAIN dHAH dHEH dJEEM dKAF dKHAH dLAM dMEEM dNOON dQAF dSAD dSEEN dSHEEN",
   "dTEH dTHEH dYEH cJEEM cKAF cKHAH cLAM cLOOPED: dAIN dALEF dBEH dDAD dDAL dFEH dGHAIN dHAH dHEH",
   "dJEEM dKHAH dLAM dMEEM dNOON dQAF dREH dSAD dSEEN dSHEEN dTAH dTEH dTHAL dTHEH dWAW dYEH dZAH",
   "dZAIN cMEEM cNOON cOPERATOR: dHAH: eWITH: fDAL dMEEM: eWITH: fHAH: gWITH: hTATWEEL cQAF cREH",
   "cSAD cSEEN cSHEEN cSTRETCHED: dAIN dBEH dDAD dDOTLESS: eBEH eFEH dFEH dGHAIN dHAH dHEH dJEEM",
   "dKAF dKHAH dMEEM dNOON dQAF dSAD dSEEN dSHEEN dTAH dTEH dTHEH dYEH dZAH cTAH cTAILED: dAIN",
   "dDAD dDOTLESS: eNOON eQAF dGHAIN dHAH dJEEM dKHAH dLAM dNOON dQAF dSAD dSEEN dSHEEN dYEH cTEH",
   "cTHAL cTHEH cWAW cYEH cZAH cZAIN bNUMBER: cMARK: dABOVE cSIGN bOPEN: cDAMMATAN cFATHATAN",
   "cKASRATAN bPERCENT: cSIGN bPIASTRE: cMARK: dABOVE bPLACE: cOF: dSAJDAH bPOETIC: cVERSE: dSIGN",
   "bPOUND: cMARK: dABOVE bQUESTION: cMARK bRAISED: cROUND: dDOT bRAY bREVERSED: cDAMMA bRIGHT:",
   "cARROWHEAD: dABOVE eWITH: fDOT dBELOW bROUNDED: cHIGH: dSTOP: eWITH: fFILLED: gCENTRE",
   "bSEMICOLON bSHADDA cISOLATED: dFORM cMEDIAL: dFORM bSIGN: cALAYHE: dASSALLAM cMISRA cRADI:",
   "dALLAHOU: eANHU cRAHMATULLAH: dALAYHE cSAFHA cSALLALLAHOU: dALAYHE: eWASSALLAM cSAMVAT cSANAH",
   "cSINDHI: dAMPERSAND dPOSTPOSITION: eMEN cTAKHALLUS bSMALL: cDAMMA cFARSI: dYEH cFATHA cHIGH:",
   "dAIN dDOTLESS: eHEAD: fOF: gKHAH dFARSI: eYEH dFOOTNOTE: eMARKER dJEEM dLAM: eALEF dLIGATURE:",
   "eALEF: fWITH: gLAM: hWITH: iYEH eQAF: fWITH: gLAM: hWITH: iALEF: jMAKSURA eSAD: fWITH: gLAM:",
   "hWITH: iALEF: jMAKSURA dMADDA dMEEM: eINITIAL: fFORM eISOLATED: fFORM dNOON eWITH: fKASRA dQAF",
   "dROUNDED: eZERO dSAD dSEEN dSIGN: eSAFHA dTAH dTHREE: eDOTS dUPRIGHT: eRECTANGULAR: fZERO dWAW",
   "dWORD: eAL-JUZ eAN-NISF eAR-RUB eAS-SAJDA eATH-THALATHA eQIF eSAH eSAKTA eWAQFA dYEH eBARREE:",
   "fWITH: gTWO: hDOTS: iBELOW dZAH dZAIN cKASRA cLOW: dMEEM dNOON: eWITH: fKASRA dSEEN dWAW",
   "dWORD: eIMAALA eISHMAAM eTASHEEL cWAW cYEH bSTART: cOF: dRUB: eEL: fHIZB bSUBSCRIPT: cALEF",
   "bSUKUN cBELOW cISOLATED: dFORM cMEDIAL: dFORM bSUPERSCRIPT: cALEF: dMOKHASSAS bSYMBOL: cDOT:",
   "dABOVE dBELOW cDOUBLE: dVERTICAL: eBAR: fBELOW cFOUR: dDOTS: eABOVE eBELOW cRING cSMALL: dTAH:",
   "eABOVE eBELOW cTHREE: dDOTS: eABOVE eBELOW ePOINTING: fDOWNWARDS: gABOVE gBELOW cTWO: dDOTS:",
   "eABOVE eBELOW eVERTICALLY: fABOVE fBELOW cWASLA: dABOVE bTAIL: cFRAGMENT bTATWEEL cWITH:",
   "dFATHATAN: eABOVE dOVERSTRUCK: eHAMZA eWAW dTWO: eDOTS: fBELOW bTHOUSANDS: cSEPARATOR bTONE:",
   "cLOOP: dABOVE dBELOW cONE: dDOT: eABOVE eBELOW cTWO: dDOTS: eABOVE eBELOW bTRIPLE: cDOT:",
   "dPUNCTUATION: eMARK bTURNED: cDAMMA: dBELOW bVERTICAL: cTAIL bVOWEL: cSIGN: dDOT: eBELOW",
   "dINVERTED: eSMALL: fV: gABOVE dSMALL: eV: fABOVE bWAVY: cHAMZA: dBELOW bZWARAKAY",
   "aARABIC-INDIC: bCUBE: cROOT bDIGIT: cEIGHT cFIVE cFOUR cNINE cONE cSEVEN cSIX cTHREE cTWO",
   "cZERO bFOURTH: cROOT bPER: cMILLE: dSIGN cTEN: dTHOUSAND: eSIGN aARC aARIES aARMENIAN:",
   "bABBREVIATION: cMARK bAPOSTROPHE bCAPITAL: cLETTER: dAYB dBEN dCA dCHA dCHEH dCO dDA dECH dEH",
   "dET dFEH dGHAD dGIM dHO dINI dJA dJHEH dKEH dKEN dLIWN dMEN dNOW dOH dPEH dPIWR dRA dREH dSEH",
   "dSHA dTIWN dTO dVEW dVO dXEH dYI dYIWN dZA dZHE bCOMMA bDRAM: cSIGN bEMPHASIS: cMARK",
   "bEXCLAMATION: cMARK bFULL: cSTOP bHYPHEN bMODIFIER: cLETTER: dLEFT: eHALF: fRING bQUESTION:",
   "cMARK bSMALL: cLETTER: dAYB dBEN dCA dCHA dCHEH dCO dDA dECH dEH dET dFEH dGHAD dGIM dHO dINI",
   "dJA dJHEH dKEH dKEN dLIWN dMEN dNOW dOH dPEH dPIWR dRA dREH dSEH dSHA dTIWN dTO dTURNED: eAYB",
   "dVEW dVO dXEH dYI eWITH: fSTROKE dYIWN dZA dZHE cLIGATURE: dECH: eYIWN dMEN: eECH eINI eNOW",
   "eXEH dVEW: eNOW aARROW: bPOINTING: cDOWNWARDS: dTHEN: eCURVING: fLEFTWARDS fRIGHTWARDS",
   "cRIGHTWARDS: dTHEN: eCURVING: fDOWNWARDS fSOUTH: gWEST fUPWARDS cUPWARDS: dTHEN: eNORTH: fWEST",
   "aARROWHEAD-SHAPED: bPOINTER aARTICULATED: bLORRY aARTIST: bPALETTE aASCENDING: bNODE aASCIA:",
   "bSYMBOL aASSERTION aASTERISK bOPERATOR aASTERISM aASTONISHED: bFACE aASTRAEA aASTRONOMICAL:",
   "bSYMBOL: cFOR: dURANUS aASYMPTOTICALLY: bEQUAL: cTO aATHLETIC: bSHOE aATOM: bSYMBOL aAUBERGINE",
   "aAUSTRAL: bSIGN aAUTO: bRICKSHAW aAUTOMATED: bTELLER: cMACHINE aAUTOMOBILE aAVESTAN:",
   "bABBREVIATION: cMARK bLETTER: cA cAA cAAN cAAO cAE cAEE cAN cAO cBE cBHE cCE cDE cDHE cE cEE",
   "cFE cGE cGGE cGHE cHE cHME cI cII cJE cKE cLE cME cNE cNGE cNGVE cNGYE cNNE cNYE cO cOO cPE",
   "cRE cSE cSHE cSHYE cSSHE cTE cTHE cTTE cU cUU cVE cXE cXVE cXYE cYE cYYE cZE cZHE aAVOCADO",
   "aAXE aBABY bANGEL bBOTTLE bCHICK bSYMBOL aBACK: bOF: cENVELOPE bWITH: cLEFTWARDS: dARROW:",
   "eABOVE aBACK-TILTED: bSHADOWED: cWHITE: dRIGHTWARDS: eARROW aBACKSLANTED: bSOUTH: cARROW:",
   "dWITH: eHOOKED: fTAIL eHORIZONTAL: fTAIL aBACKSPACE aBACON aBACTRIAN: bCAMEL aBADGER",
   "aBADMINTON: bRACQUET: cAND: dSHUTTLECOCK aBAGEL aBAGGAGE: bCLAIM aBAGUETTE: bBREAD aBALINESE:",
   "bADEG: cADEG bCARIK: cPAMUNGKAH cPAREREN cSIKI bDIGIT: cEIGHT cFIVE cFOUR cNINE cONE cSEVEN",
   "cSIX cTHREE cTWO cZERO bLETTER: cAIKARA cAKARA dTEDUNG cARCHAIC: dJNYA cASYURA: dSASAK cBA",
   "dKEMBANG cCA dLACA cDA dMADU dMURDA: eALPAPRANA eMAHAPRANA cEF: dSASAK cEKARA cGA dGORA cHA",
   "cIKARA dTEDUNG cJA dJERA cKA dMAHAPRANA cKAF: dSASAK cKHOT: dSASAK cLA dLENGA eTEDUNG cMA cNA",
   "dRAMBAT cNGA cNYA cOKARA dTEDUNG cPA dKAPAL cRA dREPA eTEDUNG cSA dSAGA dSAPA cTA dLATIK",
   "dMURDA: eMAHAPRANA dTAWA cTZIR: dSASAK cUKARA dTEDUNG cVE: dSASAK cWA cYA cZAL: dSASAK",
   "bMUSICAL: cSYMBOL: dCOMBINING: eBENDE eENDEP eGONG eJEGOGAN eKEMPLI fWITH: gJEGOGAN eKEMPUL",
   "fWITH: gJEGOGAN eTEGEH dDAENG dDAING dDANG eGEDE eSURANG dDENG dDEUNG dDING dDONG dDUNG",
   "dLEFT-HAND: eCLOSED: fPLAK fPLUK eOPEN: fPANG fPING fPUNG dRIGHT-HAND: eCLOSED: fTAK fTUK",
   "eOPEN: fDAG fDUG bPAMADA cLANTANG bPAMENENG bPANTI cLANTANG bSIGN: cBISAH cCECEK cREREKAN",
   "cSURANG cULU: dCANDRA dRICEM bVOWEL: cSIGN: dLA: eLENGA fTEDUNG dPEPET eTEDUNG dRA: eREPA",
   "fTEDUNG dSUKU eILUT dTALING eREPA fTEDUNG eTEDUNG dTEDUNG dULU eSARI bWINDU aBALL: bOF: cYARN",
   "aBALLET: bSHOES aBALLOON aBALLOON-SPOKED: bASTERISK aBALLOT: bBOLD: cSCRIPT: dX bBOX cWITH:",
   "dBALLOT dBOLD: eCHECK eSCRIPT: fX dCHECK dLIGHT: eX dSCRIPT: eX dX bSCRIPT: cX bX aBAMUM:",
   "bCOLON bCOMBINING: cMARK: dKOQNDON dTUKWENTIS bCOMMA bFULL: cSTOP bLETTER: cA cEE cFAAMAE cFEE",
   "cFOM cFU cI cKA cKEN cKET cKEUX cKI cKO cKOGHOM cKOVUU cKPA cKU cKYEE cLA cLEEEE cLI cLOQ cLU",
   "cM cMA cMBAA cMBEN cMEEEE cMEN cMI cMO cMU cNA cNDAA cNGA cNGGA cNGKWAEN cNI cNJAEM cNJEE",
   "cNJUAE cNSHA cNTEE cNTUU cNU cNUAE cNYI cO cPA cPEE cPEUX cPHASE-A: dFIRI dGBIEE: eFON",
   "dGHEUAEGHEUAE dGHEUAERAE dKAFA dKAQ dKET dKEUKEUTNDA dKPOQ dKUOQ dLAPAQ dLET: eKUT dLOMMAE dLU",
   "dLUAEP dMAEKEUP dMAEM dMAEMBGBIEE dMAEMKPEN dMAEMVEUX dMAENYI dMAESI dMANSUAE dMAP: ePIEET",
   "dMBANYI dMBAQ dMEUNJOMNDEUQ dMGBASA dMON: eNGGEUAET dMOOMEUT dMOOMPUQ dMVEUAENGAM dNAA: eMFON",
   "dNAQ dNDA: eLEERAEWA dNDAANGGEUAET dNEN dNGANGU dNGGEN dNGKUE: eMFON dNGKUENZEUM dNIKA dNJAM",
   "dNKAARAE dNKINDI dNSHA dNSHIEE dNTAP eMFAA eNTAA dNTOQPEN dNYET dNYI dNYIT: eMONGKEUAEQ dNZA:",
   "eMFON dNZUN: eMEUT dPA: eLEERAEWA dPAAM dPAARAE dPAMSHAE dPASHAE dPET dPON: eMFON: fPIPAEMBA",
   "fPIPAEMGBIEE ePA: fNJI: gPIPAEMBA gPIPAEMGBIEE dPUP dROM dSEUNYAM dSHINDA: ePA: fNJI dSHIRAE",
   "dSHOQ: eNSHUT: fYUM dSHUENSHUET dSHUM dSISA dSONJAM dSOQ dSOT dSUU dTEUAEN dTEUTEUWEN dTITA:",
   "eMFON dTU: eMAEMBA dTUAEP dU: eYUQ: fNAE dUNKNOWN dVEE cPHASE-B: dFEE dFEUX dGHEUGHEN",
   "dGHEUGHEUAEM dKAM dKEUAEM dKEUPUQ dKEUYEUX dKIEEM dKIQ dLAANAE dLAM: eNSHUT: fNYAM dLET dLOM:",
   "eNTEUM dMA eNJEUAENA eNJUQA dMBA: eMAELEE dMBAARAE dMBEURI dMBIT: eMBAAKET dMBUOQ dMEUQ dMEUT:",
   "eNGGEET dMFIYAQ dMFON: eTEUAEQ dMONTIEEN dNDU: eNJAA dNGGAAM dNGGEU: eMBU dNGGUOQ eLARGE",
   "dNGKINDI: eMVOP dNGOM dNSEN dNSHUET dNTIEE: eSHEUOQ dNYAEMAE dNYI: eNTEUM dPARUM dPEESHI dPIT",
   "dPUNGAAM dSAKEUAE dSET: eTU dSHET: eNJAQ dSHEUAEQTU dSIEE dSUE dTAAM dTU: eMAEMGBIEE eNSIEE",
   "dVEUM dWUAET dYAFU: eLEERAEWA dYEURAE cPHASE-C: dBUNG dFUE dGBAYI dGHAP dGHARAE dKAA dKEN:",
   "eFATIGUE eLAW dKET dKEUKAQ dKEUM dKEUSEUX dKEUSHEUAEP dKPARAQ dKUOP: eNKAARAE dKUT dLAM dLAP",
   "dLIQ dLU dMA: eKEUAERI eNSIEE dMAEMBA dMAESI dMBAA: eCABBAGE-TREE ePICKET dMBANYI dMBEEKEET",
   "dMBERAE dMBEUM dMBEUX dMBI dMBIRIEEN dMBIT dMBUAEM dMBUE dMGBASAQ dMIEE dMUAE dNANSANAQ dNAQ",
   "dNDAM dNDAP dNDEUAEREE dNDEUT dNDIDA dNDOMBU dNGAQ dNGGEN dNGGU dNGGUAEN: eNYAM dNGGUEET",
   "dNGGUM dNGGUON dNGKAQ dNGKUE: eMAEMBA dNGOM dNJAEM dNJAM dNJEEEE dNJEUX dNJUEQ dNSA dNSEUAEN",
   "dNSHAQ dNSOM dNSUN dNSUOT: eNGOM dNTAA dNTEN dNTEUNGBA dNTU: eMBIT dNYIR: eMKPARAQ: fMEUN dNZA",
   "dNZEUM dPEN dPIN dPIRIEEN dRU dSETFON dSEUX dSHIQ dSHUEQ dSUAET dTAASHAE dTET dTEUTEUX dTITA:",
   "eYUE dTITUAEP dVEUAEPEN dVEUX dWANGKUOQ dWUP dYAA dYEUQ dYU: eMUOMAE dYUM dYUWOQ cPHASE-D:",
   "dFAA dFEUFEUAET dGHAA dGHEUAE dKET dKEUAETMEUN dKEUM dKEUOT: eMBUAE dKEUP dKU dKUN dKUOM dKUQ",
   "dKWAET dKYEE dLEEEE dLET dLEUAEP dLEUM dLIEE dLOQ dLUM dM dMAENJET dMALEERI dMBAA eSEVEN dMBUO",
   "dMEEEE dMEUN dMEUT dMFEUAE dMFEUT dMFIEE dMFO dMFON dMGBEUN dMGBIEE dMGBOFUM dMONI dMU dMVOP",
   "dNDAM dNDEE dNDEUX dNDON dNGGAAM dNGGAAMAE dNGGAP dNGGEUX dNGGUOM dNGGWAEN dNGKAP dNGKEUAEQ",
   "dNGKEURI dNGKIEE dNGKUN dNGKYEE dNI dNJAP dNJEUAEM dNJEUT dNJI dNJIEE dNJUEQ dNSHEE dNSHUT",
   "dNSIEEP dNSIEET dNSUM dNTEE dNTEUM dNTUU dNU dNYAM dNYET dNYI dNYUE dPAP dPEE dPEUTAE dPIP",
   "dPUQ dPUUT dRAEM dREN: eMUCH eOLD dRII dSAP dSAQ dSEUAEQ dSHEE dSHEUAE dSHEUX dSHII dSHOQ dSHU",
   "dSOT dSUAE dSUE dSUU dTAE dTEEEE dTEUAEN dTEUN dTEUT dTI dTOQ dTU dTUOT dWAP dWUAEN dYAEMMAE",
   "dYEN dYUOM dYUOP dYUWOQ cPHASE-E: dA dFA dFAQ dFEE dFOM dFU: eCALL eI eREMEDY dFUE dFUET dGBET",
   "dGBEUX dGHAAMAE dGHET dGHEUAE dGHEUN dGHEUX dGHOM dI dKET dKEUAE dKEUX dKI dKO dKPEUX dKUET",
   "dKUOP dKUT dLAAM dLAP dLAQ dLEUAEM dLOM dLOON dLOOT dLOQ dLU dMA dMAE dMAEM dMAP dMAQ dMBEE",
   "dMBEUM dMEN dMFEUQ dMGBA dMGBEN dMI dMIEE dMON dMUAE dMVI dNA dNAE dNDAA: eMY: fHOUSE",
   "eSOFTNESS dNDAP dNDIAQ dNDIQ dNDUN dNGA dNGEUREUT dNGGEEEE dNGGEUAE dNGGEUAET dNGGUAESHAE:",
   "eNYAM dNGGUP dNGGURAE dNGKA dNGKAAMI dNGKEUAEM dNGKEUX dNGKUM dNGKUP dNGOP dNGOQ dNGUAE",
   "dNGUAET dNJAEMLI dNJEE eEPOCH dNJEUX dNKOM dNSHIEE dNSHUE dNSHUOP dNTAP dNTUM dNYI: eBETWEEN",
   "eCLEAVER dNZAQ dNZUQ dO dPA: ePEOPLE ePLURAL dPAA dPAAM dPEEM dPEUT dPEUX dPI dPIEEQ dPIET dPO",
   "dPOON dPU dPUAE dPUAQ dPUE dPUM dRAE dRAQ dREUX dRIMGBA dSAA dSEE dSET dSHEUAEQ dSHIQ dSHO",
   "dSHOQ dSOM dSUAEN dTAA dTAAQ dTAEN: eNTEUM dTAM dTAQ dTEN dTEU dTEUAEQ dTOO dTOON dTOQ dTUAE",
   "dTUM dTUMAE dVEE dVEUAE dVOM dWEUX dWUE dWUO dYAP dYEUAE dYEUAET dYEUM dYEUX dYIEE dYIT dYOQ:",
   "eCOVER eSWIMMING dYUAEN dYUEQ dYUN dYUQ cPHASE-F: dEE dFOM dKA dKEN dKET dKO dKPA dKU dKYEE",
   "dLA dLI dLOQ dM dMA dMBAA dMBEN dMEEEE dMO dNDAA dNGGA dNGKWAEN dNI dNJAEM dNJUAE dNSHA dNTEE",
   "dNU dNUAE dNYI dPEE dPEUX dPUAE dREE dREN dREUX dRIEE dRII dRU dSAMBA dSEUX dSHII dSHO dSHU",
   "dSI dSUU dTAA dTAE dTET dU dVUEQ dWA dWUE dYA dYOQ cPI cPUAE cPUE cRAE cREE cREN cREUX cRIEE",
   "cRII cRU cSAMBA cSEUX cSHEUX cSHII cSHO cSHU cSI cSUU cTAA cTAE cTEN cTET cTI cU cWA cWUE cYA",
   "cYOQ cYUQ bNJAEMLI bQUESTION: cMARK bSEMICOLON aBANANA aBANJO aBANK aBANKNOTE: bWITH: cDOLLAR:",
   "dSIGN cEURO: dSIGN cPOUND: dSIGN cYEN: dSIGN aBAR: bCHART bOF: cSOAP aBARBER: bPOLE aBASEBALL",
   "aBASKET aBASKETBALL: bAND: cHOOP aBASSA: bVAH: cCOMBINING: dHIGH: eTONE dHIGH-LOW: eTONE dLOW:",
   "eTONE dLOW-MID: eTONE dMID: eTONE cFULL: dSTOP cLETTER: dA dBA dCE dDHII dDO dE dEE dENNI dFA",
   "dGAH dGBU dHWAH dI dJO dKA dKPAH dMBE dO dOO dPA dSE dTO dU dUWU dVU dWA dWADDA dYEIN dYIE dZO",
   "aBAT aBATAK: bCONSONANT: cSIGN: dH dNG bLETTER: cA cBA cCA cDA cGA cHA cI cJA cKARO: dBA cLA",
   "cMA cMANDAILING: dHA dNA dSA cMBA cNA cNDA cNGA cNORTHERN: dTA cNYA cPA cPAKPAK: dWA cRA cSA",
   "cSIMALUNGUN: dA dGA dHA dLA dMA dPA dRA dSA dWA dYA cSOUTHERN: dTA cU cWA cYA bPANGOLAT",
   "bPANONGONAN bSIGN: cTOMPI bSYMBOL: cBINDU: dJUDUL dNA: eMETEK dPANGOLAT dPINARBORAS bVOWEL:",
   "cSIGN: dE dEE dI dKARO: eI eO dO dPAKPAK: eE dU eFOR: fSIMALUNGUN: gSA aBATH aBATHTUB aBATTERY",
   "aBEACH: bWITH: cUMBRELLA aBEAMED: bASCENDING: cMUSICAL: dNOTES bDESCENDING: cMUSICAL: dNOTES",
   "bEIGHTH: cNOTES bSIXTEENTH: cNOTES aBEANS aBEAR: bFACE aBEARDED: bPERSON aBEATING: bHEART",
   "aBEAVER aBECAUSE aBED aBEER: bMUG aBEETLE aBEL aBELL bPEPPER bSYMBOL bWITH: cCANCELLATION:",
   "dSTROKE aBELLHOP: bBELL aBENGALI: bABBREVIATION: cSIGN bANJI bAU: cLENGTH: dMARK bCURRENCY:",
   "cDENOMINATOR: dSIXTEEN cNUMERATOR: dFOUR dONE eLESS: fTHAN: gTHE: hDENOMINATOR dTHREE dTWO",
   "bDIGIT: cEIGHT cFIVE cFOUR cNINE cONE cSEVEN cSIX cTHREE cTWO cZERO bGANDA: cMARK bISSHAR",
   "bLETTER: cA cAA cAI cAU cBA cBHA cCA cCHA cDA cDDA cDDHA cDHA cE cGA cGHA cHA cI cII cJA cJHA",
   "cKA cKHA cKHANDA: dTA cLA cMA cNA cNGA cNNA cNYA cO cPA cPHA cRA dWITH: eLOWER: fDIAGONAL",
   "eMIDDLE: fDIAGONAL cRHA cRRA cSA cSHA cSSA cTA cTHA cTTA cTTHA cU cUU cVEDIC: dANUSVARA",
   "cVOCALIC: dL dLL dR dRR cYA cYYA bRUPEE: cMARK cSIGN bSANDHI: cMARK bSIGN: cANUSVARA cAVAGRAHA",
   "cCANDRABINDU cNUKTA cVIRAMA cVISARGA bVOWEL: cSIGN: dAA dAI dAU dE dI dII dO dU dUU dVOCALIC:",
   "eL eLL eR eRR aBENT: bARROW: cPOINTING: dDOWNWARDS: eTHEN: fNORTH: gEAST aBENTO: bBOX",
   "aBENZENE: bRING cWITH: dCIRCLE aBET: bSYMBOL aBETWEEN aBEVERAGE: bBOX aBHAIKSUKI: bDANDA",
   "bDIGIT: cEIGHT cFIVE cFOUR cNINE cONE cSEVEN cSIX cTHREE cTWO cZERO bDOUBLE: cDANDA bGAP:",
   "cFILLER-1 cFILLER-2 bHUNDREDS: cUNIT: dMARK bLETTER: cA cAA cAI cAU cBA cBHA cCA cCHA cDA cDDA",
   "cDDHA cDHA cE cGA cGHA cHA cI cII cJA cJHA cKA cKHA cLA cMA cNA cNGA cNNA cNYA cO cPA cPHA cRA",
   "cSA cSHA cSSA cTA cTHA cTTA cTTHA cU cUU cVA cVOCALIC: dL dR dRR cYA bNUMBER: cEIGHT cEIGHTY",
   "cFIFTY cFIVE cFORTY cFOUR cNINE cNINETY cONE cSEVEN cSEVENTY cSIX cSIXTY cTEN cTHIRTY cTHREE",
   "cTWENTY cTWO bSIGN: cANUSVARA cAVAGRAHA cCANDRABINDU cVIRAMA cVISARGA bVOWEL: cSIGN: dAA dAI",
   "dAU dE dI dII dO dU dUU dVOCALIC: eL eR eRR bWORD: cSEPARATOR aBICYCLE aBICYCLIST aBIG:",
   "bREVERSE: cSOLIDUS bSOLIDUS aBIKINI aBILLED: bCAP aBILLIARDS aBIOHAZARD: bSIGN aBIRD",
   "aBIRTHDAY: bCAKE aBISON aBITCOIN: bSIGN aBITING: bLIP aBLACK: bBOWTIE bCENTRE: cWHITE: dSTAR",
   "bCHESS: cBISHOP dROTATED: eNINETY: fDEGREES eTWO: fHUNDRED: gSEVENTY: hDEGREES cEQUIHOPPER",
   "dROTATED: eNINETY: fDEGREES cKING dROTATED: eNINETY: fDEGREES eTWO: fHUNDRED: gSEVENTY:",
   "hDEGREES cKNIGHT dROTATED: eFORTY-FIVE: fDEGREES eNINETY: fDEGREES eONE: fHUNDRED:",
   "gTHIRTY-FIVE: hDEGREES eTHREE: fHUNDRED: gFIFTEEN: hDEGREES eTWO: fHUNDRED: gSEVENTY: hDEGREES",
   "gTWENTY-FIVE: hDEGREES cKNIGHT-BISHOP cKNIGHT-QUEEN cKNIGHT-ROOK cPAWN dROTATED: eNINETY:",
   "fDEGREES eTWO: fHUNDRED: gSEVENTY: hDEGREES cQUEEN dROTATED: eNINETY: fDEGREES eTWO: fHUNDRED:",
   "gSEVENTY: hDEGREES cROOK dROTATED: eNINETY: fDEGREES eTWO: fHUNDRED: gSEVENTY: hDEGREES",
   "cTURNED: dBISHOP dKING dKNIGHT dPAWN dQUEEN dROOK bCIRCLE cFOR: dRECORD cWITH: dDOWN: eARROW",
   "dTWO: eWHITE: fDOTS dWHITE: eDOT: fRIGHT bCLUB: cSUIT bCROSS: cON: dSHIELD bCURVED:",
   "cDOWNWARDS: dAND: eLEFTWARDS: fARROW eRIGHTWARDS: fARROW cLEFTWARDS: dAND: eDOWNWARDS: fARROW",
   "eUPWARDS: fARROW cRIGHTWARDS: dAND: eDOWNWARDS: fARROW eUPWARDS: fARROW cUPWARDS: dAND:",
   "eLEFTWARDS: fARROW eRIGHTWARDS: fARROW bDIAMOND cCENTRED cMINUS: dWHITE: eX cON: dCROSS cSUIT",
   "cWITH: dDOWN: eARROW bDOWN: cPOINTING: dBACKHAND: eINDEX bDOWN-POINTING: cDOUBLE: dTRIANGLE",
   "cISOSCELES: dRIGHT: eTRIANGLE cSMALL: dTRIANGLE cTRIANGLE bDOWNWARDS: cEQUILATERAL: dARROWHEAD",
   "bDRAUGHTS: cKING cMAN bDROPLET bFLAG bFLORETTE bFOLDER bFOUR: cPOINTED: dSTAR bHARD: cSHELL:",
   "dFLOPPY: eDISK bHEART cSUIT bHEXAGON bHORIZONTAL: cELLIPSE bHOURGLASS bLARGE: cCIRCLE cSQUARE",
   "bLEFT: cLANE: dMERGE cPOINTING: dBACKHAND: eINDEX dINDEX bLEFT-POINTING: cDOUBLE: dTRIANGLE",
   "eWITH: fVERTICAL: gBAR cISOSCELES: dRIGHT: eTRIANGLE cPOINTER cSMALL: dTRIANGLE cTRIANGLE",
   "bLEFTWARDS: cBULLET cEQUILATERAL: dARROWHEAD bLOWER: cLEFT: dTRIANGLE cRIGHT: dTRIANGLE",
   "bLOZENGE bMEDIUM: cDIAMOND cDOWN-POINTING: dTRIANGLE eCENTRED cLEFT-POINTING: dTRIANGLE",
   "eCENTRED cLOZENGE cRIGHT-POINTING: dTRIANGLE eCENTRED cSMALL: dDIAMOND dLOZENGE dSQUARE",
   "cSQUARE cUP-POINTING: dTRIANGLE eCENTRED bMOON: cLILITH bNIB bOCTAGON bPARALLELOGRAM bPENNANT",
   "bPENTAGON bPUSHPIN bQUESTION: cMARK: dORNAMENT bRECTANGLE bRIGHT: cPOINTING: dBACKHAND: eINDEX",
   "dINDEX bRIGHT-POINTING: cDOUBLE: dTRIANGLE eWITH: fVERTICAL: gBAR cISOSCELES: dRIGHT:",
   "eTRIANGLE cPENTAGON cPOINTER cSMALL: dTRIANGLE cTRIANGLE dWITH: eDOUBLE: fVERTICAL: gBAR",
   "bRIGHTWARDS: cARROW cARROWHEAD cBULLET cEQUILATERAL: dARROWHEAD bROSETTE bSAFETY: cSCISSORS",
   "bSCISSORS bSHOGI: cPIECE bSKULL: cAND: dCROSSBONES bSLIGHTLY: cSMALL: dCIRCLE dSQUARE bSMALL:",
   "cDIAMOND cLOZENGE cSQUARE cSTAR bSMILING: cFACE bSNOWMAN bSPADE: cSUIT bSQUARE cBUTTON",
   "cCENTRED cFOR: dSTOP bSTAR bSUN: cWITH: dRAYS bTELEPHONE bTINY: cDIAMOND cLOZENGE cSQUARE",
   "bTOUCHTONE: cTELEPHONE bTRUCK bTWO-WAY: cLEFT: dWAY: eTRAFFIC bUNIVERSAL: cRECYCLING: dSYMBOL",
   "bUP: cPOINTING: dBACKHAND: eINDEX bUP-POINTING: cDOUBLE: dTRIANGLE cISOSCELES: dRIGHT:",
   "eTRIANGLE cSMALL: dTRIANGLE cTRIANGLE bUPPER: cLEFT: dTRIANGLE cRIGHT: dTRIANGLE bUPWARDS:",
   "cEQUILATERAL: dARROWHEAD bVERTICAL: cELLIPSE cRECTANGLE bVERY: cSMALL: dDIAMOND dLOZENGE",
   "dSQUARE aBLACK-FEATHERED: bNORTH: cEAST: dARROW bRIGHTWARDS: cARROW bSOUTH: cEAST: dARROW",
   "aBLACK-LETTER: bCAPITAL: cC cH cI cR cZ aBLANK: bSYMBOL aBLOCK: bSEXTANT-1 bSEXTANT-12",
   "bSEXTANT-123 bSEXTANT-1234 bSEXTANT-12345 bSEXTANT-12346 bSEXTANT-1235 bSEXTANT-12356",
   "bSEXTANT-1236 bSEXTANT-124 bSEXTANT-1245 bSEXTANT-12456 bSEXTANT-1246 bSEXTANT-125",
   "bSEXTANT-1256 bSEXTANT-126 bSEXTANT-13 bSEXTANT-134 bSEXTANT-1345 bSEXTANT-13456 bSEXTANT-1346",
   "bSEXTANT-1356 bSEXTANT-136 bSEXTANT-14 bSEXTANT-145 bSEXTANT-1456 bSEXTANT-146 bSEXTANT-15",
   "bSEXTANT-156 bSEXTANT-16 bSEXTANT-2 bSEXTANT-23 bSEXTANT-234 bSEXTANT-2345 bSEXTANT-23456",
   "bSEXTANT-2346 bSEXTANT-235 bSEXTANT-2356 bSEXTANT-236 bSEXTANT-24 bSEXTANT-245 bSEXTANT-2456",
   "bSEXTANT-25 bSEXTANT-256 bSEXTANT-26 bSEXTANT-3 bSEXTANT-34 bSEXTANT-345 bSEXTANT-3456",
   "bSEXTANT-346 bSEXTANT-35 bSEXTANT-356 bSEXTANT-36 bSEXTANT-4 bSEXTANT-45 bSEXTANT-456",
   "bSEXTANT-46 bSEXTANT-5 bSEXTANT-56 bSEXTANT-6 aBLOSSOM aBLOWFISH aBLUE: bBOOK bHEART",
   "aBLUEBERRIES aBOAR aBOLD: bEIGHT: cSPOKED: dASTERISK bFIVE: cSPOKED: dASTERISK bGREEK: cCROSS",
   "bSALTIRE bSIX: cSPOKED: dASTERISK bWHITE: cCIRCLE cSQUARE aBOM aBOMB aBONE aBOOK aBOOKMARK",
   "bTABS aBOOKS aBOOMERANG aBOPOMOFO: bFINAL: cLETTER: dG dH dK dP dT bLETTER: cA cAH cAI cAINN",
   "cAM cAN cANG cANN cAU cAUNN cB cBU cC cCH cD cE cEE cEH cEI cEN cENG cENN cER cF cG cGH cGN",
   "cGU cGW cH cI cIH cIM cINN cINNN cIR cIU cJ cJI cK cKW cL cLH cM cN cNG cNGG cNN cO dWITH:",
   "eDOT: fABOVE cOE cOM cONG cONN cOO cOU cP cQ cR cS cSH cT cU cUNN cV cX cZ cZH cZI cZY",
   "aBOTTLE: bWITH: cPOPPING: dCORK aBOTTOM: bARC: cANTICLOCKWISE: dARROW bCURLY: cBRACKET bHALF:",
   "cBLACK: dCIRCLE cINTEGRAL cLEFT: dPARENTHESIS cRIGHT: dPARENTHESIS bLEFT: cCORNER cCROP cHALF:",
   "dBRACKET bPARENTHESIS bRIGHT: cCORNER cCROP cHALF: dBRACKET bSQUARE: cBRACKET dOVER: eTOP:",
   "fSQUARE: gBRACKET bTORTOISE: cSHELL: dBRACKET aBOUQUET bOF: cFLOWERS aBOW: bAND: cARROW aBOWL:",
   "bOF: cHYGIEIA bWITH: cSPOON aBOWLING aBOWTIE bWITH: cLEFT: dHALF: eBLACK cRIGHT: dHALF: eBLACK",
   "aBOX: bDRAWINGS: cDOUBLE: dDOWN: eAND: fHORIZONTAL fLEFT fRIGHT dHORIZONTAL dUP: eAND:",
   "fHORIZONTAL fLEFT fRIGHT dVERTICAL eAND: fHORIZONTAL fLEFT fRIGHT cDOWN: dDOUBLE: eAND:",
   "fHORIZONTAL: gSINGLE fLEFT: gSINGLE fRIGHT: gSINGLE dHEAVY: eAND: fHORIZONTAL: gLIGHT fLEFT:",
   "gLIGHT gUP: hLIGHT fRIGHT: gLIGHT gUP: hLIGHT fUP: gHORIZONTAL: hLIGHT dLIGHT: eAND:",
   "fHORIZONTAL: gHEAVY fLEFT: gHEAVY gUP: hHEAVY fRIGHT: gHEAVY gUP: hHEAVY fUP: gHORIZONTAL:",
   "hHEAVY dSINGLE: eAND: fHORIZONTAL: gDOUBLE fLEFT: gDOUBLE fRIGHT: gDOUBLE cHEAVY: dDOUBLE:",
   "eDASH: fHORIZONTAL fVERTICAL dDOWN eAND: fHORIZONTAL fLEFT fRIGHT dHORIZONTAL dLEFT eAND:",
   "fLIGHT: gRIGHT dQUADRUPLE: eDASH: fHORIZONTAL fVERTICAL dRIGHT dTRIPLE: eDASH: fHORIZONTAL",
   "fVERTICAL dUP eAND: fHORIZONTAL fLEFT fLIGHT: gDOWN fRIGHT dVERTICAL eAND: fHORIZONTAL fLEFT",
   "fRIGHT cLEFT: dDOWN: eHEAVY: fAND: gRIGHT: hUP: iLIGHT dHEAVY: eAND: fRIGHT: gDOWN: hLIGHT",
   "gUP: hLIGHT gVERTICAL: hLIGHT dLIGHT: eAND: fRIGHT: gDOWN: hHEAVY gUP: hHEAVY gVERTICAL:",
   "hHEAVY dUP: eHEAVY: fAND: gRIGHT: hDOWN: iLIGHT cLIGHT: dARC: eDOWN: fAND: gLEFT gRIGHT eUP:",
   "fAND: gLEFT gRIGHT dDIAGONAL: eCROSS eDIAMOND eMIDDLE: fLEFT: gTO: hLOWER: iCENTRE jTO:",
   "kMIDDLE: lRIGHT hUPPER: iCENTRE: jTO: kMIDDLE: lRIGHT mTO: nLOWER: oCENTRE fRIGHT: gTO:",
   "hLOWER: iCENTRE hUPPER: iCENTRE: jTO: kMIDDLE: lLEFT: mTO: nLOWER: oCENTRE eUPPER: fCENTRE:",
   "gTO: hMIDDLE: iLEFT jAND: kMIDDLE: lRIGHT: mTO: nLOWER: oCENTRE jTO: kLOWER: lCENTRE mTO:",
   "nMIDDLE: oRIGHT iRIGHT jAND: kMIDDLE: lLEFT: mTO: nLOWER: oCENTRE jTO: kLOWER: lCENTRE mTO:",
   "nMIDDLE: oLEFT fLEFT: gTO: hLOWER: iRIGHT fRIGHT: gTO: hLOWER: iLEFT dDOUBLE: eDASH:",
   "fHORIZONTAL fVERTICAL dDOWN eAND: fHORIZONTAL fLEFT fRIGHT dHORIZONTAL eWITH: fVERTICAL:",
   "gSTROKE dLEFT eAND: fHEAVY: gRIGHT dQUADRUPLE: eDASH: fHORIZONTAL fVERTICAL dRIGHT dTRIPLE:",
   "eDASH: fHORIZONTAL fVERTICAL dUP eAND: fHEAVY: gDOWN fHORIZONTAL fLEFT fRIGHT dVERTICAL eAND:",
   "fHORIZONTAL fLEFT fRIGHT cRIGHT: dDOWN: eHEAVY: fAND: gLEFT: hUP: iLIGHT dHEAVY: eAND: fLEFT:",
   "gDOWN: hLIGHT gUP: hLIGHT gVERTICAL: hLIGHT dLIGHT: eAND: fLEFT: gDOWN: hHEAVY gUP: hHEAVY",
   "gVERTICAL: hHEAVY dUP: eHEAVY: fAND: gLEFT: hDOWN: iLIGHT cUP: dDOUBLE: eAND: fHORIZONTAL:",
   "gSINGLE fLEFT: gSINGLE fRIGHT: gSINGLE dHEAVY: eAND: fDOWN: gHORIZONTAL: hLIGHT fHORIZONTAL:",
   "gLIGHT fLEFT: gDOWN: hLIGHT gLIGHT fRIGHT: gDOWN: hLIGHT gLIGHT dLIGHT: eAND: fDOWN:",
   "gHORIZONTAL: hHEAVY fHORIZONTAL: gHEAVY fLEFT: gDOWN: hHEAVY gHEAVY fRIGHT: gDOWN: hHEAVY",
   "gHEAVY dSINGLE: eAND: fHORIZONTAL: gDOUBLE fLEFT: gDOUBLE fRIGHT: gDOUBLE cVERTICAL: dDOUBLE:",
   "eAND: fHORIZONTAL: gSINGLE fLEFT: gSINGLE fRIGHT: gSINGLE dHEAVY: eAND: fHORIZONTAL: gLIGHT",
   "fLEFT: gLIGHT fRIGHT: gLIGHT dLIGHT: eAND: fHORIZONTAL: gHEAVY fLEFT: gHEAVY fRIGHT: gHEAVY",
   "dSINGLE: eAND: fHORIZONTAL: gDOUBLE fLEFT: gDOUBLE fRIGHT: gDOUBLE aBOXING: bGLOVE aBOY aBOYS:",
   "bSYMBOL aBPH aBRAHMI: bDANDA bDIGIT: cEIGHT cFIVE cFOUR cNINE cONE cSEVEN cSIX cTHREE cTWO",
   "cZERO bDOUBLE: cDANDA bLETTER: cA cAA cAI cAU cBA cBHA cCA cCHA cDA cDDA cDDHA cDHA cE cGA",
   "cGHA cHA cI cII cJA cJHA cKA cKHA cLA cLLA cMA cNA cNGA cNNA cNYA cO cOLD: dTAMIL: eLLA eLLLA",
   "eNNNA eRRA eSHORT: fE fO cPA cPHA cRA cSA cSHA cSSA cTA cTHA cTTA cTTHA cU cUU cVA cVOCALIC:",
   "dL dLL dR dRR cYA bNUMBER: cEIGHT cEIGHTY cFIFTY cFIVE cFORTY cFOUR cJOINER cNINE cNINETY cONE",
   "dHUNDRED dTHOUSAND cSEVEN cSEVENTY cSIX cSIXTY cTEN cTHIRTY cTHREE cTWENTY cTWO bPUNCTUATION:",
   "cCRESCENT: dBAR cDOT cDOUBLE: dDOT cLINE cLOTUS bSIGN: cANUSVARA cCANDRABINDU cJIHVAMULIYA",
   "cOLD: dTAMIL: eVIRAMA cUPADHMANIYA cVISARGA bVIRAMA bVOWEL: cSIGN: dAA dAI dAU dBHATTIPROLU:",
   "eAA dE dI dII dO dOLD: eTAMIL: fSHORT: gE gO dU dUU dVOCALIC: eL eLL eR eRR aBRAILLE:",
   "bPATTERN: cBLANK cDOTS-1 cDOTS-12 cDOTS-123 cDOTS-1234 cDOTS-12345 cDOTS-123456 cDOTS-1234567",
   "cDOTS-12345678 cDOTS-1234568 cDOTS-123457 cDOTS-1234578 cDOTS-123458 cDOTS-12346 cDOTS-123467",
   "cDOTS-1234678 cDOTS-123468 cDOTS-12347 cDOTS-123478 cDOTS-12348 cDOTS-1235 cDOTS-12356",
   "cDOTS-123567 cDOTS-1235678 cDOTS-123568 cDOTS-12357 cDOTS-123578 cDOTS-12358 cDOTS-1236",
   "cDOTS-12367 cDOTS-123678 cDOTS-12368 cDOTS-1237 cDOTS-12378 cDOTS-1238 cDOTS-124 cDOTS-1245",
   "cDOTS-12456 cDOTS-124567 cDOTS-1245678 cDOTS-124568 cDOTS-12457 cDOTS-124578 cDOTS-12458",
   "cDOTS-1246 cDOTS-12467 cDOTS-124678 cDOTS-12468 cDOTS-1247 cDOTS-12478 cDOTS-1248 cDOTS-125",
   "cDOTS-1256 cDOTS-12567 cDOTS-125678 cDOTS-12568 cDOTS-1257 cDOTS-12578 cDOTS-1258 cDOTS-126",
   "cDOTS-1267 cDOTS-12678 cDOTS-1268 cDOTS-127 cDOTS-1278 cDOTS-128 cDOTS-13 cDOTS-134 cDOTS-1345",
   "cDOTS-13456 cDOTS-134567 cDOTS-1345678 cDOTS-134568 cDOTS-13457 cDOTS-134578 cDOTS-13458",
   "cDOTS-1346 cDOTS-13467 cDOTS-134678 cDOTS-13468 cDOTS-1347 cDOTS-13478 cDOTS-1348 cDOTS-135",
   "cDOTS-1356 cDOTS-13567 cDOTS-135678 cDOTS-13568 cDOTS-1357 cDOTS-13578 cDOTS-1358 cDOTS-136",
   "cDOTS-1367 cDOTS-13678 cDOTS-1368 cDOTS-137 cDOTS-1378 cDOTS-138 cDOTS-14 cDOTS-145 cDOTS-1456",
   "cDOTS-14567 cDOTS-145678 cDOTS-14568 cDOTS-1457 cDOTS-14578 cDOTS-1458 cDOTS-146 cDOTS-1467",
   "cDOTS-14678 cDOTS-1468 cDOTS-147 cDOTS-1478 cDOTS-148 cDOTS-15 cDOTS-156 cDOTS-1567",
   "cDOTS-15678 cDOTS-1568 cDOTS-157 cDOTS-1578 cDOTS-158 cDOTS-16 cDOTS-167 cDOTS-1678 cDOTS-168",
   "cDOTS-17 cDOTS-178 cDOTS-18 cDOTS-2 cDOTS-23 cDOTS-234 cDOTS-2345 cDOTS-23456 cDOTS-234567",
   "cDOTS-2345678 cDOTS-234568 cDOTS-23457 cDOTS-234578 cDOTS-23458 cDOTS-2346 cDOTS-23467",
   "cDOTS-234678 cDOTS-23468 cDOTS-2347 cDOTS-23478 cDOTS-2348 cDOTS-235 cDOTS-2356 cDOTS-23567",
   "cDOTS-235678 cDOTS-23568 cDOTS-2357 cDOTS-23578 cDOTS-2358 cDOTS-236 cDOTS-2367 cDOTS-23678",
   "cDOTS-2368 cDOTS-237 cDOTS-2378 cDOTS-238 cDOTS-24 cDOTS-245 cDOTS-2456 cDOTS-24567",
   "cDOTS-245678 cDOTS-24568 cDOTS-2457 cDOTS-24578 cDOTS-2458 cDOTS-246 cDOTS-2467 cDOTS-24678",
   "cDOTS-2468 cDOTS-247 cDOTS-2478 cDOTS-248 cDOTS-25 cDOTS-256 cDOTS-2567 cDOTS-25678 cDOTS-2568",
   "cDOTS-257 cDOTS-2578 cDOTS-258 cDOTS-26 cDOTS-267 cDOTS-2678 cDOTS-268 cDOTS-27 cDOTS-278",
   "cDOTS-28 cDOTS-3 cDOTS-34 cDOTS-345 cDOTS-3456 cDOTS-34567 cDOTS-345678 cDOTS-34568 cDOTS-3457",
   "cDOTS-34578 cDOTS-3458 cDOTS-346 cDOTS-3467 cDOTS-34678 cDOTS-3468 cDOTS-347 cDOTS-3478",
   "cDOTS-348 cDOTS-35 cDOTS-356 cDOTS-3567 cDOTS-35678 cDOTS-3568 cDOTS-357 cDOTS-3578 cDOTS-358",
   "cDOTS-36 cDOTS-367 cDOTS-3678 cDOTS-368 cDOTS-37 cDOTS-378 cDOTS-38 cDOTS-4 cDOTS-45 cDOTS-456",
   "cDOTS-4567 cDOTS-45678 cDOTS-4568 cDOTS-457 cDOTS-4578 cDOTS-458 cDOTS-46 cDOTS-467 cDOTS-4678",
   "cDOTS-468 cDOTS-47 cDOTS-478 cDOTS-48 cDOTS-5 cDOTS-56 cDOTS-567 cDOTS-5678 cDOTS-568 cDOTS-57",
   "cDOTS-578 cDOTS-58 cDOTS-6 cDOTS-67 cDOTS-678 cDOTS-68 cDOTS-7 cDOTS-78 cDOTS-8 aBRAIN aBREAD",
   "aBREAK: bPERMITTED: cHERE aBREAST-FEEDING aBREVE aBRICK aBRIDE: bWITH: cVEIL aBRIDGE: bAT:",
   "cNIGHT aBRIEFCASE aBRIEFS aBROCCOLI aBROKEN: bBAR bCIRCLE: cWITH: dNORTHWEST: eARROW bHEART",
   "aBROOM aBROWN: bHEART aBS aBUBBLE: bTEA aBUBBLES aBUCKET aBUG aBUGINESE: bEND: cOF: dSECTION",
   "bLETTER: cA cBA cCA cDA cGA cHA cJA cKA cLA cMA cMPA cNA cNGA cNGKA cNRA cNYA cNYCA cPA cRA",
   "cSA cTA cVA cYA bPALLAWA bVOWEL: cSIGN: dAE dE dI dO dU aBUHID: bLETTER: cA cBA cDA cGA cHA cI",
   "cKA cLA cMA cNA cNGA cPA cRA cSA cTA cU cWA cYA bVOWEL: cSIGN: dI dU aBUILDING: bCONSTRUCTION",
   "aBULLET bOPERATOR aBULLHORN bWITH: cSOUND: dWAVES aBULLSEYE aBURRITO aBUS bSTOP aBUST: bIN:",
   "cSILHOUETTE aBUSTS: bIN: cSILHOUETTE aBUTTER aBUTTERFLY aBYTE: bORDER: cMARK aBYZANTINE:",
   "bMUSICAL: cSYMBOL: dAGOGI: eARGI eARGOTERI eGORGI eGORGOTERI eMESI eMETRIA ePOLI: fARGI fGORGI",
   "dANATRICHISMA dANTIKENOKYLISMA dANTIKENOMA dAPESO: eEKFONITIKON eEXO: fNEO dAPLI dAPODERMA:",
   "eARCHAION eNEO dAPOSTROFOI: eSYNDESMOS: fNEO eTELOUS: fICHIMATOS dAPOSTROFOS eDIPLI eNEO",
   "dAPOTHEMA dARGON dARGOSYNTHETON dARKTIKO: eDI eGA eKE eNI ePA eVOU eZO dCHAMILI dCHAMILON",
   "dCHOREVMA: eARCHAION eNEO dCHROA: eKLITON eSPATHI eZYGOS dDASEIA dDIARGON dDIASTOLI: eAPLI:",
   "fMEGALI fMIKRI eDIPLI eTHESEOS dDIESIS: eAPLI: fDYO: gDODEKATA eDIGRAMMOS: fEX: gDODEKATA",
   "eMONOGRAMMOS: fTESSERA: gDODEKATA eTETARTIMORION eTRIGRAMMOS: fOKTO: gDODEKATA eTRITIMORION",
   "dDIFTOGGOS: eOU dDIGORGON ePARESTIGMENON: fARISTERA: gANO gKATO fDEXIA dDIGRAMMA: eGG dDIPLI",
   "eARCHAION dDYO dEKSTREPTON dELAFRON dENARXIS: eKAI: fFTHORA: gVOU dENDOFONON dEPEGERMA",
   "dETERON: eARGOSYNTHETON ePARAKALESMA dEXO: eEKFONITIKON dFANEROSIS: eDIFONIAS eMONOFONIAS",
   "eTETRAFONIAS dFHTORA: eSKLIRON: fCHROMA: gVASIS dFTHORA: eARCHAION fDEYTEROU: gICHOU",
   "eDIATONIKI: fDI fKE fNANA fNI: gANO gKATO fPA fZO eENARMONIOS: fANTIFONIA eI: fYFESIS:",
   "gTETARTIMORION eMALAKON: fCHROMA: gDIFONIAS gMONOFONIAS eNAOS: fICHOS eNENANO eSKLIRON:",
   "fCHROMA: gSYNAFI gVASIS fDIATONON: gDI dGENIKI: eDIESIS eYFESIS dGORGON: eARCHAION eNEO: fANO",
   "fKATO ePARESTIGMENON: fARISTERA fDEXIA dGORGOSYNTHETON dGORTHMIKON: eN: fAPLOUN fDIPLOUN",
   "dGRONTHISMATA dICHADIN dIMIDIARGON dIMIFONON dIMIFTHORA dIMIFTHORON dISAKIA: eTELOUS:",
   "fICHIMATOS dISON: eARCHAION eNEO dKATAVA: eTROMIKON dKATAVASMA dKATHISTI dKENTIMA: eARCHAION",
   "eNEO: fANO fKATO fMESO dKENTIMATA eARCHAION eNEO: fANO fKATO fMESO dKLASMA eANO eKATO",
   "dKONTEVMA eALLO dKORONIS dKOUFISMA dKRATIMA: eALLO eARCHAION eNEO dKRATIMATA dKRATIMOKOUFISMA",
   "dKRATIMOYPORROON dKREMASTI dKYLISMA dLEIMMA: eDYO: fCHRONON eENOS: fCHRONOU eIMISEOS: fCHRONOU",
   "eTESSARON: fCHRONON eTRION: fCHRONON dLEMOI dLYGISMA dMARTYRIA: eALLI: fDEYTEROS: gICHOS",
   "fPROTOS: gICHOS eDEYTEROS: fICHOS eLEGETOS: fICHOS ePLAGIOS: fICHOS fTETARTOS: gICHOS ePROTOS:",
   "fICHOS ePROTOVARYS: fICHOS eTETARTOS: fICHOS fLEGETOS: gICHOS eTRIFONIAS eTRITOS: fICHOS",
   "eVARYS: fICHOS dMIKRON: eISON dNANA dOLIGON: eARCHAION eNEO dOMALON dOXEIA: eDIPLI",
   "eEKFONITIKON eNEO dOXEIAI: eARCHAION dOYRANISMA: eARCHAION eNEO dPARAKALESMA: eARCHAION eNEO",
   "dPARAKLITIKI eARCHAION eNEO dPARICHON dPELASTON eNEO dPERISPOMENI dPETASMA dPETASTI",
   "dPETASTOKOUFISMA dPIASMA: eARCHAION eNEO dPSIFISTOLYGISMA dPSIFISTON eNEO dPSIFISTOPARAKALESMA",
   "dPSIFISTOSYNAGMA dPSILI dPSILON dRAPISMA dREVMA dSAXIMATA dSEISMA eNEO dSIMANSIS: eARSEOS",
   "fDISIMOU fTETRASIMOU fTRISIMOU eTHESEOS fDISIMOU fTETRASIMOU fTRISIMOU dSTAVROS eAPODEXIA",
   "dSTIGMA dSTRAGGISMATA dSYNAGMA: eARCHAION eMETA: fSTAVROU eNEO dSYNEVMA dSYRMA dSYRMATIKI",
   "dTELEIA dTESSERA dTETRAPLI dTHEMA eAPLOUN dTHEMATISMOS: eESO eEXO dTHES: eKAI: fAPOTHES dTHITA",
   "dTINAGMA dTRIA dTRIGORGON dTRIPLI dTROMIKOLYGISMA dTROMIKON: eALLO eARCHAION eNEO",
   "dTROMIKOPARAKALESMA dTROMIKOPSIFISTON dTROMIKOSYNAGMA dVAREIA: eDIPLI eEKFONITIKON eNEO",
   "dVAREIAI: eARCHAION dVATHY dXIRON: eKLASMA dYFEN: eANO eKATO dYFESIS: eAPLI: fDYO: gDODEKATA",
   "eDIGRAMMOS: fEX: gDODEKATA eMONOGRAMMOS: fTESSERA: gDODEKATA eTRIGRAMMOS: fOKTO: gDODEKATA",
   "eTRITIMORION dYPOKRISIS eDIPLI dYPORROI dYPSILI aCACTUS aCADA: bUNA aCADUCEUS aCALENDAR aCALL:",
   "bME: cHAND aCAMERA bWITH: cFLASH aCAMPING aCAN aCANADIAN: bSYLLABICS: cA cAA cAAI cAAY cAI",
   "cAIVILIK: dB cAN cATHAPASCAN: dM dS cAY cBEAVER: dDENE: eL eR cBIBLE-CREE: dY cBLACKFOOT: dA",
   "dE dI dKA dKE dKI dKO dNA dNE dNI dNO dO dS dW dWA dWE dWI dWO cC cCA cCAA cCAAI cCARRIER:",
   "dCHA dCHE dCHEE dCHI dCHO dCHU dDEE dDENE: eGEE dDENTAL: eS dDI dDLA dDLE dDLEE dDLI dDLO dDLU",
   "dDZA dDZE dDZEE dDZI dDZO dDZU dEE dGA dGAA dGE dGEE dGHA dGHE dGHEE dGHI dGHO dGHU dGI dGO",
   "dGU dGWA dGWU dH dHEE dHI dHWA dHWE dHWEE dHWI dHWO dHWU dI dINITIAL: eZ dJA dJE dJEE dJI dJJA",
   "dJJE dJJEE dJJI dJJO dJJU dJO dJU dJWA dKHA dKHE dKHEE dKHI dKHO dKHU dKK dKKA dKKE dKKEE dKKI",
   "dKKO dKKU dLA dLE dLEE dLHA dLHE dLHEE dLHI dLHO dLHU dLI dLO dLU dMA dME dMEE dMI dMO dMU dNA",
   "dNE dNEE dNG dNI dNO dNU dP dPA dPE dPEE dPI dPO dPU dRA dRE dREE dRI dRO dRU dSA dSE dSEE dSH",
   "dSHA dSHE dSHEE dSHI dSHO dSHU dSI dSO dSU dTHA dTHE dTHEE dTHI dTHO dTHU dTLA dTLE dTLEE",
   "dTLHA dTLHE dTLHEE dTLHI dTLHO dTLHU dTLI dTLO dTLU dTSA dTSE dTSEE dTSI dTSO dTSU dTTA dTTE",
   "dTTEE dTTI dTTO dTTSA dTTSE dTTSEE dTTSI dTTSO dTTSU dTTU dWA dWE dWEE dWI dWO dWU dYA dYE",
   "dYEE dYI dYO dYU dZ dZA dZE dZEE dZI dZO dZU cCE cCHI: dSIGN cCI cCII cCO cCOO cCWA cCWAA cCWE",
   "cCWI cCWII cCWO cCWOO cE cEASTERN: dW cEN cF cFA cFAA cFAAI cFE cFI cFII cFINAL: dACUTE",
   "dBOTTOM: eHALF: fRING dDOUBLE: eACUTE eSHORT: fVERTICAL: gSTROKES dDOWN: eTACK dGRAVE dMIDDLE:",
   "eDOT dPLUS dRAISED: eDOT dRIGHT: eHALF: fRING dRING dSHORT: eHORIZONTAL: fSTROKE dSMALL: eRING",
   "dTOP: eHALF: fRING cFO cFOO cFULL: dSTOP cFWAA cGLOTTAL: dSTOP cHK cHYPHEN cI cII cIN cK cKA",
   "cKAA cKAAI cKAY cKE cKI cKII cKO cKOO cKW cKWA cKWAA cKWAY cKWE cKWI cKWII cKWO cKWOO cL cLA",
   "cLAA cLAAI cLAY cLE cLH cLHA cLHAA cLHI cLHII cLHO cLHOO cLI cLII cLO cLOO cLWA cLWAA cLWE",
   "cLWI cLWII cLWO cLWOO cM cMA cMAA cMAAI cMAY cME cMEDIAL: dL dR cMH cMI cMII cMO cMOO",
   "cMOOSE-CREE: dSK cMWA cMWAA cMWE cMWI cMWII cMWO cMWOO cN cN-CREE: dTHE dTHI dTHII cNA cNAA",
   "cNAAI cNASKAPI: dCWAA dKWAA dMWAA dNWAA dS-W dSCWA dSKW dSKWA dSPWA dSTWA dSWAA dTWAA dWAA",
   "dWOO dYWAA cNATTILIK: dHA dHAA dHI dHII dHO dHOO dSHRA dSHRAA dSHRI dSHRII dSHRO dSHROO cNAY",
   "cNE cNG cNGA cNGAA cNGAAI cNGAI cNGI cNGII cNGO cNGOO cNH cNI cNII cNNG cNNGA cNNGAA cNNGI",
   "cNNGII cNNGO cNNGOO cNO cNOO cNOY cNUNAVIK: dH dHA dHAA dHE dHI dHII dHO dHOO cNUNAVUT: dH",
   "cNWA cNWAA cNWE cNWI cNWII cNWO cNWOO cO cOJIBWAY: dC dK dM dN dNWI dNWII dNWO dNWOO dP dS dSH",
   "dT cON cOO cOY cP cPA cPAA cPAAI cPAY cPE cPI cPII cPO cPOO cPOY cPWA cPWAA cPWE cPWI cPWII",
   "cPWO cPWOO cPWOY cQ cQA cQAA cQAAI cQAI cQI cQII cQO cQOO cR cR-CREE: dRE dRWE cRA cRAA cRAAI",
   "cRAY cRE cRI cRII cRO cROO cRWA cRWAA cRWEE cRWI cRWII cRWO cRWOO cS cSA cSAA cSAAI cSAY",
   "cSAYISI: dHA dHE dHI dHO dHOO dJI dJU dJUU dM dSHA dSHE dSHI dSHO dSHOO dSHWE dTH dYI cSE cSH",
   "cSHA cSHAA cSHAY cSHE cSHI cSHII cSHO cSHOO cSHOY cSHWA cSHWAA cSHWE cSHWI cSHWII cSHWO cSHWOO",
   "cSHWOY cSI cSII cSO cSOO cSOUTH-SLAVEY: dKAH dKEH dKIH dKOH cSOY cSPA cSPE cSPI cSPO cSW cSWA",
   "cSWAA cSWE cSWI cSWII cSWO cSWOO cT cTA cTAA cTAAI cTAY cTE cTH cTH-CREE: dTH dTHA dTHAA dTHE",
   "dTHI dTHII dTHO dTHOO cTHA cTHAA cTHE cTHI cTHII cTHO cTHOO cTHWA cTHWAA cTHWE cTI cTII cTLHA",
   "cTLHE cTLHI cTLHO cTLHOO cTLHWE cTO cTOO cTTA cTTE cTTH cTTHA cTTHAA cTTHE cTTHI cTTHO cTTHOO",
   "cTTHWE cTTI cTTO cTWA cTWAA cTWE cTWI cTWII cTWO cTWOO cTYA cTYE cTYI cTYO cWA cWAA cWAY cWE",
   "cWEST-CREE: dCWA dCWAA dCWE dCWI dCWII dCWO dCWOO dFWAA dKWA dKWAA dKWE dKWI dKWII dKWO dKWOO",
   "dL dLA dLAA dLE dLO dLOO dLWA dLWAA dLWE dLWI dLWII dLWO dLWOO dM dMWA dMWAA dMWE dMWI dMWII",
   "dMWO dMWOO dNWA dNWAA dNWE dP dPWA dPWAA dPWE dPWI dPWII dPWO dPWOO dR dRA dRE dRI dRO dRWAA",
   "dSHWA dSHWAA dSHWE dSHWI dSHWII dSHWO dSHWOO dSWA dSWAA dSWE dSWI dSWII dSWO dSWOO dTHWAA dTWA",
   "dTWAA dTWE dTWI dTWII dTWO dTWOO dWA dWAA dWE dWI dWII dWO dWOO dY dYWA dYWAA dYWE dYWI dYWII",
   "dYWO dYWOO cWESTERN: dW cWI cWII cWO cWOO cWOODS-CREE: dFINAL: eTH dTH dTHA dTHE dTHI dTHO",
   "dTHWA dTHWAA dTHWEE dTHWI dTHWII dTHWO dTHWOO cY cY-CREE: dCOO dKOO dLOO dMOO dNOO dOO dPOO",
   "dPWAA dSOO dTOO dW dYOO cYA cYAA cYAAI cYAY cYE cYI cYII cYO cYOO cYOY cYWA cYWAA cYWE cYWI",
   "cYWII cYWO cYWOO aCANCEL bCHARACTER bTAG aCANCELLATION: bX aCANCER aCANDLE aCANDY aCANNED:",
   "bFOOD aCANOE aCAPITULUM aCAPRICORN aCAR: bSLIDING aCARD: bFILE: cBOX bINDEX cDIVIDERS aCARE:",
   "bOF aCARET bINSERTION: cPOINT aCARIAN: bLETTER: cA cA2 cB cC-18 cC-39 cD cD2 cE cE2 cG cG2 cI",
   "cII cK cK2 cL cLD cLD2 cM cMB cMB2 cMB3 cMB4 cN cND cNG cNN cO cP cP2 cQ cR cRR cS cSH cSH2",
   "cSS cST cST2 cT cTT cTT2 cU cUU cUUU cUUU2 cUUU3 cUUUU cX aCARON aCAROUSEL: bHORSE aCARP:",
   "bSTREAMER aCARPENTRY: bSAW aCARRIAGE: bRETURN aCARROT aCASTLE aCAT bFACE cWITH: dTEARS: eOF:",
   "fJOY dWRY: eSMILE aCAUCASIAN: bALBANIAN: cCITATION: dMARK cLETTER: dALT dAOR dBET dCAR dCAYN",
   "dCHA dCHAT dCHI dCHOY dCYAW dCYAY dDAT dDYAN dDZAY dDZYAY dEB dEYN dFAM dGHEYS dGIM dHEYT",
   "dINYA dIRB dIWN dJAYN dJHOX dKAR dKIW dLAN dLYIT dMAQ dNOWC dON dPEN dPIWR dQAR dQAY dRAT",
   "dSEYK dSHA dSHAK dSHOY dTAS dTIWR dTYAY dVEYZ dXEYN dYAYD dYOWD dZARL dZHA dZHIL aCAUTION:",
   "bSIGN aCCH aCEDI: bSIGN aCEDILLA aCELTIC: bCROSS aCENT: bSIGN aCENTRE: bLINE: cSYMBOL",
   "aCENTRELINE: bLOW: cLINE bOVERLINE aCERES aCGJ aCHAINS aCHAIR aCHAKMA: bAU: cMARK bDANDA",
   "bDIGIT: cEIGHT cFIVE cFOUR cNINE cONE cSEVEN cSIX cTHREE cTWO cZERO bDOUBLE: cDANDA bLETTER:",
   "cAA cBAA cBHAA cCAA cCHAA cDAA cDDAA cDDHAA cDHAA cE cGAA cGHAA cHAA cI cJAA cJHAA cKAA cKHAA",
   "cLAA cLHAA cMAA cNAA cNGAA cNNAA cNYAA cPAA cPHAA cRAA cSAA cTAA cTHAA cTTAA cTTHAA cU cVAA",
   "cWAA cYAA cYYAA bMAAYYAA bO: cMARK bQUESTION: cMARK bSECTION: cMARK bSIGN: cANUSVARA",
   "cCANDRABINDU cVISARGA bVIRAMA bVOWEL: cSIGN: dA dAA dAI dAU dE dEI dI dII dO dOI dU dUU aCHAM:",
   "bCONSONANT: cSIGN: dFINAL: eH eM eNG dLA dRA dWA dYA bDIGIT: cEIGHT cFIVE cFOUR cNINE cONE",
   "cSEVEN cSIX cTHREE cTWO cZERO bLETTER: cA cAI cBA cBBA cBHA cCHA cCHHA cDA cDDA cDHA cE",
   "cFINAL: dCH dG dK dL dN dNG dP dR dSS dT dY cGA cGHA cHA cI cJA cJHA cKA cKHA cLA cMA cMUE cNA",
   "cNGA cNGUE cNHA cNHJA cNHUE cNUE cO cPA cPHA cPPA cRA cSA cSSA cTA cTHA cU cVA cYA",
   "bPUNCTUATION: cDANDA cDOUBLE: dDANDA cSPIRAL cTRIPLE: dDANDA bVOWEL: cSIGN: dAA dAI dAU dEI dI",
   "dII dO dOE dU dUE aCHARACTER: bTABULATION cSET cWITH: dJUSTIFICATION bTIE aCHART: bWITH:",
   "cDOWNWARDS: dTREND cUPWARDS: dTREND eAND: fYEN: gSIGN aCHECK: bMARK aCHECKER: bBOARD cFILL",
   "aCHEERING: bMEGAPHONE aCHEESE: bWEDGE aCHEQUERED: bFLAG aCHEROKEE: bLETTER: cA cDA cDE cDI",
   "cDLA cDO cDU cDV cE cGA cGE cGI cGO cGU cGV cHA cHE cHI cHNA cHO cHU cHV cI cKA cLA cLE cLI",
   "cLO cLU cLV cMA cME cMI cMO cMU cMV cNA cNAH cNE cNI cNO cNU cNV cO cQUA cQUE cQUI cQUO cQUU",
   "cQUV cS cSA cSE cSI cSO cSU cSV cTA cTE cTI cTLA cTLE cTLI cTLO cTLU cTLV cTSA cTSE cTSI cTSO",
   "cTSU cTSV cU cV cWA cWE cWI cWO cWU cWV cYA cYE cYI cYO cYU cYV bSMALL: cLETTER: dA dDA dDE",
   "dDI dDLA dDO dDU dDV dE dGA dGE dGI dGO dGU dGV dHA dHE dHI dHNA dHO dHU dHV dI dKA dLA dLE",
   "dLI dLO dLU dLV dMA dME dMI dMO dMU dMV dNA dNAH dNE dNI dNO dNU dNV dO dQUA dQUE dQUI dQUO",
   "dQUU dQUV dS dSA dSE dSI dSO dSU dSV dTA dTE dTI dTLA dTLE dTLI dTLO dTLU dTLV dTSA dTSE dTSI",
   "dTSO dTSU dTSV dU dV dWA dWE dWI dWO dWU dWV dYA dYE dYI dYO dYU dYV aCHERRIES aCHERRY:",
   "bBLOSSOM aCHESTNUT aCHI: bRHO aCHICKEN aCHILD aCHILDREN: bCROSSING aCHIPMUNK aCHIRON",
   "aCHOCOLATE: bBAR aCHOPSTICKS aCHORASMIAN: bLETTER: cALEPH cAYIN cBETH cCURLED: dWAW cDALETH",
   "cGIMEL cHE cHETH cKAPH cLAMEDH cMEM cNUN cPE cRESH cSAMEKH cSHIN cSMALL: dALEPH cTAW cWAW",
   "cYODH cZAYIN bNUMBER: cFOUR cONE dHUNDRED cTEN cTHREE cTWENTY cTWO aCHRISTMAS: bTREE aCHURCH",
   "aCINEMA aCIRCLE: bDIVIDED: cBY: dHORIZONTAL: eBAR: fAND: gTOP: hHALF: iDIVIDED: jBY:",
   "kVERTICAL: lBAR bWITH: cALL: dBUT: eUPPER: fLEFT: gQUADRANT: hBLACK cHORIZONTAL: dBAR cLEFT:",
   "dHALF: eBLACK cLOWER: dHALF: eBLACK cRIGHT: dHALF: eBLACK cSMALL: dCIRCLE: eTO: fTHE: gRIGHT",
   "cSUPERIMPOSED: dX cTWO: dHORIZONTAL: eSTROKES: fTO: gTHE: hRIGHT cUPPER: dHALF: eBLACK dRIGHT:",
   "eQUADRANT: fBLACK cVERTICAL: dFILL aCIRCLED: bANTICLOCKWISE: cARROW bANTICLOCKWISE-ROTATED:",
   "cDIVISION: dSIGN bASTERISK: cOPERATOR bBOLD: cX bBULLET bC: cWITH: dOVERLAID: eBACKSLASH bCC",
   "bCD bCROSS: cFORMEE dWITH: eFOUR: fDOTS eTWO: fDOTS cPOMMEE bCROSSING: cLANES bDASH bDIGIT:",
   "cEIGHT cFIVE cFOUR cNINE cONE cSEVEN cSIX cTHREE cTWO cZERO bDIVISION: cSIGN cSLASH bDOLLAR:",
   "cSIGN: dWITH: eOVERLAID: fBACKSLASH bDOT: cOPERATOR bEQUALS bGREATER-THAN bHANGUL: cCHIEUCH dA",
   "cCIEUC dA cHIEUH dA cIEUNG dA dU cKHIEUKH dA cKIYEOK dA cMIEUM dA cNIEUN dA cPHIEUPH dA cPIEUP",
   "dA cRIEUL dA cSIOS dA cTHIEUTH dA cTIKEUT dA bHEAVY: cWHITE: dRIGHTWARDS: eARROW bHORIZONTAL:",
   "cBAR: dWITH: eNOTCH bHUMAN: cFIGURE bIDEOGRAPH: cACCEPT cADVANTAGE cALLIANCE cATTENTION",
   "cCENTRE cCONGRATULATION cCOPY cCORRECT cEARTH cEIGHT cENTERPRISE cEXCELLENT cFEMALE cFINANCIAL",
   "cFIRE cFIVE cFOUR cHAVE cHIGH cITEM cKINDERGARTEN cKOTO cLABOR cLEFT cLOW cMALE cMEDICINE",
   "cMETAL cMOON cNAME cNIGHT cNINE cONE cPRINT cQUESTION cRELIGION cRESOURCE cREST cRIGHT cSCHOOL",
   "cSECRET cSEVEN cSIX cSOCIETY cSPECIAL cSTOCK cSTUDY cSUITABLE cSUN cSUPERVISE cTEN cTHREE cTWO",
   "cWATER cWOOD bINFORMATION: cSOURCE bITALIC: cLATIN: dCAPITAL: eLETTER: fC fR bKATAKANA: cA cE",
   "cHA cHE cHI cHO cHU cI cKA cKE cKI cKO cKU cMA cME cMI cMO cMU cNA cNE cNI cNO cNU cO cRA cRE",
   "cRI cRO cRU cSA cSE cSI cSO cSU cTA cTE cTI cTO cTU cU cWA cWE cWI cWO cYA cYO cYU bKOREAN:",
   "cCHARACTER: dCHAMKO dJUEUI bLATIN: cCAPITAL: dLETTER: eA eB eC eD eE eF eG eH eI eJ eK eL eM",
   "eN eO eP eQ eR eS eT eU eV eW eX eY eZ cSMALL: dLETTER: eA eB eC eD eE eF eG eH eI eJ eK eL eM",
   "eN eO eP eQ eR eS eT eU eV eW eX eY eZ bLESS-THAN bMINUS bMULTIPLICATION: cSIGN: dWITH:",
   "eCIRCUMFLEX: fACCENT bNUMBER: cEIGHTEEN cEIGHTY: dON: eBLACK: fSQUARE cELEVEN cFIFTEEN cFIFTY",
   "dON: eBLACK: fSQUARE cFORTY dEIGHT dFIVE dFOUR dNINE dON: eBLACK: fSQUARE dONE dSEVEN dSIX",
   "dTHREE dTWO cFOURTEEN cNINETEEN cSEVENTEEN cSEVENTY: dON: eBLACK: fSQUARE cSIXTEEN cSIXTY:",
   "dON: eBLACK: fSQUARE cTEN dON: eBLACK: fSQUARE cTHIRTEEN cTHIRTY dEIGHT dFIVE dFOUR dNINE dON:",
   "eBLACK: fSQUARE dONE dSEVEN dSIX dTHREE dTWO cTWELVE cTWENTY dEIGHT dFIVE dFOUR dNINE dON:",
   "eBLACK: fSQUARE dONE dSEVEN dSIX dTHREE dTWO bOPEN: cCENTRE: dEIGHT: ePOINTED: fSTAR bPARALLEL",
   "bPERPENDICULAR bPLUS bPOSTAL: cMARK bREVERSE: cSOLIDUS bRING: cOPERATOR bSQUARE bTIMES",
   "bTRIANGLE cDOWN bVERTICAL: cBAR bWHITE: cBULLET cSTAR bWZ bX bZERO: cWITH: dSLASH",
   "aCIRCULATION: bFUNCTION aCIRCUMFLEX: bACCENT aCIRCUS: bTENT aCITYSCAPE bAT: cDUSK aCJK:",
   "bRADICAL: cBAMBOO cBLUE cBOLT: dOF: eCLOTH cBONE cBOX cBRUSH: dONE dTWO cC-SIMPLIFIED: dBIRD",
   "dCART dDRAGON dEAT dEVEN dFISH dFLY dFROG dGATE dGOLD dHORSE dLEAF dLONG dSALT dSEE dSHELL",
   "dSILK dSPEECH dTANNED: eLEATHER dTOOTH dTURTLE dWIND cCHOKE cCITY cCIVILIAN cCLIFF cCLOTHES",
   "cCOW cDEATH cDIVINATION cDOG cEAT: dONE dTHREE dTWO cEWE cEYE cFIRE cFOOT cGHOST cGRASS: dONE",
   "dTHREE dTWO cHAND cHEAD cHEART: dONE dTWO cHORN cJ-SIMPLIFIED: dDRAGON dEVEN dTOOTH dTURTLE",
   "cJADE cKNIFE: dONE dTWO cLAME: dFOUR dONE dTHREE dTWO cLONG: dONE dTWO cMEAT cMESH cMOON",
   "cMORTAR cMOTHER cMOUND: dONE dTWO cNET: dFOUR dONE dTHREE dTWO cOLD cPAW: dONE dTWO cPERSON",
   "cRAIN cRAM cRAP cREPEAT cSEAL cSECOND: dONE dTHREE dTWO cSHEEP cSILK cSIMPLIFIED: dHALF:",
   "eTREE: fTRUNK dHORN dWALK dWHEAT dYELLOW cSMALL: dONE dTWO cSNAKE cSNOUT: dONE dTWO cSPIRIT:",
   "dONE dTWO cSUN cTABLE cTHREAD cTIGER cTURTLE cWALK: dONE dTWO cWATER: dONE dTWO cWEST: dONE",
   "dTWO bSTROKE: cBXG cD cH cHG cHP cHPWG cHXWG cHZ cHZG cHZT cHZW cHZWG cHZZ cHZZP cHZZZ cHZZZG",
   "cN cP cPD cPG cPZ cQ cS cSG cSP cST cSW cSWG cSWZ cSZ cSZWG cSZZ cT cTN cWG cXG aCLAMSHELL:",
   "bMOBILE: cPHONE aCLAPPER: bBOARD aCLAPPING: bHANDS: cSIGN aCLASSICAL: bBUILDING aCLEAR:",
   "bSCREEN: cSYMBOL aCLINKING: bBEER: cMUGS bGLASSES aCLIPBOARD aCLOCK: bFACE: cEIGHT: dOCLOCK",
   "cEIGHT-THIRTY cELEVEN: dOCLOCK cELEVEN-THIRTY cFIVE: dOCLOCK cFIVE-THIRTY cFOUR: dOCLOCK",
   "cFOUR-THIRTY cNINE: dOCLOCK cNINE-THIRTY cONE: dOCLOCK cONE-THIRTY cSEVEN: dOCLOCK",
   "cSEVEN-THIRTY cSIX: dOCLOCK cSIX-THIRTY cTEN: dOCLOCK cTEN-THIRTY cTHREE: dOCLOCK",
   "cTHREE-THIRTY cTWELVE: dOCLOCK cTWELVE-THIRTY cTWO: dOCLOCK cTWO-THIRTY aCLOCKWISE: bCLOSED:",
   "cCIRCLE: dARROW bCONTOUR: cINTEGRAL bDOWNWARDS: cAND: dUPWARDS: eOPEN: fCIRCLE: gARROWS",
   "bGAPPED: cCIRCLE: dARROW bINTEGRAL bOPEN: cCIRCLE: dARROW bRIGHT: cAND: dLEFT: eSEMICIRCLE:",
   "fARROWS bRIGHTWARDS: cAND: dLEFTWARDS: eOPEN: fCIRCLE: gARROWS hWITH: iCIRCLED: jONE: kOVERLAY",
   "bTOP: cSEMICIRCLE: dARROW bTRIANGLE-HEADED: cOPEN: dCIRCLE: eARROW aCLOSE: bUP aCLOSED: bBOOK",
   "bINTERSECTION: cWITH: dSERIFS bLOCK: cWITH: dKEY bMAILBOX: cWITH: dLOWERED: eFLAG dRAISED:",
   "eFLAG bSUBSET cOR: dEQUAL: eTO bSUPERSET cOR: dEQUAL: eTO bUMBRELLA bUNION: cWITH: dSERIFS",
   "eAND: fSMASH: gPRODUCT aCLOUD bWITH: cLIGHTNING cRAIN cSNOW cTORNADO aCLOWN: bFACE aCOAT",
   "aCOCKROACH aCOCKTAIL: bGLASS aCOCONUT aCOFFIN aCOIN aCOLLISION: bSYMBOL aCOLON bEQUALS bSIGN",
   "aCOMBINING: bACUTE: cACCENT dBELOW cTONE: dMARK bACUTE-GRAVE-ACUTE bACUTE-MACRON bALMOST:",
   "cEQUAL: dTO: eABOVE eBELOW bANNUITY: cSYMBOL bANTICLOCKWISE: cARROW: dABOVE cRING: dOVERLAY",
   "bASTERISK: cABOVE cBELOW bBINDU: cBELOW bBREVE cBELOW bBREVE-MACRON bBRIDGE: cABOVE cBELOW",
   "bCANDRABINDU bCARON cBELOW bCEDILLA bCIRCUMFLEX: cACCENT dBELOW bCLOCKWISE: cARROW: dABOVE",
   "cRING: dOVERLAY bCOMMA: cABOVE dRIGHT cBELOW bCONJOINING: cMACRON dBELOW bCYRILLIC: cDASIA:",
   "dPNEUMATA cHUNDRED: dMILLIONS: eSIGN dTHOUSANDS: eSIGN cKAVYKA cLETTER: dA dBE dBIG: eYUS dCHE",
   "dDE dDJERV dEF dEL dEM dEN dER dES dES-TE dFITA dGHE dHA dHARD: eSIGN dI dIE dIOTIFIED: eA",
   "eBIG: fYUS eE dKA dLITTLE: eYUS dMONOGRAPH: eUK dO dOMEGA dPE dSHA dSHCHA dSOFT: eSIGN dTE",
   "dTSE dU dUKRAINIAN: eIE dVE dYAT dYERU dYI dYU dZE dZHE cMILLIONS: dSIGN cPALATALIZATION",
   "cPAYEROK cPOKRYTIE cPSILI: dPNEUMATA cTEN: dMILLIONS: eSIGN cTHOUSAND: dMILLIONS: eSIGN cTITLO",
   "dLEFT: eHALF dRIGHT: eHALF cVZMET bDELETION: cMARK bDEVANAGARI: cDIGIT: dEIGHT dFIVE dFOUR",
   "dNINE dONE dSEVEN dSIX dTHREE dTWO dZERO cLETTER: dA dKA dNA dPA dRA dU dVI cSIGN: dAVAGRAHA",
   "bDIAERESIS cBELOW bDIAERESIS-RING bDOT: cABOVE dLEFT dRIGHT cBELOW dLEFT bDOTTED: cACUTE:",
   "dACCENT cGRAVE: dACCENT bDOUBLE: cACUTE: dACCENT cBREVE dBELOW cCIRCUMFLEX: dABOVE cGRAVE:",
   "dACCENT cINVERTED: dBREVE eBELOW cLOW: dLINE cMACRON dBELOW cOPEN: dMARK: eBELOW cOVERLINE",
   "cPARENTHESES: dABOVE cPLUS: dSIGN: eABOVE eBELOW cRIGHTWARDS: dARROW: eBELOW cRING: dBELOW",
   "cTILDE dLEFT: eHALF dRIGHT: eHALF cVERTICAL: dLINE: eABOVE eBELOW dSTROKE: eOVERLAY bDOUBLED:",
   "cCIRCUMFLEX: dACCENT bDOWN: cTACK: dBELOW bDOWNWARDS: cARROW bENCLOSING: cCIRCLE dBACKSLASH",
   "cDIAMOND cKEYCAP cSCREEN cSQUARE cUPWARD: dPOINTING: eTRIANGLE bEQUALS: cSIGN: dBELOW bFERMATA",
   "bFOUR: cDOTS: dABOVE bGLAGOLITIC: cLETTER: dAZU dBIG: eYUS dBUKY dCHRIVI dDJERVI dDOBRO dFITA",
   "dFRITU dGLAGOLI dHERU dI dINITIAL: eIZHE dIOTATED: eBIG: fYUS eSMALL: fYUS dIZHE dKAKO",
   "dLJUDIJE dMYSLITE dNASHI dONU dPOKOJI dRITSI dSHA dSHTA dSLOVO dSMALL: eYUS dTSI dTVRIDO dUKU",
   "dVEDE dYATI dYERI dYERU dYESTU dYO dYU dZEMLJA dZHIVETE bGRANTHA: cDIGIT: dFIVE dFOUR dONE",
   "dSIX dTHREE dTWO dZERO cLETTER: dA dKA dNA dPA dVI bGRAPHEME: cJOINER bGRAVE: cACCENT dBELOW",
   "cTONE: dMARK bGRAVE-ACUTE-GRAVE bGRAVE-MACRON bGREEK: cDIALYTIKA: dTONOS cKORONIS cMUSICAL:",
   "dPENTASEME dTETRASEME dTRISEME cPERISPOMENI cYPOGEGRAMMENI bHOMOTHETIC: cABOVE bHOOK: cABOVE",
   "bHORN bINFINITY bINVERTED: cBREVE dBELOW cBRIDGE: dBELOW cDOUBLE: dARCH: eABOVE eBELOW bIS:",
   "cBELOW bKATAKANA-HIRAGANA: cSEMI-VOICED: dSOUND: eMARK cVOICED: dSOUND: eMARK bKAVYKA: cABOVE:",
   "dLEFT dRIGHT bLATIN: cLETTER: dSMALL: eCAPITAL: fG fL fM fN fR cSMALL: dLETTER: eA fWITH:",
   "gDIAERESIS eAE eALPHA eAO eAV eB eBETA eC fCEDILLA eD eE eESH eETH eF eFLATTENED: fOPEN: gA:",
   "hABOVE eG eH eI eINSULAR: fD fG fR fT eK eL fWITH: gDOUBLE: hMIDDLE: iTILDE eLONG: fS eM eN eO",
   "fWITH: gDIAERESIS gLIGHT: hCENTRALIZATION: iSTROKE eP eR fBELOW fROTUNDA eS eSCHWA eT eTURNED:",
   "fW: gBELOW eU fWITH: gDIAERESIS gLIGHT: hCENTRALIZATION: iSTROKE eV eW fBELOW eX eZ bLEFT:",
   "cANGLE: dABOVE dBELOW cARROW: dABOVE dBELOW cARROWHEAD: dABOVE dBELOW cHALF: dRING: eABOVE",
   "eBELOW cHARPOON: dABOVE cPARENTHESIS: dABOVE: eLEFT dBELOW: eLEFT cRIGHT: dARROW: eABOVE",
   "eBELOW cTACK: dBELOW bLEFTWARDS: cARROW: dOVERLAY cHARPOON: dWITH: eBARB: fDOWNWARDS",
   "bLIGATURE: cLEFT: dHALF eBELOW cRIGHT: dHALF eBELOW bLIGHT: cCENTRALIZATION: dSTROKE: eBELOW",
   "bLONG: cDOUBLE: dSOLIDUS: eOVERLAY cSOLIDUS: dOVERLAY cSTROKE: dOVERLAY cVERTICAL: dLINE:",
   "eOVERLAY bLOW: cLINE bMACRON cBELOW cLEFT: dHALF eBELOW cRIGHT: dHALF eBELOW bMACRON-ACUTE",
   "bMACRON-BREVE bMACRON-GRAVE bMINUS: cSIGN: dBELOW bNOT: cTILDE: dABOVE bNUMBER: cSIGN: dABOVE",
   "bOGONEK cABOVE bOLD: cPERMIC: dLETTER: eAN eDOI eNENOE eSII eZATA bOPEN: cMARK: dBELOW",
   "bOVERLINE bPALATALIZED: cHOOK: dBELOW bPARENTHESES: cABOVE cBELOW cOVERLAY bPLUS: cSIGN:",
   "dABOVE dBELOW bRETROFLEX: cHOOK: dBELOW bREVERSE: cSOLIDUS: dOVERLAY bREVERSED: cCOMMA: dABOVE",
   "bRIGHT: cARROW: dABOVE dBELOW cARROWHEAD: dABOVE dAND: eDOWN: fARROWHEAD: gBELOW eUP:",
   "fARROWHEAD: gBELOW dBELOW cHALF: dRING: eABOVE eBELOW cHARPOON: dABOVE cPARENTHESIS: dABOVE:",
   "eRIGHT dBELOW: eRIGHT cTACK: dBELOW bRIGHTWARDS: cHARPOON: dWITH: eBARB: fDOWNWARDS bRING:",
   "cABOVE cBELOW cOVERLAY bSEAGULL: cBELOW bSHORT: cSOLIDUS: dOVERLAY cSTROKE: dOVERLAY",
   "cVERTICAL: dLINE: eOVERLAY bSNAKE: cBELOW bSQUARE: cBELOW cBRACKETS: dABOVE bSTRONG:",
   "cCENTRALIZATION: dSTROKE: eBELOW bSUSPENSION: cMARK bTHREE: cDOTS: dABOVE bTILDE cBELOW cLEFT:",
   "dHALF: eBELOW cOVERLAY cRIGHT: dHALF: eBELOW bTRIPLE: cACUTE: dACCENT cDOT cUNDERDOT bTURNED:",
   "cCOMMA: dABOVE bUP: cTACK: dABOVE dBELOW bUPWARDS: cARROW: dBELOW bUR: cABOVE bUS: cABOVE",
   "bVERTICAL: cLINE: dABOVE dBELOW cTILDE bWIDE: cBRIDGE: dABOVE cINVERTED: dBRIDGE: eBELOW",
   "bWIGGLY: cLINE: dBELOW bX: cABOVE cBELOW bX-X: cBELOW bZIGZAG: cABOVE cBELOW aCOMET aCOMMA",
   "aCOMMERCIAL: bAT bMINUS: cSIGN aCOMPASS aCOMPLEMENT aCOMPOSITION: bSYMBOL aCOMPRESSION",
   "aCONFETTI: bBALL aCONFOUNDED: bFACE aCONFUSED: bFACE aCONGRUENT: bWITH: cDOT: dABOVE aCONICAL:",
   "bTAPER aCONJUNCTION aCONSTRUCTION: bSIGN bWORKER aCONTAINS: bAS: cMEMBER cNORMAL: dSUBGROUP",
   "eOR: fEQUAL: gTO bWITH: cLONG: dHORIZONTAL: eSTROKE cOVERBAR cVERTICAL: dBAR: eAT: fEND: gOF:",
   "hHORIZONTAL: iSTROKE aCONTINUOUS: bUNDERLINE: cSYMBOL aCONTOUR: bINTEGRAL aCONTROL: bKNOBS",
   "bSEQUENCE: cINTRODUCER aCONVENIENCE: bSTORE aCOOKED: bRICE aCOOKIE aCOOKING aCOPTIC: bCAPITAL:",
   "cLETTER: dAKHMIMIC: eKHEI dALFA dBOHAIRIC: eKHEI dCROSSED: eSHEI dCRYPTOGRAMMIC: eEIE eGANGIA",
   "eNI eSHEI dDALDA dDEI dDIALECT-P: eALEF eHORI eKAPA eNI dEIE dFEI dFI dGAMMA dGANGIA dHATE",
   "dHORI dIAUDA dKAPA dKHEI dKHI dKSI dL-SHAPED: eHA dLAULA dMI dNI dO dOLD: eCOPTIC: fAIN fDJA",
   "fESH fGANGIA fHA fHAT fHEI fHORI fOOU fSHEI fSHIMA eNUBIAN: fNGI fNYI fSHIMA fWAU dOOU dPI",
   "dPSI dRO dSAMPI dSHEI dSHIMA dSIMA dSOU dTAU dTHETHE dUA dVIDA dZATA bCOMBINING: cNI: dABOVE",
   "cSPIRITUS: dASPER dLENIS bEPACT: cDIGIT: dEIGHT dFIVE dFOUR dNINE dONE dSEVEN dSIX dTHREE dTWO",
   "cNUMBER: dEIGHT: eHUNDRED dEIGHTY dFIFTY dFIVE: eHUNDRED dFORTY dFOUR: eHUNDRED dNINE:",
   "eHUNDRED dNINETY dONE: eHUNDRED dSEVEN: eHUNDRED dSEVENTY dSIX: eHUNDRED dSIXTY dTEN dTHIRTY",
   "dTHREE: eHUNDRED dTWENTY dTWO: eHUNDRED cTHOUSANDS: dMARK bFRACTION: cONE: dHALF bFULL: cSTOP",
   "bMORPHOLOGICAL: cDIVIDER bOLD: cNUBIAN: dDIRECT: eQUESTION: fMARK dFULL: eSTOP dINDIRECT:",
   "eQUESTION: fMARK dVERSE: eDIVIDER bSMALL: cLETTER: dAKHMIMIC: eKHEI dALFA dBOHAIRIC: eKHEI",
   "dCROSSED: eSHEI dCRYPTOGRAMMIC: eEIE eGANGIA eNI eSHEI dDALDA dDEI dDIALECT-P: eALEF eHORI",
   "eKAPA eNI dEIE dFEI dFI dGAMMA dGANGIA dHATE dHORI dIAUDA dKAPA dKHEI dKHI dKSI dL-SHAPED: eHA",
   "dLAULA dMI dNI dO dOLD: eCOPTIC: fAIN fDJA fESH fGANGIA fHA fHAT fHEI fHORI fOOU fSHEI fSHIMA",
   "eNUBIAN: fNGI fNYI fSHIMA fWAU dOOU dPI dPSI dRO dSAMPI dSHEI dSHIMA dSIMA dSOU dTAU dTHETHE",
   "dUA dVIDA dZATA bSYMBOL: cKAI cKHI: dRO cMI: dRO cPI: dRO cSHIMA: dSIMA cSTAUROS cTAU: dRO",
   "aCOPYLEFT: bSYMBOL aCOPYRIGHT: bSIGN aCORAL aCORNISH: bVERSE: cDIVIDER aCORRESPONDS: bTO",
   "aCOUCH: bAND: cLAMP aCOUNTERBORE aCOUNTERSINK aCOUNTING: bROD: cTENS: dDIGIT: eEIGHT eFIVE",
   "eFOUR eNINE eONE eSEVEN eSIX eTHREE eTWO cUNIT: dDIGIT: eEIGHT eFIVE eFOUR eNINE eONE eSEVEN",
   "eSIX eTHREE eTWO aCOUPLE: bWITH: cHEART aCOW bFACE aCR aCRAB aCREDIT: bCARD aCRESCENT: bMOON",
   "aCRICKET bBAT: cAND: dBALL aCROCODILE aCROISSANT aCROSS: bMARK bOF: cJERUSALEM cLORRAINE",
   "bPATTY: cWITH: dLEFT: eCROSSBAR dRIGHT: eCROSSBAR bPOMMEE cWITH: dHALF-CIRCLE: eBELOW",
   "aCROSSED: bFLAGS bNEGATIVE: cSQUARED: dLATIN: eCAPITAL: fLETTER: gP bSWORDS aCROSSING: bLANES",
   "aCROWN aCRUTCH aCRUZEIRO: bSIGN aCRYING: bCAT: cFACE bFACE aCRYSTAL: bBALL aCSI aCUBE: bROOT",
   "aCUCUMBER aCUNEIFORM: bNUMERIC: cSIGN: dEIGHT: eASH eDISH eGESH2 eSHAR2 eU fVARIANT: gFORM",
   "eVARIANT: fFORM: gUSSU gUSSU3 dELAMITE: eFIFTY eFORTY eONE: fTHIRD eTWO: fTHIRDS dFIVE: eASH",
   "fTENU eBAN2 fVARIANT: gFORM eBURU eDISH eGESH2 eGESHU eSHAR2 eSHARU eSIXTHS: fDISH eU",
   "fVARIANT: gFORM dFOUR: eASH fTENU eBAN2 fVARIANT: gFORM eBURU eDISH eGESH2 eGESHU eSHAR2",
   "eSHARU eU fVARIANT: gFORM eVARIANT: fFORM: gLIMMU hA hB gLIMMU4 dNIGIDAESH dNIGIDAMIN dNINE:",
   "eASH eDISH eGESH2 eSHAR2 eU fVARIANT: gFORM eVARIANT: fFORM: gILIMMU hA gILIMMU3 gILIMMU4",
   "dOLD: eASSYRIAN: fONE: gQUARTER gSIXTH dONE: eBAN2 eBURU eEIGHTH: fASH eESHE3 eGESH2 eGESHU",
   "eHALF: fGUR eQUARTER: fASH fGUR eSHARU eTHIRD: fDISH fVARIANT: gFORM: hA dSEVEN: eASH eDISH",
   "eGESH2 eSHAR2 eU fVARIANT: gFORM eVARIANT: fFORM: gIMIN: hA hB gIMIN3 dSHAR2: eTIMES: fGAL:",
   "gPLUS: hDISH hMIN dSIX: eASH fTENU eDISH eGESH2 eSHAR2 eU fVARIANT: gFORM eVARIANT: fFORM:",
   "gASH9 dTHREE: eASH fTENU eBAN2 eBURU fVARIANT: gFORM eDISH eGESH2 eGESHU eSHAR2 fVARIANT:",
   "gFORM eSHARU fVARIANT: gFORM eVARIANT: fFORM: gESH16 gESH21 dTWO: eASH fTENU eBAN2 eBURU",
   "eESHE3 eGESH2 eGESHU eSHAR2 eSHARU eTHIRDS: fDISH fVARIANT: gFORM: hA bPUNCTUATION: cSIGN:",
   "dDIAGONAL: eCOLON eQUADCOLON eTRICOLON dOLD: eASSYRIAN: fWORD: gDIVIDER dVERTICAL: eCOLON",
   "bSIGN: cA dTIMES: eA eBAD eGAN2: fTENU eHA eIGI eLAGAR: fGUNU eMUSH eSAG cA2 cAB dGUNU dTIMES:",
   "eASH2 eDUN3: fGUNU eGAL eGAN2: fTENU eHA eIGI: fGUNU eIMIN eLAGAB eNUN fTENU eSHESH eSHU2 eU:",
   "fPLUS: gU: hPLUS: iU cAB2 dTIMES: eA eBALAG eGAN2: fTENU eME: fPLUS: gEN eSHA3 eTAK4 cAD",
   "dTIMES: eESH2 cAK dTIMES: eERIN2 eSHITA: fPLUS: gGISH cAL dTIMES: eAL eDIM2 eGISH eHA eKAD3",
   "eKI eSHE eUSH cALAN cALEPH cAMAR dTIMES: eKUG eSHE cAN dOVER: eAN dPLUS: eNAGA: fOPPOSING:",
   "gAN: hPLUS: iNAGA fSQUARED dTHREE: eTIMES cANSHE cAPIN cARAD dTIMES: eKUR cARKAB cASAL2 cASH",
   "dKABA: eTENU dOVER: eASH: fOVER: gASH hCROSSING: iASH: jOVER: kASH: lOVER: mASH fTUG2: gOVER:",
   "hTUG2: iTUG2: jOVER: kTUG2: lPAP dZIDA: eTENU cASH2 cASHGAB cBA cBAD dTIMES: eDISH: fTENU",
   "cBAG3 cBAHAR2 dTIMES: eAB2 eNI eZA cBAL dOVER: eBAL cBALAG cBAR cBARA2 cBI dTIMES: eA eGAR",
   "eIGI: fGUNU cBU dCROSSING: eBU dOVER: eBU: fAB fTIMES: gNA2 fUN cBULUG dOVER: eBULUG cBUR",
   "cBUR2 cDA dTIMES: eTAK4 cDAG dKISIM5: eTIMES: fA: gPLUS: hMASH fAMAR fBALAG fBI fGA gPLUS:",
   "hMASH fGI fGIR2 fGUD fHA fIR gPLUS: hLU fKAK fLA fLU gPLUS: hMASH2 fLUM fNE fPAP: gPLUS: hPAP",
   "fSI fTAK4 fU2: gPLUS: hGIR2 hMASH fUSH dTIMES: eKUR cDAG3 cDAM cDAR cDARA3 cDARA4 cDI cDIB",
   "cDIM dTIMES: eIGI eSHE eU: fU: gU cDIM2 dTIMES: eUD cDIN dKASKAL: eU: fGUNU: gDISH cDISH",
   "dPLUS: eSHU cDU dGUNU dOVER: eDU dSHESHIG cDUB dTIMES: eESH2 eSHE cDUB2 cDUG dTIMES: eANSHE",
   "eASH fAT: gLEFT eDIN eDUN eERIN2 eGA eGI eGIR2: fGUNU eGISH eHA eHI eIGI: fGUNU eKASKAL eKUR",
   "eKUSHU2 fPLUS: gKASKAL eLAK-020 eLAM fTIMES: gKUR eLUH: fPLUS: gGISH eMASH eMES eMI eNI ePI",
   "eSHE eSI: fGUNU cDUGUD cDUH cDUN cDUN3 dGUNU eGUNU cDUN4 cDUR2 cE dOVER: eE: fNUN: gOVER: hNUN",
   "dTIMES: ePAP cE2 dTIMES: eA: fPLUS: gHA: hPLUS: iDA eGAR eKUR eMI ePAP eSAL eSHE eU cEDIN",
   "cEGIR cEL cEN dCROSSING: eEN dOPPOSING: eEN dSQUARED dTIMES: eGAN2 fTENU eME cEREN cERIN2 dX",
   "cESH2 dCROSSING: eESH2 cEZEN dSHESHIG: eTIMES: fASH fHI fIGI: gGUNU fLA fLAL fME fMES fSU",
   "dTIMES: eA fPLUS: gLAL hTIMES: iLAL eAN eBAD eDUN3: fGUNU gGUNU eGUD eHA fGUNU eIGI: fGUNU",
   "eKASKAL fSQUARED eKU3 eLA eLAL: fTIMES: gLAL eLI eLU eSHE eSU eU2 eUD cGA dGUNU cGA2 dOVER:",
   "eGA2 dTIMES: eA: fPLUS: gDA: hPLUS: iHA gHA gIGI eAB2: fTENU: gPLUS: hTAB eAN fPLUS: gKAK:",
   "hPLUS: iA eASH eASH2 fPLUS: gGAL eBAD eBAHAR2 eBAR: fPLUS: gRA eBUR fPLUS: gRA eDA eDI eDIM:",
   "fGUNU fTIMES: gSHE eDUB eDUG: fTIMES: gIGI: hGUNU gKASKAL eEL fPLUS: gLA eEN fTIMES: gGAN2:",
   "hTENU eEREN eGA eGAN2: fTENU eGAR fPLUS: gDI gNE eGI eGI4 fPLUS: gA eGIR2: fPLUS: gSU eHA:",
   "fPLUS: gA gLU: hPLUS: iESH2 eHAL fPLUS: gLA eHI: fPLUS: gLI eHUB2 eIGI: fGUNU eISH: fPLUS:",
   "gHU: hPLUS: iASH eKAK eKASKAL eKID fPLUS: gLAL eKU3: fPLUS: gAN eKUSHU2: fPLUS: gKASKAL eLA",
   "eLAM fTIMES: gKUR eLUH eME: fPLUS: gEN eMI eMUSH eNE fPLUS: gE2 gGI eNUN fOVER: gNUN ePA eSAL",
   "eSAR eSHE fPLUS: gTUR eSHID eSHIM eSUM eTAK4 eU eUD fPLUS: gDU eZIZ2 cGABA dCROSSING: eGABA",
   "dROTATED: eNINETY: fDEGREES cGAD dOVER: eGAD: fGAR: gOVER: hGAR cGAL dGAD: eOVER: fGAD: gGAR:",
   "hOVER: iGAR cGALAM cGAM cGAN cGAN2 dCROSSING: eGAN2 dOVER: eGAN2 dTENU cGAR cGAR3 cGASHAN",
   "cGE22 cGESHTIN dTIMES: eKUR eU cGI dCROSSING: eGI dTIMES: eE eU cGI4 dCROSSING: eGI4 dOVER:",
   "eGI4 cGIDIM cGIG cGIR2 dGUNU cGIR3 dTIMES: eA: fPLUS: gIGI eGAN2: fTENU eIGI eLU: fPLUS: gIGI",
   "ePA cGISAL cGISH dCROSSING: eGISH dTENU dTIMES: eBAD eGISH: fCROSSING: gGISH eTAK4 cGU",
   "dCROSSING: eGU cGU2 dGUNU dTIMES: eIGI: fGUNU eKAK fTIMES: gIGI: hGUNU eNUN eSAL: fPLUS: gTUG2",
   "cGUD dOVER: eGUD: fLUGAL dPLUS: eGISH: fTIMES: gTAK4 dTIMES: eA: fPLUS: gKUR eKUR cGUL cGUM",
   "dTIMES: eSHE cGUR cGUR7 cGURUN cGURUSH cHA dGUNU dTENU eGUNU cHAL cHI dTIMES: eASH fOVER: gHI:",
   "hTIMES: iASH eASH2 eBAD eDISH eGAD eKIN eNUN eSHE eU cHU cHUB2 dTIMES: eAN eHAL eKASKAL eLISH",
   "eUD cHUL2 cHUSH cI dA cIB cIDIM dOVER: eIDIM: fBUR fSQUARED cIG cIGI dDIB dGUNU dOVER: eIGI:",
   "fSHIR: gOVER: hSHIR: iUD: jOVER: kUD dRI cIL dTIMES: eGAN2: fTENU cIL2 cIM dCROSSING: eIM",
   "dOPPOSING: eIM dSQUARED dTIMES: eTAK4 cIMIN cIN cIR cISH cKA dTIMES: eA eAD fPLUS: gKU3 eANSHE",
   "eASH2 eASH3 eBAD eBALAG eBAR eBI eBU eERIN2 eESH2 eGA eGAL eGAN2: fTENU eGAR fPLUS: gSHA3:",
   "hPLUS: iA eGI eGIR2 eGISH fCROSSING: gGISH fPLUS: gSAR eGU eGUD eGUR7 eHI: fTIMES: gASH2 eIGI",
   "eIM eKA eKAK eKI eKID eLI eLU eLUM eME fPLUS: gDU gGI gTE eMI fPLUS: gNUNUZ eNE eNUN ePA ePI",
   "eRU eSA eSAR eSHA eSHE eSHID eSHU eSHUL eSIG eSUHUR eTAR eTU eU fU: gU eU2 eUD eUMUM: fTIMES:",
   "gPA eUR eUR2 eUSH eZI cKA2 dCROSSING: eKA2 cKAB cKAD2 cKAD3 cKAD4 cKAD5 dOVER: eKAD5 cKAK",
   "dTIMES: eIGI: fGUNU cKAL dCROSSING: eKAL dTIMES: eBAD cKAM2 cKAM4 cKAP: dELAMITE cKASKAL",
   "dLAGAB: eTIMES: fU: gOVER: hLAGAB: iTIMES: jU dOVER: eKASKAL: fLAGAB: gTIMES: hU: iOVER:",
   "jLAGAB: kTIMES: lU cKESH2 cKI dTIMES: eBAD eU eUD cKID cKIN cKISAL cKISH cKISIM5 dOVER:",
   "eKISIM5 cKU dOVER: eHI: fTIMES: gASH2: hKU: iOVER: jHI: kTIMES: lASH2 cKU3 cKU4 dVARIANT:",
   "eFORM cKU7 cKUL dGUNU cKUN cKUR dOPPOSING: eKUR cKUSHU2 cKWU318 cLA cLAGAB dSQUARED dTIMES: eA",
   "fPLUS: gDA: hPLUS: iHA gGAR gLAL eAL eAN eASH: fZIDA: gTENU eBAD eBI eDAR eEN eGA eGAR eGI",
   "eGUD fPLUS: gGUD eHA eHAL eHI: fTIMES: gNUN eIGI: fGUNU eIM fPLUS: gHA gLU eKI eKIN eKU3 eKUL",
   "fPLUS: gHI: hPLUS: iA eLAGAB eLISH eLU eLUL eME fPLUS: gEN eMUSH eNE eSHE: fPLUS: gSUM eSHITA:",
   "fPLUS: gGISH: hPLUS: iERIN2 hTENU eSHU2 fPLUS: gSHU2 eSUM eTAG eTAK4 eTE: fPLUS: gA: hPLUS:",
   "iSU: jPLUS: kNA eU fPLUS: gA gU: hPLUS: iU eU2: fPLUS: gASH eUD eUSH eZU: fOVER: gZU cLAGAR",
   "dGUNU eOVER: fLAGAR: gGUNU: hSHE dTIMES: eSHE fPLUS: gSUM cLAHSHU cLAK-003 cLAK-021 cLAK-025",
   "cLAK-030 cLAK-050 cLAK-051 cLAK-062 cLAK-079: dOVER: eLAK-079: fGUNU cLAK-080 cLAK-081: dOVER:",
   "eLAK-081 cLAK-092 cLAK-130 cLAK-142 cLAK-210 cLAK-219 cLAK-220 cLAK-225 cLAK-228 cLAK-238",
   "cLAK-265 cLAK-266 cLAK-343 cLAK-347 cLAK-348 cLAK-383 cLAK-384 cLAK-390 cLAK-441 cLAK-449",
   "dTIMES: eGU eIGI ePAP: fPLUS: gLU3 gPAP: hPLUS: iLU3 eU2: fPLUS: gBA cLAK-450 cLAK-457",
   "cLAK-470 cLAK-483 cLAK-490 cLAK-492 cLAK-493 cLAK-495 cLAK-550 cLAK-608 cLAK-617 dTIMES: eASH",
   "eBAD eDUN3: fGUNU: gGUNU eKU3 eLA eTAR eTE eU2 eUD eURUDA cLAK-636 cLAK-648 dTIMES: eDUB eGA",
   "eIGI fGUNU eNI ePAP: fPLUS: gPAP: hPLUS: iLU3 eSHESH: fPLUS: gKI eUD eURUDA cLAK-724 cLAK-749",
   "cLAL dTIMES: eLAL cLAM dTIMES: eKUR fPLUS: gRU cLI cLIL cLIMMU2 cLISH cLU dTIMES: eBAD cLU2",
   "dCROSSING: eLU2 dGUNU: eTIMES: fASH dOPPOSING: eLU2 dSHESHIG eTIMES: fBAD dSQUARED dTENU",
   "dTIMES: eAL eBAD eDISH eESH2 fPLUS: gLAL fTENU eGAN2: fTENU eHAL eHI: fTIMES: gBAD eIM eKAD2",
   "eKAD3 fPLUS: gASH eKI eLA: fPLUS: gASH eLAGAB eME: fPLUS: gEN eNE eNU ePAP fPLUS: gPAP: hPLUS:",
   "iLU3 eSHU eSI: fPLUS: gASH eSIK2: fPLUS: gBU eTAK4 eTUG2 cLU3 cLUGAL dOPPOSING: eLUGAL dOVER:",
   "eLUGAL dSHESHIG cLUH cLUL cLUM dOVER: eLUM fGAR: gOVER: hGAR cMA dGUNU dTIMES: eTAK4 cMA2 cMAH",
   "cMAR cMASH cMASH2 cME cMES cMESH cMI dPLUS: eZA7 cMIN cMU dOVER: eMU cMUG dGUNU cMUNSUB",
   "cMURGU2 cMUSH dCROSSING: eMUSH dOVER: eMUSH fTIMES: gA: hPLUS: iNA gGA gKAK dTIMES: eA eKUR",
   "eZA cMUSH3 dGUNU dTIMES: eA fPLUS: gDI eDI eZA cNA cNA2 cNA4 cNAGA dINVERTED dOPPOSING: eNAGA",
   "dTIMES: eSHU: fTENU cNAGAR cNAM dNUTILLU cNAM2 cNE dSHESHIG dTIMES: eA eUD cNI dTIMES: eE cNI2",
   "cNIM dTIMES: eGAN2: fTENU eGAR: fPLUS: gGAN2: hTENU cNIN cNIN9 cNINDA2 dTIMES: eAN eASH fPLUS:",
   "gASH eBAL eDIM: fGUNU eGI eGISH eGUD eGUL eHI eKESH2 eLAK-050 eMASH eME: fPLUS: gGAN2: hTENU",
   "eNE eNUN ePAP: fPLUS: gPAP eSHE fPLUS: gA: hAN gASH hPLUS: iASH eU fPLUS: gU eU2: fPLUS: gASH",
   "eURUDA eUSH cNISAG cNU cNU11 dOVER: eNU11: fBUR: gOVER: hBUR dROTATED: eNINETY: fDEGREES dTENU",
   "cNUN dCROSSING: eNUN fLAGAR: gOVER: hLAGAR dLAGAR: eTIMES: fGAR fMASH fSAL gOVER: hNUN:",
   "iLAGAR: jTIMES: kSAL fUSH dOVER: eNUN dTENU cNUNUZ dAB2: eTIMES: fASHGAB fBI fDUG fGUD fIGI:",
   "gGUNU fKAD3 fLA fNE fSILA3 fU2 dKISIM5: eTIMES: fBI gU cPA cPAD cPAN cPAP cPESH2 dASTERISK cPI",
   "dCROSSING: ePI dTIMES: eA eAB eBI eBU eE eI eIB eU eU2 cPIR2 cPIRIG dOPPOSING: ePIRIG dTIMES:",
   "eKAL eUD eZA cRA cRAB cRI cRU cSA cSAG dGUNU eTIMES: fHA dNUTILLU dOVER: eSAG dTIMES: eA eDU",
   "eDUB eEN eHA eIGI: fGUNU eKAK eKUR eLUM eMI eNUN eSAL eSHE: fAT: gLEFT eSHID eTAB eTAK4 eU2",
   "eUB eUM eUR eUSH cSAL dLAGAB: eTIMES: fASH2 cSANGA2 cSAR cSHA cSHA3 dTIMES: eA eBAD eGISH eNE",
   "eSHU2 eTUR eU fPLUS: gA cSHA6 dTENU cSHAB6 cSHAR2 cSHE dHU dOVER: eSHE fGAD: gOVER: hGAD:",
   "iGAR: jOVER: kGAR fTAB: gOVER: hTAB: iGAR: jOVER: kGAR dPLUS: eHUB2 eNAM2 eSAR cSHEG9 cSHEN",
   "cSHESH cSHESH2 cSHESHLAM cSHID dTIMES: eA eIM cSHIM dTIMES: eA eBAL eBULUG eDIN eGAR eIGI",
   "fGUNU eKUSHU2 eLUL eMUG eSAL cSHINIG cSHIR dOVER: eSHIR: fBUR: gOVER: hBUR dTENU cSHITA cSHU",
   "dOVER: eINVERTED: fSHU cSHU2 dPLUS: eDUG: fTIMES: gNI eE2: fTIMES: gAN cSHUBUR cSI dGUNU",
   "dTIMES: eTAK4 cSIG cSIG4 dOVER: eSIG4: fSHU2 cSIK2 cSILA3 cSU dOVER: eSU cSUD cSUD2 cSUHUR",
   "cSUM cSUMASH cSUR cSUR9 cTA dASTERISK dGUNU dTIMES: eHI eMI cTAB dOVER: eTAB: fNI: gOVER: hNI:",
   "iDISH: jOVER: kDISH dSQUARED cTAG dTIMES: eBI eGUD eSHE eSHU eTUG2 eUD cTAK4 dPLUS: eSAG cTAR",
   "cTE dGUNU cTI dTENU cTI2 cTIL cTIR dOVER: eTIR fGAD: gOVER: hGAD: iGAR: jOVER: kGAR dTIMES:",
   "eTAK4 cTU cTUG2 cTUK cTUM dTIMES: eGAN2: fTENU eTHREE: fDISH cTUR dOVER: eTUR: fZA: gOVER: hZA",
   "cU dGUD dOVER: eU: fPA: gOVER: hPA: iGAR: jOVER: kGAR fSUR: gOVER: hSUR fU: gREVERSED: hOVER:",
   "iU: jREVERSED dU eU cU2 cUB cUD dGUNU dKUSHU2 dSHESHIG eTIMES: fBAD dTIMES: eBAD eMI eU:",
   "fPLUS: gU: hPLUS: iU jGUNU cUDUG cUM dTIMES: eLAGAB eME fPLUS: gDA eSHA3 eU cUMBIN cUMUM",
   "dTIMES: eKASKAL ePA cUN dGUNU cUR dCROSSING: eUR dSHESHIG cUR2 dINVERTED dTIMES: eA: fPLUS:",
   "gHA gNA eAL eHA eNUN eU2 fPLUS: gASH gBI eUD cUR4 cURI cURI3 cURU dTIMES: eA eASHGAB eBAR",
   "eDARA3 eDUN eGA eGAL eGAN2: fTENU eGAR eGU eHA eIGI eIM eISH eKI eLAK-668 eLU3 eLUM eMIN ePA",
   "eSHE eSIG4 eTU eU: fPLUS: gGUD eUD eURUDA cURUDA dTIMES: eU cUSH dTIMES: eA eKU eKUR eTAK4",
   "cUSH2 cUSHUMX cUSHX cUTUKI cUZ3 dTIMES: eKASKAL cUZU cZA dSQUARED: eTIMES: fKUR dTENU cZA7",
   "cZAG cZAMX cZE2 cZI dOVER: eZI cZI3 cZIB dKABA: eTENU cZIG cZIZ2 cZU dOVER: eZU: fPLUS: gSAR",
   "cZU5 dTIMES: eA eTHREE: fDISH: gTENU cZUBUR cZUM aCUP: bON: cBLACK: dSQUARE bWITH: cSTRAW",
   "aCUPCAKE aCUPIDO aCURLING: bSTONE aCURLY: bBRACKET: cEXTENSION bLOGICAL: cAND cOR bLOOP",
   "aCURRENCY: bEXCHANGE bSIGN aCURRY: bAND: cRICE aCURVED: bSTEM: cPARAGRAPH: dSIGN: eORNAMENT",
   "aCUSTARD aCUSTOMS aCUT: bOF: cMEAT aCYCLONE aCYLINDRICITY aCYPRIOT: bSYLLABLE: cA cE cI cJA",
   "cJO cKA cKE cKI cKO cKU cLA cLE cLI cLO cLU cMA cME cMI cMO cMU cNA cNE cNI cNO cNU cO cPA cPE",
   "cPI cPO cPU cRA cRE cRI cRO cRU cSA cSE cSI cSO cSU cTA cTE cTI cTO cTU cU cWA cWE cWI cWO cXA",
   "cXE cZA cZO aCYPRO-MINOAN: bSIGN: cCM001 cCM002 cCM004 cCM005 cCM006 cCM007 cCM008 cCM009",
   "cCM010 cCM011 cCM012 cCM012B cCM013 cCM015 cCM017 cCM019 cCM021 cCM023 cCM024 cCM025 cCM026",
   "cCM027 cCM028 cCM029 cCM030 cCM033 cCM034 cCM035 cCM036 cCM037 cCM038 cCM039 cCM040 cCM041",
   "cCM044 cCM046 cCM047 cCM049 cCM050 cCM051 cCM052 cCM053 cCM054 cCM055 cCM056 cCM058 cCM059",
   "cCM060 cCM061 cCM062 cCM063 cCM064 cCM066 cCM067 cCM068 cCM069 cCM070 cCM071 cCM072 cCM073",
   "cCM074 cCM075 cCM075B cCM076 cCM078 cCM079 cCM080 cCM081 cCM082 cCM083 cCM084 cCM085 cCM086",
   "cCM087 cCM088 cCM089 cCM090 cCM091 cCM092 cCM094 cCM095 cCM096 cCM097 cCM098 cCM099 cCM100",
   "cCM101 cCM102 cCM103 cCM104 cCM105 cCM107 cCM108 cCM109 cCM110 cCM112 cCM114 cCM301 cCM302",
   "aCYRILLIC: bCAPITAL: cLETTER: dA eWITH: fBREVE fDIAERESIS dABKHASIAN: eCHE fWITH: gDESCENDER",
   "eDZE eHA dALEUT: eKA dBARRED: eO fWITH: gDIAERESIS dBASHKIR: eKA dBE dBIG: eYUS dBINOCULAR: eO",
   "dBLENDED: eYUS dBROAD: eOMEGA dBYELORUSSIAN-UKRAINIAN: eI dCCHE dCHE eWITH: fDESCENDER",
   "fDIAERESIS fVERTICAL: gSTROKE dCLOSED: eLITTLE: fYUS dCROSSED: eO dDCHE dDE dDJE dDJERV",
   "dDOUBLE: eMONOCULAR: fO eO dDWE dDZE dDZELO dDZHE dDZWE dDZZE dDZZHE dE eWITH: fDIAERESIS dEF",
   "dEL eWITH: fDESCENDER fHOOK fMIDDLE: gHOOK fTAIL dEM eWITH: fTAIL dEN eWITH: fDESCENDER fHOOK",
   "fLEFT: gHOOK fMIDDLE: gHOOK fTAIL dER eWITH: fTICK dES eWITH: fDESCENDER dFITA dGHE eWITH:",
   "fDESCENDER fMIDDLE: gHOOK fSTROKE gAND: hHOOK fUPTURN dGJE dHA eWITH: fDESCENDER fHOOK fSTROKE",
   "dHARD: eSIGN dHWE dI eWITH: fDIAERESIS fGRAVE fMACRON dIE eWITH: fBREVE fGRAVE dIO dIOTA",
   "dIOTIFIED: eA eBIG: fYUS eCLOSED: fLITTLE: gYUS eE eLITTLE: fYUS eYAT dIZHITSA eWITH: fDOUBLE:",
   "gGRAVE: hACCENT dJE dKA eWITH: fDESCENDER fHOOK fSTROKE fVERTICAL: gSTROKE dKHAKASSIAN: eCHE",
   "dKJE dKOMI: eDE eDJE eDZJE eLJE eNJE eSJE eTJE eZJE dKOPPA dKSI dLHA dLITTLE: eYUS dLJE",
   "dMONOCULAR: eO dMONOGRAPH: eUK dNEUTRAL: eYER dNJE dO eWITH: fDIAERESIS dOMEGA eWITH: fTITLO",
   "dOT dPE eWITH: fDESCENDER fMIDDLE: gHOOK dPSI dQA dREVERSED: eDZE eTSE eYU eZE dRHA dROUND:",
   "eOMEGA dSCHWA eWITH: fDIAERESIS dSEMISOFT: eSIGN dSHA dSHCHA dSHHA eWITH: fDESCENDER dSHORT:",
   "eI fWITH: gTAIL eU dSHWE dSOFT: eDE eEL eEM eSIGN dSTRAIGHT: eU fWITH: gSTROKE dTCHE dTE",
   "eWITH: fDESCENDER fMIDDLE: gHOOK dTSE dTSHE dTSSE dTSWE dTWE dU eWITH: fDIAERESIS fDOUBLE:",
   "gACUTE fMACRON dUK dUKRAINIAN: eIE dVE dWE dYA dYAE dYAT dYERU eWITH: fBACK: gYER fDIAERESIS",
   "dYI dYN dYU dZE eWITH: fDESCENDER fDIAERESIS dZEMLYA dZHE eWITH: fBREVE fDESCENDER fDIAERESIS",
   "dZHWE cLIGATURE: dA: eIE dEN: eGHE dTE: eTSE bKAVYKA bLETTER: cMULTIOCULAR: dO cPALOCHKA",
   "cSMALL: dCAPITAL: eEL bPAYEROK bSMALL: cLETTER: dA eWITH: fBREVE fDIAERESIS dABKHASIAN: eCHE",
   "fWITH: gDESCENDER eDZE eHA dALEUT: eKA dBARRED: eO fWITH: gDIAERESIS dBASHKIR: eKA dBE dBIG:",
   "eYUS dBINOCULAR: eO dBLENDED: eYUS dBROAD: eOMEGA dBYELORUSSIAN-UKRAINIAN: eI dCCHE dCHE",
   "eWITH: fDESCENDER fDIAERESIS fVERTICAL: gSTROKE dCLOSED: eLITTLE: fYUS dCROSSED: eO dDCHE dDE",
   "dDJE dDJERV dDOUBLE: eMONOCULAR: fO eO dDWE dDZE dDZELO dDZHE dDZWE dDZZE dDZZHE dE eWITH:",
   "fDIAERESIS dEF dEL eWITH: fDESCENDER fHOOK fMIDDLE: gHOOK fTAIL dEM eWITH: fTAIL dEN eWITH:",
   "fDESCENDER fHOOK fLEFT: gHOOK fMIDDLE: gHOOK fTAIL dER eWITH: fTICK dES eWITH: fDESCENDER",
   "dFITA dGHE eWITH: fDESCENDER fMIDDLE: gHOOK fSTROKE gAND: hHOOK fUPTURN dGJE dHA eWITH:",
   "fDESCENDER fHOOK fSTROKE dHARD: eSIGN dHWE dI eWITH: fDIAERESIS fGRAVE fMACRON dIE eWITH:",
   "fBREVE fGRAVE dIO dIOTA dIOTIFIED: eA eBIG: fYUS eCLOSED: fLITTLE: gYUS eE eLITTLE: fYUS eYAT",
   "dIZHITSA eWITH: fDOUBLE: gGRAVE: hACCENT dJE dKA eWITH: fDESCENDER fHOOK fSTROKE fVERTICAL:",
   "gSTROKE dKHAKASSIAN: eCHE dKJE dKOMI: eDE eDJE eDZJE eLJE eNJE eSJE eTJE eZJE dKOPPA dKSI dLHA",
   "dLITTLE: eYUS dLJE dLONG-LEGGED: eDE dMONOCULAR: eO dMONOGRAPH: eUK dNARROW: eO dNEUTRAL: eYER",
   "dNJE dO eWITH: fDIAERESIS dOMEGA eWITH: fTITLO dOT dPALOCHKA dPE eWITH: fDESCENDER fMIDDLE:",
   "gHOOK dPSI dQA dREVERSED: eDZE eTSE eYU eZE dRHA dROUND: eOMEGA dROUNDED: eVE dSCHWA eWITH:",
   "fDIAERESIS dSEMISOFT: eSIGN dSHA dSHCHA dSHHA eWITH: fDESCENDER dSHORT: eI fWITH: gTAIL eU",
   "dSHWE dSOFT: eDE eEL eEM eSIGN dSTRAIGHT: eU fWITH: gSTROKE dTALL: eHARD: fSIGN eTE eYAT dTCHE",
   "dTE eWITH: fDESCENDER fMIDDLE: gHOOK dTHREE-LEGGED: eTE dTSE dTSHE dTSSE dTSWE dTWE dU eWITH:",
   "fDIAERESIS fDOUBLE: gACUTE fMACRON dUK dUKRAINIAN: eIE dUNBLENDED: eUK dVE dWE dWIDE: eES dYA",
   "dYAE dYAT dYERU eWITH: fBACK: gYER fDIAERESIS dYI dYN dYU dZE eWITH: fDESCENDER fDIAERESIS",
   "dZEMLYA dZHE eWITH: fBREVE fDESCENDER fDIAERESIS dZHWE cLIGATURE: dA: eIE dEN: eGHE dTE: eTSE",
   "bTHOUSANDS: cSIGN aDAGGER bKNIFE bWITH: cLEFT: dGUARD cRIGHT: dGUARD aDALET: bSYMBOL aDANCER",
   "aDANGO aDARK: bSHADE bSUNGLASSES aDASH: bSYMBOL bWITH: cLEFT: dUPTURN aDASHED: bLOW: cLINE",
   "bOVERLINE bTRIANGLE-HEADED: cRIGHTWARDS: dARROW aDATA: bLINK: cESCAPE aDC1 aDC2 aDC3 aDC4 aDCS",
   "aDEAF: bPERSON aDECIDUOUS: bTREE aDECIMAL: bEXPONENT: cSYMBOL bSEPARATOR: cKEY: dSYMBOL",
   "aDECREASE: bFONT: cSIZE: dSYMBOL aDEER aDEGREE: bCELSIUS bFAHRENHEIT bSIGN aDEL aDELETE",
   "aDELIVERY: bTRUCK aDELTA: bEQUAL: cTO aDENTISTRY: bSYMBOL: cLIGHT: dDOWN: eAND: fHORIZONTAL",
   "gWITH: hCIRCLE hTRIANGLE hWAVE dUP: eAND: fHORIZONTAL gWITH: hCIRCLE hTRIANGLE hWAVE",
   "dVERTICAL: eAND: fBOTTOM: gLEFT gRIGHT fTOP: gLEFT gRIGHT fWAVE eWITH: fCIRCLE fTRIANGLE",
   "aDEPARTMENT: bSTORE aDERELICT: bHOUSE: cBUILDING aDESCENDING: bNODE aDESERET: bCAPITAL:",
   "cLETTER: dAY dBEE dCHEE dDEE dEF dEL dEM dEN dENG dER dES dESH dETH dEW dGAY dH dJEE dKAY",
   "dLONG: eA eAH eE eI eO eOO dOI dOW dPEE dSHORT: eA eAH eE eI eO eOO dTEE dTHEE dVEE dWU dYEE",
   "dZEE dZHEE bSMALL: cLETTER: dAY dBEE dCHEE dDEE dEF dEL dEM dEN dENG dER dES dESH dETH dEW",
   "dGAY dH dJEE dKAY dLONG: eA eAH eE eI eO eOO dOI dOW dPEE dSHORT: eA eAH eE eI eO eOO dTEE",
   "dTHEE dVEE dWU dYEE dZEE dZHEE aDESERT bISLAND aDESKTOP: bCOMPUTER bWINDOW aDEVANAGARI:",
   "bABBREVIATION: cSIGN bACUTE: cACCENT bCARET bDANDA bDIGIT: cEIGHT cFIVE cFOUR cNINE cONE",
   "cSEVEN cSIX cTHREE cTWO cZERO bDOUBLE: cDANDA bGAP: cFILLER bGRAVE: cACCENT bHEADSTROKE bJAIN:",
   "cOM bLETTER: cA cAA cAI cAU cAW cAY cBA cBBA cBHA cCA cCANDRA: dA dE dO cCHA cDA cDDA cDDDA",
   "cDDDHA cDDHA cDHA cE cFA cGA cGGA cGHA cGHHA cGLOTTAL: dSTOP cHA cHEAVY: dYA cI cII cJA cJHA",
   "cJJA cKA cKHA cKHHA cLA cLLA cLLLA cMA cMARWARI: dDDA cNA cNGA cNNA cNNNA cNYA cO cOE cOOE cPA",
   "cPHA cQA cRA cRHA cRRA cSA cSHA cSHORT: dA dE dO cSSA cTA cTHA cTTA cTTHA cU cUE cUU cUUE cVA",
   "cVOCALIC: dL dLL dR dRR cYA cYYA cZA cZHA bOM bSIGN: cANUSVARA cAVAGRAHA cCANDRABINDU",
   "dAVAGRAHA dTHREE dTWO dVIRAMA cDOUBLE: dCANDRABINDU: eVIRAMA cHIGH: dSPACING: eDOT cINVERTED:",
   "dCANDRABINDU cNUKTA cPUSHPIKA cSIDDHAM cSPACING: dCANDRABINDU cVIRAMA cVISARGA bSTRESS: cSIGN:",
   "dANUDATTA dUDATTA bVOWEL: cSIGN: dAA dAI dAU dAW dAY dCANDRA: eE eLONG: fE eO dE dI dII dO dOE",
   "dOOE dPRISHTHAMATRA: eE dSHORT: eE eO dU dUE dUU dUUE dVOCALIC: eL eLL eR eRR aDEVICE:",
   "bCONTROL: cFOUR cONE cSTRING cTHREE cTWO aDIAERESIS aDIAMETER: bSIGN aDIAMOND: bOPERATOR",
   "bSHAPE: cWITH: dA: eDOT: fINSIDE bTARGET bWITH: cBOTTOM: dHALF: eBLACK cLEFT: dHALF: eBLACK",
   "cRIGHT: dHALF: eBLACK cTOP: dHALF: eBLACK aDIE: bFACE-1 bFACE-2 bFACE-3 bFACE-4 bFACE-5",
   "bFACE-6 aDIESEL: bLOCOMOTIVE aDIFFERENCE: bBETWEEN aDIGIT: bEIGHT cCOMMA cFULL: dSTOP bFIVE",
   "cCOMMA cFULL: dSTOP bFOUR cCOMMA cFULL: dSTOP bNINE cCOMMA cFULL: dSTOP bONE cCOMMA cFULL:",
   "dSTOP bSEVEN cCOMMA cFULL: dSTOP bSIX cCOMMA cFULL: dSTOP bTHREE cCOMMA cFULL: dSTOP bTWO",
   "cCOMMA cFULL: dSTOP bZERO cCOMMA cFULL: dSTOP aDIGRAM: bFOR: cEARTH cEARTHLY: dHEAVEN dHUMAN",
   "cGREATER: dYANG dYIN cHEAVENLY: dEARTH cHUMAN: dEARTH cLESSER: dYANG dYIN aDIMENSION: bORIGIN",
   "aDINGBAT: bCIRCLED: cSANS-SERIF: dDIGIT: eEIGHT eFIVE eFOUR eNINE eONE eSEVEN eSIX eTHREE eTWO",
   "eZERO dNUMBER: eTEN bNEGATIVE: cCIRCLED: dDIGIT: eEIGHT eFIVE eFOUR eNINE eONE eSEVEN eSIX",
   "eTHREE eTWO dNUMBER: eTEN dSANS-SERIF: eDIGIT: fEIGHT fFIVE fFOUR fNINE fONE fSEVEN fSIX",
   "fTHREE fTWO fZERO eNUMBER: fTEN aDIRECT: bCURRENT: cSYMBOL: dFORM: eTWO bHIT aDISABLED: bCAR",
   "aDISAPPOINTED: bBUT: cRELIEVED: dFACE bFACE aDISCONTINUOUS: bUNDERLINE: cSYMBOL aDISGUISED:",
   "bFACE aDITTO: bMARK aDIVES: bAKURU: cDIGIT: dEIGHT dFIVE dFOUR dNINE dONE dSEVEN dSIX dTHREE",
   "dTWO dZERO cDOUBLE: dDANDA cEND: dOF: eTEXT: fMARK cGAP: dFILLER cINITIAL: dRA cLETTER: dA dAA",
   "dBA dBHA dCA dCHA dDA dDDA dDDHA dDHA dE dGA dGHA dHA dI dII dJA dKA dKHA dLA dLLA dMA dNA",
   "dNGA dNNA dNYA dO dPA dPHA dRA dSA dSHA dSSA dTA dTHA dTTA dU dUU dVA dYA dYYA dZA cMEDIAL:",
   "dRA dYA cPREFIXED: dNASAL: eSIGN cSIGN: dANUSVARA dCANDRABINDU dHALANTA dNUKTA cVIRAMA cVOWEL:",
   "dSIGN: eAA eAI eE eI eII eO eU eUU aDIVIDES aDIVING: bMASK aDIVISION: bSIGN bSLASH bTIMES",
   "aDIVORCE: bSYMBOL aDIYA: bLAMP aDIZZY: bFACE bSYMBOL aDLE aDNA: bDOUBLE: cHELIX aDO: bNOT:",
   "cLITTER: dSYMBOL aDOCUMENT bWITH: cPICTURE cTEXT dAND: ePICTURE aDODO aDOES: bNOT: cCONTAIN:",
   "dAS: eMEMBER eNORMAL: fSUBGROUP gOR: hEQUAL cDIVIDE dWITH: eREVERSED: fNEGATION: gSLASH cFORCE",
   "cPRECEDE dOR: eEQUAL cPROVE cSUCCEED dOR: eEQUAL aDOG bFACE aDOGRA: bABBREVIATION: cSIGN",
   "bLETTER: cA cAA cAI cAU cBA cBHA cCA cCHA cDA cDDA cDDHA cDHA cE cGA cGHA cHA cI cII cJA cJHA",
   "cKA cKHA cLA cMA cNA cNGA cNNA cNYA cO cPA cPHA cRA cRRA cSA cSHA cSSA cTA cTHA cTTA cTTHA cU",
   "cUU cVA cYA bSIGN: cANUSVARA cNUKTA cVIRAMA cVISARGA bVOWEL: cSIGN: dAA dAI dAU dE dI dII dO",
   "dU dUU dVOCALIC: eR eRR aDOLLAR: bSIGN aDOLPHIN aDOMINO: bTILE: cHORIZONTAL: dBACK",
   "cHORIZONTAL-00-00 cHORIZONTAL-00-01 cHORIZONTAL-00-02 cHORIZONTAL-00-03 cHORIZONTAL-00-04",
   "cHORIZONTAL-00-05 cHORIZONTAL-00-06 cHORIZONTAL-01-00 cHORIZONTAL-01-01 cHORIZONTAL-01-02",
   "cHORIZONTAL-01-03 cHORIZONTAL-01-04 cHORIZONTAL-01-05 cHORIZONTAL-01-06 cHORIZONTAL-02-00",
   "cHORIZONTAL-02-01 cHORIZONTAL-02-02 cHORIZONTAL-02-03 cHORIZONTAL-02-04 cHORIZONTAL-02-05",
   "cHORIZONTAL-02-06 cHORIZONTAL-03-00 cHORIZONTAL-03-01 cHORIZONTAL-03-02 cHORIZONTAL-03-03",
   "cHORIZONTAL-03-04 cHORIZONTAL-03-05 cHORIZONTAL-03-06 cHORIZONTAL-04-00 cHORIZONTAL-04-01",
   "cHORIZONTAL-04-02 cHORIZONTAL-04-03 cHORIZONTAL-04-04 cHORIZONTAL-04-05 cHORIZONTAL-04-06",
   "cHORIZONTAL-05-00 cHORIZONTAL-05-01 cHORIZONTAL-05-02 cHORIZONTAL-05-03 cHORIZONTAL-05-04",
   "cHORIZONTAL-05-05 cHORIZONTAL-05-06 cHORIZONTAL-06-00 cHORIZONTAL-06-01 cHORIZONTAL-06-02",
   "cHORIZONTAL-06-03 cHORIZONTAL-06-04 cHORIZONTAL-06-05 cHORIZONTAL-06-06 cVERTICAL: dBACK",
   "cVERTICAL-00-00 cVERTICAL-00-01 cVERTICAL-00-02 cVERTICAL-00-03 cVERTICAL-00-04",
   "cVERTICAL-00-05 cVERTICAL-00-06 cVERTICAL-01-00 cVERTICAL-01-01 cVERTICAL-01-02",
   "cVERTICAL-01-03 cVERTICAL-01-04 cVERTICAL-01-05 cVERTICAL-01-06 cVERTICAL-02-00",
   "cVERTICAL-02-01 cVERTICAL-02-02 cVERTICAL-02-03 cVERTICAL-02-04 cVERTICAL-02-05",
   "cVERTICAL-02-06 cVERTICAL-03-00 cVERTICAL-03-01 cVERTICAL-03-02 cVERTICAL-03-03",
   "cVERTICAL-03-04 cVERTICAL-03-05 cVERTICAL-03-06 cVERTICAL-04-00 cVERTICAL-04-01",
   "cVERTICAL-04-02 cVERTICAL-04-03 cVERTICAL-04-04 cVERTICAL-04-05 cVERTICAL-04-06",
   "cVERTICAL-05-00 cVERTICAL-05-01 cVERTICAL-05-02 cVERTICAL-05-03 cVERTICAL-05-04",
   "cVERTICAL-05-05 cVERTICAL-05-06 cVERTICAL-06-00 cVERTICAL-06-01 cVERTICAL-06-02",
   "cVERTICAL-06-03 cVERTICAL-06-04 cVERTICAL-06-05 cVERTICAL-06-06 aDONG: bSIGN aDOOR aDOT:",
   "bABOVE bMINUS bOPERATOR bPLUS aDOTTED: bCIRCLE bCROSS bFENCE bLINE: cFACE bOBELOS",
   "bRIGHT-POINTING: cANGLE bSOLIDUS bSQUARE bTRANSPOSITION: cMARKER aDOUBLE: bACUTE: cACCENT",
   "bCIRCLED: cDIGIT: dEIGHT dFIVE dFOUR dNINE dONE dSEVEN dSIX dTHREE dTWO cNUMBER: dTEN bCOLON:",
   "cEQUAL bCURLY: cLOOP bDAGGER bDOWN: cTACK bEXCLAMATION: cMARK bHIGH-REVERSED-9: cQUOTATION:",
   "dMARK bHYPHEN bINTEGRAL bINTERSECTION bLEFT: cARC: dGREATER-THAN: eBRACKET bLOGICAL: cAND cOR",
   "bLOW: cLINE bLOW-9: cQUOTATION: dMARK bLOW-REVERSED-9: cQUOTATION: dMARK bNESTED:",
   "cGREATER-THAN cLESS-THAN dWITH: eUNDERBAR bOBLIQUE: cHYPHEN bPLUS bPRECEDES bPRIME cQUOTATION:",
   "dMARK bQUESTION: cMARK bRIGHT: cARC: dLESS-THAN: eBRACKET bSOLIDUS: cOPERATOR bSQUARE:",
   "cINTERSECTION cUNION bSTACKED: cCOMMA bSTROKE: cNOT: dSIGN bSUBSET bSUCCEEDS bSUPERSET",
   "bSUSPENSION: cMARK bUNION bUP: cTACK bVERTICAL: cBAR dDOUBLE: eLEFT: fTURNSTILE eRIGHT:",
   "fTURNSTILE dLEFT: eTURNSTILE cLINE bWAVY: cOVERLINE aDOUBLE-ENDED: bMULTIMAP aDOUBLE-LINE:",
   "bEQUAL: cTO: dOR: eGREATER-THAN eLESS-THAN bSLANTED: cEQUAL: dTO: eOR: fGREATER-THAN",
   "fLESS-THAN cGREATER-THAN: dOR: eEQUAL: fTO cLESS-THAN: dOR: eEQUAL: fTO aDOUBLE-STRUCK:",
   "bCAPITAL: cC cGAMMA cH cN cP cPI cQ cR cZ bITALIC: cCAPITAL: dD cSMALL: dD dE dI dJ bN-ARY:",
   "cSUMMATION bSMALL: cGAMMA cPI aDOUBLED: bFEMALE: cSIGN bMALE: cSIGN bSYMBOL aDOUGHNUT aDOVE:",
   "bOF: cPEACE aDOWN: bARROWHEAD bFISH: cTAIL bRIGHT: cDIAGONAL: dELLIPSIS bTACK cWITH: dCIRCLE:",
   "eBELOW aDOWN-POINTING: bRED: cTRIANGLE bSMALL: cRED: dTRIANGLE bTRIANGLE: cWITH: dLEFT: eHALF:",
   "fBLACK dRIGHT: eHALF: fBLACK aDOWNWARD: bFACING: cHOOK dWITH: eDOT cNOTCHED: dHOOK eWITH: fDOT",
   "aDOWNWARDS: bANCORA bARROW cAND: dRIGHT: eONE: fEIGHTH: gBLOCK cFROM: dBAR cLEFTWARDS: dOF:",
   "eUPWARDS: fARROW cTO: dBAR cWITH: dCORNER: eLEFTWARDS dDOUBLE: eSTROKE dEQUILATERAL:",
   "eARROWHEAD dHORIZONTAL: eSTROKE dLARGE: eTRIANGLE: fARROWHEAD dMEDIUM: eTRIANGLE: fARROWHEAD",
   "dNOTCHED: eTAIL dSMALL: eEQUILATERAL: fARROWHEAD eTRIANGLE: fARROWHEAD dTIP: eLEFTWARDS",
   "eRIGHTWARDS bBLACK: cARROW cCIRCLED: dWHITE: eARROW bCOMPRESSED: cARROW bDASHED: cARROW",
   "bDOUBLE: cARROW bFINGER-POST: cARROW bHARPOON: cWITH: dBARB: eLEFT: fBESIDE: gDOWNWARDS:",
   "hHARPOON: iWITH: jBARB: kRIGHT gUPWARDS: hHARPOON: iWITH: jBARB: kRIGHT fFROM: gBAR fTO: gBAR",
   "eLEFTWARDS eRIGHT: fFROM: gBAR fTO: gBAR eRIGHTWARDS bHEAVY: cARROW cCOMPRESSED: dARROW",
   "bPAIRED: cARROWS bQUADRUPLE: cARROW bROCKET bSANS-SERIF: cARROW bSQUARED: cARROW bTRIANGLE:",
   "cARROWHEAD bTRIANGLE-HEADED: cARROW dLEFTWARDS: eOF: fUPWARDS: gTRIANGLE-HEADED: hARROW dTO:",
   "eBAR dWITH: eBOLD: fSHAFT eDOUBLE: fHORIZONTAL: gSTROKE eHEAVY: fSHAFT eLONG: fTIP: gLEFTWARDS",
   "gRIGHTWARDS eMEDIUM: fSHAFT eNARROW: fSHAFT eVERY: fHEAVY: gSHAFT cDASHED: dARROW cPAIRED:",
   "dARROWS cZIGZAG: dARROW bTRIPLE: cARROW bTWO: cHEADED: dARROW bTWO-HEADED: cARROW: dWITH:",
   "eTRIANGLE: fARROWHEADS bWHITE: cARROW dWITHIN: eTRIANGLE: fARROWHEAD bZIGZAG: cARROW aDRACHMA:",
   "bSIGN aDRAFTING: bPOINT: cRIGHTWARDS: dARROW aDRAGON bFACE aDRESS aDRIVE: bSLOW: cSIGN",
   "aDROMEDARY: bCAMEL aDROOLING: bFACE aDROP: bOF: cBLOOD aDROPLET aDRUM: bWITH: cDRUMSTICKS",
   "aDUCK aDUMPLING aDUPLOYAN: bAFFIX: cATTACHED: dE: eHOOK dI: eHOOK dLEFT-TO-RIGHT: eSECANT",
   "dSECANT dTAIL dTANGENT eHOOK cHIGH: dACUTE dCIRCLE dDOT dGRAVE dLINE dLONG: eGRAVE dTIGHT:",
   "eACUTE dVERTICAL eSECANT dWAVE cLEFT: dHORIZONTAL: eSECANT cLOW: dACUTE dARROW dCIRCLE dDOT",
   "dGRAVE dLINE dLONG: eGRAVE dTIGHT: eACUTE dVERTICAL eSECANT dWAVE cMID: dHORIZONTAL: eSECANT",
   "dVERTICAL: eSECANT cRIGHT: dHORIZONTAL: eSECANT bDOUBLE: cMARK bLETTER: cA cAOU cB cD dS cDH",
   "cE cEE cEU cF dN cG dR: eS cH cHL cI cIE cJ dM eS dN eS dS eWITH: fDOT dWITH: eDOT eDOTS:",
   "fINSIDE: gAND: hABOVE cK dM dR: eS cKK cL cLH cLONG: dI dU cM dN eS dS dWITH: eDOT cN dM eS dS",
   "dWITH: eDOT cNASAL: dA dI dO dU cO cOA cOOH cOU cOW cP dN cPERNIN: dAM dAN cR dS cRH",
   "cROMANIAN: dI dU cS dJ eS dK eR dM dN dP eR dS dT eR dWITH: eDOT fBELOW cSHORT: dI cSLOAN: dAN",
   "dDH dEE dEH dEN dJ dON dOW dU cT dR: eS dS cTH cU dN cUH cUI cV cVOCALIC: dM cW dR cWA cWEI",
   "cWH cWI cWO cWOW cX cXW cYE bPUNCTUATION: cCHINOOK: dFULL: eSTOP bSIGN: cO: dWITH: eCROSS",
   "bTHICK: cLETTER: dSELECTOR aDVD aE-MAIL: bSYMBOL aEAGLE aEAR bOF: cMAIZE cRICE bWITH:",
   "cHEARING: dAID aEARTH bGLOBE: cAMERICAS cASIA-AUSTRALIA cEUROPE-AFRICA bGROUND aEAST: bSYRIAC:",
   "cCROSS aEDITORIAL: bCORONIS aEGG aEGYPTIAN: bHIEROGLYPH: cA001 cA002 cA003 cA004 cA005 cA005A",
   "cA006 cA006A cA006B cA007 cA008 cA009 cA010 cA011 cA012 cA013 cA014 cA014A cA015 cA016 cA017",
   "cA017A cA018 cA019 cA020 cA021 cA022 cA023 cA024 cA025 cA026 cA027 cA028 cA029 cA030 cA031",
   "cA032 cA032A cA033 cA034 cA035 cA036 cA037 cA038 cA039 cA040 cA040A cA041 cA042 cA042A cA043",
   "cA043A cA044 cA045 cA045A cA046 cA047 cA048 cA049 cA050 cA051 cA052 cA053 cA054 cA055 cA056",
   "cA057 cA058 cA059 cA060 cA061 cA062 cA063 cA064 cA065 cA066 cA067 cA068 cA069 cA070 cAA001",
   "cAA002 cAA003 cAA004 cAA005 cAA006 cAA007 cAA007A cAA007B cAA008 cAA009 cAA010 cAA011 cAA012",
   "cAA013 cAA014 cAA015 cAA016 cAA017 cAA018 cAA019 cAA020 cAA021 cAA022 cAA023 cAA024 cAA025",
   "cAA026 cAA027 cAA028 cAA029 cAA030 cAA031 cAA032 cB001 cB002 cB003 cB004 cB005 cB005A cB006",
   "cB007 cB008 cB009 cBEGIN: dSEGMENT cC001 cC002 cC002A cC002B cC002C cC003 cC004 cC005 cC006",
   "cC007 cC008 cC009 cC010 cC010A cC011 cC012 cC013 cC014 cC015 cC016 cC017 cC018 cC019 cC020",
   "cC021 cC022 cC023 cC024 cD001 cD002 cD003 cD004 cD005 cD006 cD007 cD008 cD008A cD009 cD010",
   "cD011 cD012 cD013 cD014 cD015 cD016 cD017 cD018 cD019 cD020 cD021 cD022 cD023 cD024 cD025",
   "cD026 cD027 cD027A cD028 cD029 cD030 cD031 cD031A cD032 cD033 cD034 cD034A cD035 cD036 cD037",
   "cD038 cD039 cD040 cD041 cD042 cD043 cD044 cD045 cD046 cD046A cD047 cD048 cD048A cD049 cD050",
   "cD050A cD050B cD050C cD050D cD050E cD050F cD050G cD050H cD050I cD051 cD052 cD052A cD053 cD054",
   "cD054A cD055 cD056 cD057 cD058 cD059 cD060 cD061 cD062 cD063 cD064 cD065 cD066 cD067 cD067A",
   "cD067B cD067C cD067D cD067E cD067F cD067G cD067H cE001 cE002 cE003 cE004 cE005 cE006 cE007",
   "cE008 cE008A cE009 cE009A cE010 cE011 cE012 cE013 cE014 cE015 cE016 cE016A cE017 cE017A cE018",
   "cE019 cE020 cE020A cE021 cE022 cE023 cE024 cE025 cE026 cE027 cE028 cE028A cE029 cE030 cE031",
   "cE032 cE033 cE034 cE034A cE036 cE037 cE038 cEND: dSEGMENT cF001 cF001A cF002 cF003 cF004 cF005",
   "cF006 cF007 cF008 cF009 cF010 cF011 cF012 cF013 cF013A cF014 cF015 cF016 cF017 cF018 cF019",
   "cF020 cF021 cF021A cF022 cF023 cF024 cF025 cF026 cF027 cF028 cF029 cF030 cF031 cF031A cF032",
   "cF033 cF034 cF035 cF036 cF037 cF037A cF038 cF038A cF039 cF040 cF041 cF042 cF043 cF044 cF045",
   "cF045A cF046 cF046A cF047 cF047A cF048 cF049 cF050 cF051 cF051A cF051B cF051C cF052 cF053",
   "cG001 cG002 cG003 cG004 cG005 cG006 cG006A cG007 cG007A cG007B cG008 cG009 cG010 cG011 cG011A",
   "cG012 cG013 cG014 cG015 cG016 cG017 cG018 cG019 cG020 cG020A cG021 cG022 cG023 cG024 cG025",
   "cG026 cG026A cG027 cG028 cG029 cG030 cG031 cG032 cG033 cG034 cG035 cG036 cG036A cG037 cG037A",
   "cG038 cG039 cG040 cG041 cG042 cG043 cG043A cG044 cG045 cG045A cG046 cG047 cG048 cG049 cG050",
   "cG051 cG052 cG053 cG054 cH001 cH002 cH003 cH004 cH005 cH006 cH006A cH007 cH008 cHORIZONTAL:",
   "dJOINER cI001 cI002 cI003 cI004 cI005 cI005A cI006 cI007 cI008 cI009 cI009A cI010 cI010A cI011",
   "cI011A cI012 cI013 cI014 cI015 cINSERT: dAT: eBOTTOM: fEND fSTART eTOP: fEND fSTART cK001",
   "cK002 cK003 cK004 cK005 cK006 cK007 cK008 cL001 cL002 cL002A cL003 cL004 cL005 cL006 cL006A",
   "cL007 cL008 cM001 cM001A cM001B cM002 cM003 cM003A cM004 cM005 cM006 cM007 cM008 cM009 cM010",
   "cM010A cM011 cM012 cM012A cM012B cM012C cM012D cM012E cM012F cM012G cM012H cM013 cM014 cM015",
   "cM015A cM016 cM016A cM017 cM017A cM018 cM019 cM020 cM021 cM022 cM022A cM023 cM024 cM024A cM025",
   "cM026 cM027 cM028 cM028A cM029 cM030 cM031 cM031A cM032 cM033 cM033A cM033B cM034 cM035 cM036",
   "cM037 cM038 cM039 cM040 cM040A cM041 cM042 cM043 cM044 cN001 cN002 cN003 cN004 cN005 cN006",
   "cN007 cN008 cN009 cN010 cN011 cN012 cN013 cN014 cN015 cN016 cN017 cN018 cN018A cN018B cN019",
   "cN020 cN021 cN022 cN023 cN024 cN025 cN025A cN026 cN027 cN028 cN029 cN030 cN031 cN032 cN033",
   "cN033A cN034 cN034A cN035 cN035A cN036 cN037 cN037A cN038 cN039 cN040 cN041 cN042 cNL001",
   "cNL002 cNL003 cNL004 cNL005 cNL005A cNL006 cNL007 cNL008 cNL009 cNL010 cNL011 cNL012 cNL013",
   "cNL014 cNL015 cNL016 cNL017 cNL017A cNL018 cNL019 cNL020 cNU001 cNU002 cNU003 cNU004 cNU005",
   "cNU006 cNU007 cNU008 cNU009 cNU010 cNU010A cNU011 cNU011A cNU012 cNU013 cNU014 cNU015 cNU016",
   "cNU017 cNU018 cNU018A cNU019 cNU020 cNU021 cNU022 cNU022A cO001 cO001A cO002 cO003 cO004 cO005",
   "cO005A cO006 cO006A cO006B cO006C cO006D cO006E cO006F cO007 cO008 cO009 cO010 cO010A cO010B",
   "cO010C cO011 cO012 cO013 cO014 cO015 cO016 cO017 cO018 cO019 cO019A cO020 cO020A cO021 cO022",
   "cO023 cO024 cO024A cO025 cO025A cO026 cO027 cO028 cO029 cO029A cO030 cO030A cO031 cO032 cO033",
   "cO033A cO034 cO035 cO036 cO036A cO036B cO036C cO036D cO037 cO038 cO039 cO040 cO041 cO042 cO043",
   "cO044 cO045 cO046 cO047 cO048 cO049 cO050 cO050A cO050B cO051 cOVERLAY: dMIDDLE cP001 cP001A",
   "cP002 cP003 cP003A cP004 cP005 cP006 cP007 cP008 cP009 cP010 cP011 cQ001 cQ002 cQ003 cQ004",
   "cQ005 cQ006 cQ007 cR001 cR002 cR002A cR003 cR003A cR003B cR004 cR005 cR006 cR007 cR008 cR009",
   "cR010 cR010A cR011 cR012 cR013 cR014 cR015 cR016 cR016A cR017 cR018 cR019 cR020 cR021 cR022",
   "cR023 cR024 cR025 cR026 cR027 cR028 cR029 cS001 cS002 cS002A cS003 cS004 cS005 cS006 cS006A",
   "cS007 cS008 cS009 cS010 cS011 cS012 cS013 cS014 cS014A cS014B cS015 cS016 cS017 cS017A cS018",
   "cS019 cS020 cS021 cS022 cS023 cS024 cS025 cS026 cS026A cS026B cS027 cS028 cS029 cS030 cS031",
   "cS032 cS033 cS034 cS035 cS035A cS036 cS037 cS038 cS039 cS040 cS041 cS042 cS043 cS044 cS045",
   "cS046 cT001 cT002 cT003 cT003A cT004 cT005 cT006 cT007 cT007A cT008 cT008A cT009 cT009A cT010",
   "cT011 cT011A cT012 cT013 cT014 cT015 cT016 cT016A cT017 cT018 cT019 cT020 cT021 cT022 cT023",
   "cT024 cT025 cT026 cT027 cT028 cT029 cT030 cT031 cT032 cT032A cT033 cT033A cT034 cT035 cT036",
   "cU001 cU002 cU003 cU004 cU005 cU006 cU006A cU006B cU007 cU008 cU009 cU010 cU011 cU012 cU013",
   "cU014 cU015 cU016 cU017 cU018 cU019 cU020 cU021 cU022 cU023 cU023A cU024 cU025 cU026 cU027",
   "cU028 cU029 cU029A cU030 cU031 cU032 cU032A cU033 cU034 cU035 cU036 cU037 cU038 cU039 cU040",
   "cU041 cU042 cV001 cV001A cV001B cV001C cV001D cV001E cV001F cV001G cV001H cV001I cV002 cV002A",
   "cV003 cV004 cV005 cV006 cV007 cV007A cV007B cV008 cV009 cV010 cV011 cV011A cV011B cV011C cV012",
   "cV012A cV012B cV013 cV014 cV015 cV016 cV017 cV018 cV019 cV020 cV020A cV020B cV020C cV020D",
   "cV020E cV020F cV020G cV020H cV020I cV020J cV020K cV020L cV021 cV022 cV023 cV023A cV024 cV025",
   "cV026 cV027 cV028 cV028A cV029 cV029A cV030 cV030A cV031 cV031A cV032 cV033 cV033A cV034 cV035",
   "cV036 cV037 cV037A cV038 cV039 cV040 cV040A cVERTICAL: dJOINER cW001 cW002 cW003 cW003A cW004",
   "cW005 cW006 cW007 cW008 cW009 cW009A cW010 cW010A cW011 cW012 cW013 cW014 cW014A cW015 cW016",
   "cW017 cW017A cW018 cW018A cW019 cW020 cW021 cW022 cW023 cW024 cW024A cW025 cX001 cX002 cX003",
   "cX004 cX004A cX004B cX005 cX006 cX006A cX007 cX008 cX008A cY001 cY001A cY002 cY003 cY004 cY005",
   "cY006 cY007 cY008 cZ001 cZ002 cZ002A cZ002B cZ002C cZ002D cZ003 cZ003A cZ003B cZ004 cZ004A",
   "cZ005 cZ005A cZ006 cZ007 cZ008 cZ009 cZ010 cZ011 cZ012 cZ013 cZ014 cZ015 cZ015A cZ015B cZ015C",
   "cZ015D cZ015E cZ015F cZ015G cZ015H cZ015I cZ016 cZ016A cZ016B cZ016C cZ016D cZ016E cZ016F",
   "cZ016G cZ016H aEIGHT: bPETALLED: cOUTLINED: dBLACK: eFLORETTE bPOINTED: cBLACK: dSTAR",
   "cPINWHEEL: dSTAR cRECTILINEAR: dBLACK: eSTAR bSPOKED: cASTERISK bTEARDROP-SPOKED: cPROPELLER:",
   "dASTERISK aEIGHTH: bNOTE aEJECT: bSYMBOL aELBASAN: bLETTER: cA cBE cCE cCHE cDE cDHE cE cEI",
   "cFE cGE cGHAMMA cGHE cGJE cHE cI cJE cKE cKHE cLE cLLE cME cNA cNDE cNE cNJE cO cPE cQE cRE",
   "cRRE cSE cSHE cTE cTHE cU cVE cXE cY cZE cZHE aELECTRIC: bARROW bLIGHT: cBULB bPLUG bTORCH",
   "aELECTRICAL: bINTERSECTION aELEMENT: bOF cOPENING: dDOWNWARDS dUPWARDS cWITH: dDOT: eABOVE",
   "dLONG: eHORIZONTAL: fSTROKE dOVERBAR dTWO: eHORIZONTAL: fSTROKES dUNDERBAR dVERTICAL: eBAR:",
   "fAT: gEND: hOF: iHORIZONTAL: jSTROKE aELEPHANT aELEVATOR aELF aELYMAIC: bLETTER: cALEPH cAYIN",
   "cBETH cDALETH cGIMEL cHE cHETH cKAPH cLAMEDH cMEM cNUN cPE cQOPH cRESH cSADHE cSAMEKH cSHIN",
   "cTAW cTETH cWAW cYODH cZAYIN bLIGATURE: cZAYIN-YODH aEM: bDASH bQUAD bSPACE aEMOJI:",
   "bCOMPONENT: cBALD cCURLY: dHAIR cRED: dHAIR cWHITE: dHAIR bMODIFIER: cFITZPATRICK: dTYPE-1-2",
   "dTYPE-3 dTYPE-4 dTYPE-5 dTYPE-6 aEMPHASIS: bSYMBOL aEMPTY: bDOCUMENT bNEST bNOTE cPAD cPAGE",
   "bPAGE bPAGES bSET cWITH: dLEFT: eARROW: fABOVE dOVERBAR dRIGHT: eARROW: fABOVE dSMALL:",
   "eCIRCLE: fABOVE aEN: bDASH bQUAD bSPACE aEND: bOF: cGUARDED: dAREA cLINE cMEDIUM cPROOF",
   "cPROTECTED: dAREA cSELECTED: dAREA cTEXT cTRANSMISSION dBLOCK bWITH: cLEFTWARDS: dARROW:",
   "eABOVE aENQ aENQUIRY aENTER: bSYMBOL aENVELOPE bWITH: cDOWNWARDS: dARROW: eABOVE cLIGHTNING",
   "aEOL aEOM aEOT aEPA aEQUAL: bAND: cPARALLEL: dTO bTO: cBY: dDEFINITION cOR: dGREATER-THAN",
   "dLESS-THAN dPRECEDES dSUCCEEDS aEQUALS: bCOLON bSIGN cABOVE: dLEFTWARDS: eARROW dPLUS: eSIGN",
   "dRIGHTWARDS: eARROW dTILDE: eOPERATOR cAND: dSLANTED: ePARALLEL fWITH: gTILDE: hABOVE cWITH:",
   "dBUMPY: eABOVE dDOT: eBELOW dINFINITY: eBELOW dTWO: eDOTS: fABOVE: gAND: hTWO: iDOTS: jBELOW",
   "bWITH: cASTERISK aEQUIANGULAR: bTO aEQUIVALENT: bTO bWITH: cFOUR: dDOTS: eABOVE aERASE: bTO:",
   "cTHE: dLEFT dRIGHT aERIS: bFORM: cONE cTWO aERROR-BARRED: bBLACK: cCIRCLE cDIAMOND cSQUARE",
   "bWHITE: cCIRCLE cDIAMOND cSQUARE aESA aESC aESCAPE aESTIMATED: bSYMBOL aESTIMATES aETB",
   "aETHIOPIC: bCOLON bCOMBINING: cGEMINATION: dAND: eVOWEL: fLENGTH: gMARK dMARK cVOWEL: dLENGTH:",
   "eMARK bCOMMA bDIGIT: cEIGHT cFIVE cFOUR cNINE cONE cSEVEN cSIX cTHREE cTWO bFULL: cSTOP",
   "bNUMBER: cEIGHTY cFIFTY cFORTY cHUNDRED cNINETY cSEVENTY cSIXTY cTEN dTHOUSAND cTHIRTY cTWENTY",
   "bPARAGRAPH: cSEPARATOR bPREFACE: cCOLON bQUESTION: cMARK bSECTION: cMARK bSEMICOLON bSYLLABLE:",
   "cBA cBAA cBBA cBBAA cBBE cBBEE cBBI cBBO cBBU cBE cBEE cBI cBO cBOA cBU cBWA cBWE cBWEE cBWI",
   "cCA cCAA cCCA cCCAA cCCE cCCEE cCCHA cCCHAA cCCHE cCCHEE cCCHHA cCCHHAA cCCHHE cCCHHEE cCCHHI",
   "cCCHHO cCCHHU cCCHI cCCHO cCCHU cCCI cCCO cCCU cCE cCEE cCHA cCHAA cCHE cCHEE cCHI cCHO cCHOA",
   "cCHU cCHWA cCI cCO cCOA cCU cCWA cDA cDAA cDDA cDDAA cDDE cDDEE cDDHAA cDDHE cDDHEE cDDHI",
   "cDDHO cDDHU cDDI cDDO cDDOA cDDU cDDWA cDE cDEE cDI cDO cDOA cDU cDWA cDZAA cDZE cDZEE cDZI",
   "cDZO cDZU cFA cFAA cFE cFEE cFI cFO cFU cFWA cFWE cFWEE cFWI cFYA cGA cGAA cGE cGEE cGGA cGGAA",
   "cGGE cGGEE cGGI cGGO cGGU cGGWA cGGWAA cGGWE cGGWEE cGGWI cGI cGLOTTAL: dA dAA dE dEE dI dO",
   "dOA dU dWA cGO cGOA cGU cGURAGE: dBWEE dBWI dFWEE dFWI dGWE dGWEE dGWI dHHWA dKWE dKWEE dKWI",
   "dMWEE dMWI dPWEE dPWI dQWE dQWEE dQWI cGWA cGWAA cGWE cGWEE cGWI cGYA cGYAA cGYE cGYEE cGYI",
   "cGYO cGYU cHA cHAA cHE cHEE cHHA cHHAA cHHE cHHEE cHHI cHHO cHHU cHHWA cHHWE cHHWEE cHHWI",
   "cHHYA cHHYAA cHHYE cHHYEE cHHYI cHHYO cHHYU cHI cHO cHOA cHU cJA cJAA cJE cJEE cJI cJO cJOA",
   "cJU cJWA cKA cKAA cKE cKEE cKI cKO cKOA cKU cKWA cKWAA cKWE cKWEE cKWI cKXA cKXAA cKXE cKXEE",
   "cKXI cKXO cKXU cKXWA cKXWAA cKXWE cKXWEE cKXWI cKYA cKYAA cKYE cKYEE cKYI cKYO cKYU cLA cLAA",
   "cLE cLEE cLI cLO cLOA cLU cLWA cMA cMAA cME cMEE cMI cMO cMOA cMU cMWA cMWE cMWEE cMWI cMYA",
   "cNA cNAA cNE cNEE cNI cNO cNOA cNU cNWA cNYA cNYAA cNYE cNYEE cNYI cNYO cNYOA cNYU cNYWA cPA",
   "cPAA cPE cPEE cPHA cPHAA cPHARYNGEAL: dA dAA dE dEE dI dO dU cPHE cPHEE cPHI cPHO cPHOA cPHU",
   "cPHWA cPI cPO cPOA cPU cPWA cPWE cPWEE cPWI cQA cQAA cQE cQEE cQHA cQHAA cQHE cQHEE cQHI cQHO",
   "cQHU cQHWA cQHWAA cQHWE cQHWEE cQHWI cQI cQO cQOA cQU cQWA cQWAA cQWE cQWEE cQWI cQYA cQYAA",
   "cQYE cQYEE cQYI cQYO cQYU cRA cRAA cRE cREE cRI cRO cROA cRU cRWA cRYA cSA cSAA cSE",
   "cSEBATBEIT: dBWA dFWA dMWA dPWA cSEE cSHA cSHAA cSHE cSHEE cSHI cSHO cSHOA cSHU cSHWA cSI cSO",
   "cSOA cSSA cSSAA cSSE cSSEE cSSI cSSO cSSU cSU cSWA cSZA cSZAA cSZE cSZEE cSZI cSZO cSZU cSZWA",
   "cTA cTAA cTE cTEE cTHA cTHAA cTHE cTHEE cTHI cTHO cTHOA cTHU cTHWA cTI cTO cTOA cTSA cTSAA",
   "cTSE cTSEE cTSI cTSO cTSU cTSWA cTTHAA cTTHE cTTHEE cTTHI cTTHO cTTHU cTU cTWA cTZA cTZAA cTZE",
   "cTZEE cTZI cTZO cTZOA cTZU cVA cVAA cVE cVEE cVI cVO cVU cVWA cWA cWAA cWE cWEE cWI cWO cWOA",
   "cWU cXA cXAA cXE cXEE cXI cXO cXOA cXU cXWA cXWAA cXWE cXWEE cXWI cXYA cXYAA cXYE cXYEE cXYI",
   "cXYO cXYU cYA cYAA cYE cYEE cYI cYO cYOA cYU cZA cZAA cZE cZEE cZHA cZHAA cZHE cZHEE cZHI cZHO",
   "cZHU cZHWA cZI cZO cZOA cZU cZWA cZZA cZZAA cZZE cZZEE cZZI cZZO cZZU bTONAL: cMARK: dCHIRET",
   "dDERET dDERET-HIDET dDIFAT dHIDET dKENAT dKURT dRIKRIK dSHORT: eRIKRIK dYIZET bWORDSPACE aETX",
   "aEULER: bCONSTANT aEURO: bSIGN aEURO-CURRENCY: bSIGN aEUROPEAN: bCASTLE bPOST: cOFFICE",
   "aEVERGREEN: bTREE aEXCESS aEXCLAMATION: bMARK bQUESTION: cMARK aEXPRESSIONLESS: bFACE",
   "aEXTENDED: bARABIC-INDIC: cDIGIT: dEIGHT dFIVE dFOUR dNINE dONE dSEVEN dSIX dTHREE dTWO dZERO",
   "aEXTRATERRESTRIAL: bALIEN aEXTREMELY: bHEAVY: cFIVE: dSPOKED: eASTERISK cGREEK: dCROSS",
   "cSALTIRE cSIX: dSPOKED: eASTERISK cWHITE: dCIRCLE dSQUARE aEYE aEYEGLASSES aEYES aFACE:",
   "bHOLDING: cBACK: dTEARS bMASSAGE bPALM bSAVOURING: cDELICIOUS: dFOOD bSCREAMING: cIN: dFEAR",
   "bTHROWING: cA: dKISS bWITH: cCOLD: dSWEAT cCOWBOY: dHAT cDIAGONAL: dMOUTH cFINGER: dCOVERING:",
   "eCLOSED: fLIPS cHEAD-BANDAGE cLOOK: dOF: eTRIUMPH cMEDICAL: dMASK cMONOCLE cNO: dGOOD:",
   "eGESTURE cOK: dGESTURE cONE: dEYEBROW: eRAISED cOPEN: dEYES: eAND: fHAND: gOVER: hMOUTH dMOUTH",
   "eAND: fCOLD: gSWEAT eVOMITING cPARTY: dHORN: eAND: fPARTY: gHAT cPEEKING: dEYE cPLEADING:",
   "dEYES cROLLING: dEYES cSTUCK-OUT: dTONGUE eAND: fTIGHTLY-CLOSED: gEYES fWINKING: gEYE cTEARS:",
   "dOF: eJOY cTHERMOMETER cUNEVEN: dEYES: eAND: fWAVY: gMOUTH bWITHOUT: cMOUTH aFACSIMILE: bSIGN",
   "aFACTORY aFAIRY aFALAFEL aFALLEN: bLEAF aFALLING: bDIAGONAL: cCROSSING: dNORTH: eEAST: fARROW",
   "dRISING: eDIAGONAL cIN: dWHITE: eCIRCLE: fIN: gBLACK: hSQUARE aFAMILY aFARSI: bSYMBOL aFATHER:",
   "bCHRISTMAS aFAX: bICON bMACHINE aFEARFUL: bFACE aFEATHER aFEMALE: bSIGN aFEMININE: bORDINAL:",
   "cINDICATOR aFENCER aFERRIS: bWHEEL aFERRY aFF aFIELD: bHOCKEY: cSTICK: dAND: eBALL aFIGURE:",
   "bDASH bSPACE aFILE: bCABINET bFOLDER bSEPARATOR aFILM: bFRAMES bPROJECTOR aFINITE: bPART:",
   "cINTEGRAL aFIRE bENGINE bEXTINGUISHER aFIRECRACKER aFIREWORK: bSPARKLER aFIREWORKS aFIRST:",
   "bPLACE: cMEDAL bQUARTER: cMOON dSYMBOL dWITH: eFACE bSTRONG: cISOLATE aFISH bCAKE: cWITH:",
   "dSWIRL: eDESIGN aFISHEYE aFISHING: bPOLE: cAND: dFISH aFISTED: bHAND: cSIGN aFIVE: bDOT: cMARK",
   "cPUNCTUATION aFLAG: bIN: cHOLE aFLAMINGO aFLAT: bSHOE aFLATBREAD aFLATNESS aFLEUR-DE-LIS",
   "aFLEXED: bBICEPS aFLOPPY: bDISK aFLORAL: bHEART aFLOWER bPLAYING: cCARDS bPUNCTUATION: cMARK",
   "aFLUSHED: bFACE aFLY aFLYING: bDISC bENVELOPE bSAUCER aFOG aFOGGY aFOLDER aFONDUE aFOOT",
   "aFOOTPRINTS aFOR: bALL aFORCES aFORK: bAND: cKNIFE dWITH: ePLATE aFORKED: bPARAGRAPHOS",
   "aFORKING aFORM: bFEED aFORTUNE: bCOOKIE aFOUNTAIN aFOUR: bBALLOON-SPOKED: cASTERISK",
   "bCLUB-SPOKED: cASTERISK bCORNER: cARROWS: dCIRCLING: eANTICLOCKWISE bDOT: cMARK cPUNCTUATION",
   "bLEAF: cCLOVER bPOINTED: cBLACK: dSTAR bTEARDROP-SPOKED: cASTERISK aFOUR-PER-EM: bSPACE",
   "aFOURTH: bROOT aFOX: bFACE aFRACTION: bNUMERATOR: cONE bSLASH aFRAME: bWITH: cAN: dX cPICTURE",
   "cTILES aFREEZING: bFACE aFRENCH: bFRANC: cSIGN bFRIES aFRIED: bSHRIMP aFROG: bFACE",
   "aFRONT-FACING: bBABY: cCHICK aFRONT-TILTED: bSHADOWED: cWHITE: dRIGHTWARDS: eARROW aFROWN",
   "aFROWNING: bFACE: cWITH: dOPEN: eMOUTH aFS aFSI aFUEL: bPUMP aFULL: bBLOCK bMOON: cSYMBOL",
   "cWITH: dFACE bOUTER: cJOIN bSTOP aFULLWIDTH: bAMPERSAND bAPOSTROPHE bASTERISK bBROKEN: cBAR",
   "bCENT: cSIGN bCIRCUMFLEX: cACCENT bCOLON bCOMMA bCOMMERCIAL: cAT bDIGIT: cEIGHT cFIVE cFOUR",
   "cNINE cONE cSEVEN cSIX cTHREE cTWO cZERO bDOLLAR: cSIGN bEQUALS: cSIGN bEXCLAMATION: cMARK",
   "bFULL: cSTOP bGRAVE: cACCENT bGREATER-THAN: cSIGN bHYPHEN-MINUS bLATIN: cCAPITAL: dLETTER: eA",
   "eB eC eD eE eF eG eH eI eJ eK eL eM eN eO eP eQ eR eS eT eU eV eW eX eY eZ cSMALL: dLETTER: eA",
   "eB eC eD eE eF eG eH eI eJ eK eL eM eN eO eP eQ eR eS eT eU eV eW eX eY eZ bLEFT: cCURLY:",
   "dBRACKET cPARENTHESIS cSQUARE: dBRACKET cWHITE: dPARENTHESIS bLESS-THAN: cSIGN bLOW: cLINE",
   "bMACRON bNOT: cSIGN bNUMBER: cSIGN bPERCENT: cSIGN bPLUS: cSIGN bPOUND: cSIGN bQUESTION: cMARK",
   "bQUOTATION: cMARK bREVERSE: cSOLIDUS bRIGHT: cCURLY: dBRACKET cPARENTHESIS cSQUARE: dBRACKET",
   "cWHITE: dPARENTHESIS bSEMICOLON bSOLIDUS bTILDE bVERTICAL: cLINE bWON: cSIGN bYEN: cSIGN",
   "aFUNCTION: bAPPLICATION aFUNERAL: bURN aFUSE aFVS1 aFVS2 aFVS3 aFVS4 aGAME: bDIE aGARLIC aGEAR",
   "bWITH: cHANDLES bWITHOUT: cHUB aGEM: bSTONE aGEMINI aGENIE aGEOMETRIC: bPROPORTION",
   "aGEOMETRICALLY: bEQUAL: cTO bEQUIVALENT: cTO aGEORGIAN: bCAPITAL: cLETTER: dAEN dAN dBAN dCAN",
   "dCHAR dCHIN dCIL dDON dEN dGAN dGHAN dHAE dHAR dHE dHIE dHOE dIN dJHAN dJIL dKAN dKHAR dLAS",
   "dMAN dNAR dON dPAR dPHAR dQAR dRAE dSAN dSHIN dTAN dTAR dUN dVIN dWE dXAN dYN dZEN dZHAR",
   "bLETTER: cAEN cAIN cAN cBAN cCAN cCHAR cCHIN cCIL cDON cELIFI cEN cFI cGAN cGHAN cHAE cHAR",
   "cHARD: dSIGN cHE cHIE cHOE cIN cJHAN cJIL cKAN cKHAR cLABIAL: dSIGN cLAS cMAN cNAR cON cPAR",
   "cPHAR cQAR cRAE cSAN cSHIN cTAN cTAR cTURNED: dGAN cUN cVIN cWE cXAN cYN cZEN cZHAR bMTAVRULI:",
   "cCAPITAL: dLETTER: eAEN eAIN eAN eBAN eCAN eCHAR eCHIN eCIL eDON eELIFI eEN eFI eGAN eGHAN",
   "eHAE eHAR eHARD: fSIGN eHE eHIE eHOE eIN eJHAN eJIL eKAN eKHAR eLABIAL: fSIGN eLAS eMAN eNAR",
   "eON ePAR ePHAR eQAR eRAE eSAN eSHIN eTAN eTAR eTURNED: fGAN eUN eVIN eWE eXAN eYN eZEN eZHAR",
   "bPARAGRAPH: cSEPARATOR bSMALL: cLETTER: dAEN dAN dBAN dCAN dCHAR dCHIN dCIL dDON dEN dGAN",
   "dGHAN dHAE dHAR dHE dHIE dHOE dIN dJHAN dJIL dKAN dKHAR dLAS dMAN dNAR dON dPAR dPHAR dQAR",
   "dRAE dSAN dSHIN dTAN dTAR dUN dVIN dWE dXAN dYN dZEN dZHAR aGERMAN: bPENNY: cSIGN aGETA: bMARK",
   "aGHOST aGIMEL: bSYMBOL aGIRAFFE: bFACE aGIRL aGIRLS: bSYMBOL aGLAGOLITIC: bCAPITAL: cLETTER:",
   "dAZU dBIG: eYUS dBUKY dCAUDATE: eCHRIVI dCHRIVI dDJERVI dDOBRO dDZELO dFITA dFRITU dGLAGOLI",
   "dHERU dI dINITIAL: eIZHE dIOTATED: eBIG: fYUS eSMALL: fYUS dIZHE dIZHITSA dKAKO dLATINATE:",
   "eMYSLITE dLJUDIJE dMYSLITE dNASHI dONU dOTU dPE dPOKOJI dRITSI dSHA dSHTA dSHTAPIC dSLOVO",
   "dSMALL: eYUS fWITH: gTAIL dSPIDERY: eHA dTROKUTASTI: eA dTSI dTVRIDO dUKU dVEDE dYATI dYERI",
   "dYERU dYESTU dYO dYU dZEMLJA dZHIVETE bSMALL: cLETTER: dAZU dBIG: eYUS dBUKY dCAUDATE: eCHRIVI",
   "dCHRIVI dDJERVI dDOBRO dDZELO dFITA dFRITU dGLAGOLI dHERU dI dINITIAL: eIZHE dIOTATED: eBIG:",
   "fYUS eSMALL: fYUS dIZHE dIZHITSA dKAKO dLATINATE: eMYSLITE dLJUDIJE dMYSLITE dNASHI dONU dOTU",
   "dPE dPOKOJI dRITSI dSHA dSHTA dSHTAPIC dSLOVO dSMALL: eYUS fWITH: gTAIL dSPIDERY: eHA",
   "dTROKUTASTI: eA dTSI dTVRIDO dUKU dVEDE dYATI dYERI dYERU dYESTU dYO dYU dZEMLJA dZHIVETE",
   "aGLASS: bOF: cMILK aGLEICH: bSTARK aGLOBE: bWITH: cMERIDIANS aGLOVES aGLOWING: bSTAR aGOAL:",
   "bNET aGOAT aGOGGLES aGOLFER aGORILLA aGOTHIC: bLETTER: cAHSA cAIHVUS cBAIRKAN cDAGS cEIS",
   "cFAIHU cGIBA cHAGL cHWAIR cIGGWS cIUJA cJER cKUSMA cLAGUS cMANNA cNAUTHS cNINE: dHUNDRED",
   "cNINETY cOTHAL cPAIRTHRA cQAIRTHRA cRAIDA cSAUIL cTEIWS cTHIUTH cURUS cWINJA aGRADUATION: bCAP",
   "aGRANTHA: bAU: cLENGTH: dMARK bLETTER: cA cAA cAI cAU cBA cBHA cCA cCHA cDA cDDA cDDHA cDHA",
   "cEE cGA cGHA cHA cI cII cJA cJHA cKA cKHA cLA cLLA cMA cNA cNGA cNNA cNYA cOO cPA cPHA cRA cSA",
   "cSHA cSSA cTA cTHA cTTA cTTHA cU cUU cVA cVEDIC: dANUSVARA dDOUBLE: eANUSVARA cVOCALIC: dL dLL",
   "dR dRR cYA bOM bSIGN: cANUSVARA cAVAGRAHA cCANDRABINDU cCOMBINING: dANUSVARA: eABOVE cNUKTA",
   "cPLUTA cVIRAMA cVISARGA bVOWEL: cSIGN: dAA dAI dAU dEE dI dII dOO dU dUU dVOCALIC: eL eLL eR",
   "eRR aGRAPES aGRAVE: bACCENT aGREATER-THAN: bABOVE: cDOUBLE-LINE: dEQUAL: eABOVE: fLESS-THAN",
   "cLESS-THAN: dABOVE: eDOUBLE-LINE: fEQUAL cRIGHTWARDS: dARROW cSIMILAR: dABOVE: eLESS-THAN dOR:",
   "eEQUAL cSLANTED: dEQUAL: eABOVE: fLESS-THAN: gABOVE: hSLANTED: iEQUAL bAND: cNOT: dAPPROXIMATE",
   "cSINGLE-LINE: dNOT: eEQUAL: fTO bBESIDE: cLESS-THAN bBUT: cNOT: dEQUAL: eTO dEQUIVALENT: eTO",
   "bCLOSED: cBY: dCURVE eABOVE: fSLANTED: gEQUAL bEQUAL: cTO: dOR: eLESS-THAN bOR: cAPPROXIMATE",
   "cEQUAL: dTO cEQUIVALENT: dTO cLESS-THAN cSLANTED: dEQUAL: eTO fWITH: gDOT: hABOVE iLEFT",
   "hINSIDE bOVER: cEQUAL: dTO bOVERLAPPING: cLESS-THAN bSIGN bWITH: cCIRCLE: dINSIDE cDOT",
   "cQUESTION: dMARK: eABOVE aGREEK: bACROPHONIC: cATTIC: dFIFTY eSTATERS eTALENTS eTHOUSAND",
   "fSTATERS dFIVE eHUNDRED fSTATERS fTALENTS eSTATERS eTALENTS eTHOUSAND fTALENTS dONE: eDRACHMA",
   "eHALF eHUNDRED: fSTATERS fTALENTS eQUARTER eTHOUSAND: fSTATERS fTALENTS dTEN: eMNAS eSTATERS",
   "eTALENTS eTHOUSAND: fSTATERS cCARYSTIAN: dFIVE: eHUNDRED cCYRENAIC: dTWO: eDRACHMAS cDELPHIC:",
   "dFIVE: eMNAS cEPIDAUREAN: dFIVE: eHUNDRED dTWO eDRACHMAS cHERAEUM: dONE: ePLETHRON",
   "cHERMIONIAN: dFIFTY dONE dTEN cMESSENIAN: dTEN cNAXIAN: dFIVE: eHUNDRED cSTRATIAN: dFIFTY:",
   "eMNAS cTHESPIAN: dFIFTY dFIVE: eHUNDRED eTHOUSAND dONE eHUNDRED eTHOUSAND dTEN dTHIRTY dTHREE:",
   "eHUNDRED dTWO cTROEZENIAN: dFIFTY eALTERNATE: fFORM dFIVE eHUNDRED dTEN eALTERNATE: fFORM",
   "bANO: cTELEIA bAROURA: cSIGN bARTABE: cSIGN bBETA: cSYMBOL bCAPITAL: cDOTTED: dLUNATE: eSIGMA:",
   "fSYMBOL cKAI: dSYMBOL cLETTER: dALPHA eWITH: fDASIA gAND: hOXIA iAND: jPROSGEGRAMMENI",
   "hPERISPOMENI iAND: jPROSGEGRAMMENI hPROSGEGRAMMENI hVARIA iAND: jPROSGEGRAMMENI fMACRON fOXIA",
   "fPROSGEGRAMMENI fPSILI gAND: hOXIA iAND: jPROSGEGRAMMENI hPERISPOMENI iAND: jPROSGEGRAMMENI",
   "hPROSGEGRAMMENI hVARIA iAND: jPROSGEGRAMMENI fTONOS fVARIA fVRACHY dARCHAIC: eSAMPI dBETA dCHI",
   "dDELTA dEPSILON eWITH: fDASIA gAND: hOXIA hVARIA fOXIA fPSILI gAND: hOXIA hVARIA fTONOS fVARIA",
   "dETA eWITH: fDASIA gAND: hOXIA iAND: jPROSGEGRAMMENI hPERISPOMENI iAND: jPROSGEGRAMMENI",
   "hPROSGEGRAMMENI hVARIA iAND: jPROSGEGRAMMENI fOXIA fPROSGEGRAMMENI fPSILI gAND: hOXIA iAND:",
   "jPROSGEGRAMMENI hPERISPOMENI iAND: jPROSGEGRAMMENI hPROSGEGRAMMENI hVARIA iAND:",
   "jPROSGEGRAMMENI fTONOS fVARIA dGAMMA dHETA dIOTA eWITH: fDASIA gAND: hOXIA hPERISPOMENI hVARIA",
   "fDIALYTIKA fMACRON fOXIA fPSILI gAND: hOXIA hPERISPOMENI hVARIA fTONOS fVARIA fVRACHY dKAPPA",
   "dLAMDA dMU dNU dOMEGA eWITH: fDASIA gAND: hOXIA iAND: jPROSGEGRAMMENI hPERISPOMENI iAND:",
   "jPROSGEGRAMMENI hPROSGEGRAMMENI hVARIA iAND: jPROSGEGRAMMENI fOXIA fPROSGEGRAMMENI fPSILI",
   "gAND: hOXIA iAND: jPROSGEGRAMMENI hPERISPOMENI iAND: jPROSGEGRAMMENI hPROSGEGRAMMENI hVARIA",
   "iAND: jPROSGEGRAMMENI fTONOS fVARIA dOMICRON eWITH: fDASIA gAND: hOXIA hVARIA fOXIA fPSILI",
   "gAND: hOXIA hVARIA fTONOS fVARIA dPAMPHYLIAN: eDIGAMMA dPHI dPI dPSI dRHO eWITH: fDASIA dSAN",
   "dSHO dSIGMA dTAU dTHETA dUPSILON eWITH: fDASIA gAND: hOXIA hPERISPOMENI hVARIA fDIALYTIKA",
   "fMACRON fOXIA fTONOS fVARIA fVRACHY dXI dYOT dZETA cLUNATE: dSIGMA: eSYMBOL cREVERSED:",
   "dDOTTED: eLUNATE: fSIGMA: gSYMBOL dLUNATE: eSIGMA: fSYMBOL cTHETA: dSYMBOL bDASIA cAND: dOXIA",
   "dPERISPOMENI dVARIA bDIALYTIKA: cAND: dOXIA dPERISPOMENI dVARIA cTONOS bDRACHMA: cSIGN bFIVE:",
   "cOBOLS: dSIGN bFOUR: cOBOLS: dSIGN bGRAMMA: cSIGN bINDICTION: cSIGN bINSTRUMENTAL: cNOTATION:",
   "dSYMBOL-1 dSYMBOL-11 dSYMBOL-12 dSYMBOL-13 dSYMBOL-14 dSYMBOL-17 dSYMBOL-18 dSYMBOL-19",
   "dSYMBOL-2 dSYMBOL-23 dSYMBOL-24 dSYMBOL-25 dSYMBOL-26 dSYMBOL-27 dSYMBOL-29 dSYMBOL-30",
   "dSYMBOL-32 dSYMBOL-36 dSYMBOL-37 dSYMBOL-38 dSYMBOL-39 dSYMBOL-4 dSYMBOL-40 dSYMBOL-42",
   "dSYMBOL-43 dSYMBOL-45 dSYMBOL-47 dSYMBOL-48 dSYMBOL-49 dSYMBOL-5 dSYMBOL-50 dSYMBOL-51",
   "dSYMBOL-52 dSYMBOL-53 dSYMBOL-54 dSYMBOL-7 dSYMBOL-8 bKAI: cSYMBOL bKAPPA: cSYMBOL bKORONIS",
   "bKYATHOS: cBASE: dSIGN bLETTER: cARCHAIC: dKOPPA cDIGAMMA cKOPPA cSAMPI cSMALL: dCAPITAL:",
   "eGAMMA eLAMDA eOMEGA ePI ePSI eRHO cSTIGMA cYOT bLITRA: cSIGN bLOWER: cNUMERAL: dSIGN bLUNATE:",
   "cEPSILON: dSYMBOL cSIGMA: dSYMBOL bMETRETES: cSIGN bMUSICAL: cLEIMMA bNUMERAL: cSIGN bOBOL:",
   "cSIGN bONE: cHALF: dSIGN eALTERNATE: fFORM cQUARTER: dSIGN bOUNKIA: cSIGN bOXIA bPERISPOMENI",
   "bPHI: cSYMBOL bPI: cSYMBOL bPROSGEGRAMMENI bPSILI cAND: dOXIA dPERISPOMENI dVARIA bQUESTION:",
   "cMARK bREVERSED: cLUNATE: dEPSILON: eSYMBOL bRHO: cSYMBOL cWITH: dSTROKE: eSYMBOL bSINUSOID:",
   "cSIGN bSMALL: cDOTTED: dLUNATE: eSIGMA: fSYMBOL cLETTER: dALPHA eWITH: fDASIA gAND: hOXIA",
   "iAND: jYPOGEGRAMMENI hPERISPOMENI iAND: jYPOGEGRAMMENI hVARIA iAND: jYPOGEGRAMMENI",
   "hYPOGEGRAMMENI fMACRON fOXIA gAND: hYPOGEGRAMMENI fPERISPOMENI gAND: hYPOGEGRAMMENI fPSILI",
   "gAND: hOXIA iAND: jYPOGEGRAMMENI hPERISPOMENI iAND: jYPOGEGRAMMENI hVARIA iAND: jYPOGEGRAMMENI",
   "hYPOGEGRAMMENI fTONOS fVARIA gAND: hYPOGEGRAMMENI fVRACHY fYPOGEGRAMMENI dARCHAIC: eKOPPA",
   "eSAMPI dBETA dCHI dDELTA dDIGAMMA dEPSILON eWITH: fDASIA gAND: hOXIA hVARIA fOXIA fPSILI gAND:",
   "hOXIA hVARIA fTONOS fVARIA dETA eWITH: fDASIA gAND: hOXIA iAND: jYPOGEGRAMMENI hPERISPOMENI",
   "iAND: jYPOGEGRAMMENI hVARIA iAND: jYPOGEGRAMMENI hYPOGEGRAMMENI fOXIA gAND: hYPOGEGRAMMENI",
   "fPERISPOMENI gAND: hYPOGEGRAMMENI fPSILI gAND: hOXIA iAND: jYPOGEGRAMMENI hPERISPOMENI iAND:",
   "jYPOGEGRAMMENI hVARIA iAND: jYPOGEGRAMMENI hYPOGEGRAMMENI fTONOS fVARIA gAND: hYPOGEGRAMMENI",
   "fYPOGEGRAMMENI dFINAL: eSIGMA dGAMMA dHETA dIOTA eWITH: fDASIA gAND: hOXIA hPERISPOMENI hVARIA",
   "fDIALYTIKA gAND: hOXIA hPERISPOMENI hTONOS hVARIA fMACRON fOXIA fPERISPOMENI fPSILI gAND:",
   "hOXIA hPERISPOMENI hVARIA fTONOS fVARIA fVRACHY dKAPPA dKOPPA dLAMDA dMU dNU dOMEGA eWITH:",
   "fDASIA gAND: hOXIA iAND: jYPOGEGRAMMENI hPERISPOMENI iAND: jYPOGEGRAMMENI hVARIA iAND:",
   "jYPOGEGRAMMENI hYPOGEGRAMMENI fOXIA gAND: hYPOGEGRAMMENI fPERISPOMENI gAND: hYPOGEGRAMMENI",
   "fPSILI gAND: hOXIA iAND: jYPOGEGRAMMENI hPERISPOMENI iAND: jYPOGEGRAMMENI hVARIA iAND:",
   "jYPOGEGRAMMENI hYPOGEGRAMMENI fTONOS fVARIA gAND: hYPOGEGRAMMENI fYPOGEGRAMMENI dOMICRON",
   "eWITH: fDASIA gAND: hOXIA hVARIA fOXIA fPSILI gAND: hOXIA hVARIA fTONOS fVARIA dPAMPHYLIAN:",
   "eDIGAMMA dPHI dPI dPSI dRHO eWITH: fDASIA fPSILI dSAMPI dSAN dSHO dSIGMA dSTIGMA dTAU dTHETA",
   "dUPSILON eWITH: fDASIA gAND: hOXIA hPERISPOMENI hVARIA fDIALYTIKA gAND: hOXIA hPERISPOMENI",
   "hTONOS hVARIA fMACRON fOXIA fPERISPOMENI fPSILI gAND: hOXIA hPERISPOMENI hVARIA fTONOS fVARIA",
   "fVRACHY dXI dZETA cREVERSED: dDOTTED: eLUNATE: fSIGMA: gSYMBOL dLUNATE: eSIGMA: fSYMBOL",
   "bSUBSCRIPT: cSMALL: dLETTER: eBETA eCHI eGAMMA ePHI eRHO bSYMBOL: cTAU: dRHO bTALENT: cSIGN",
   "bTHETA: cSYMBOL bTHREE: cOBOLS: dSIGN cQUARTERS: dSIGN bTONOS bTRYBLION: cBASE: dSIGN bTWO:",
   "cOBOLS: dSIGN cTHIRDS: dSIGN bUPSILON: cWITH: dACUTE: eAND: fHOOK: gSYMBOL dDIAERESIS: eAND:",
   "fHOOK: gSYMBOL dHOOK: eSYMBOL bVARIA bVOCAL: cNOTATION: dSYMBOL-1 dSYMBOL-10 dSYMBOL-11",
   "dSYMBOL-12 dSYMBOL-13 dSYMBOL-14 dSYMBOL-15 dSYMBOL-16 dSYMBOL-17 dSYMBOL-18 dSYMBOL-19",
   "dSYMBOL-2 dSYMBOL-20 dSYMBOL-21 dSYMBOL-22 dSYMBOL-23 dSYMBOL-24 dSYMBOL-3 dSYMBOL-4 dSYMBOL-5",
   "dSYMBOL-50 dSYMBOL-51 dSYMBOL-52 dSYMBOL-53 dSYMBOL-54 dSYMBOL-6 dSYMBOL-7 dSYMBOL-8 dSYMBOL-9",
   "bXESTES: cSIGN bYEAR: cSIGN bYPOGEGRAMMENI bZERO: cSIGN aGREEN: bAPPLE bBOOK bHEART bSALAD",
   "aGRIMACING: bFACE aGRINNING: bCAT: cFACE: dWITH: eSMILING: fEYES bFACE cWITH: dONE: eLARGE:",
   "fAND: gONE: hSMALL: iEYE dSMILING: eEYES dSTAR: eEYES aGROUP: bMARK bSEPARATOR aGROWING:",
   "bHEART aGS aGUARANI: bSIGN aGUARDSMAN aGUIDE: bDOG aGUITAR aGUJARATI: bABBREVIATION: cSIGN",
   "bDIGIT: cEIGHT cFIVE cFOUR cNINE cONE cSEVEN cSIX cTHREE cTWO cZERO bLETTER: cA cAA cAI cAU",
   "cBA cBHA cCA cCHA cDA cDDA cDDHA cDHA cE cGA cGHA cHA cI cII cJA cJHA cKA cKHA cLA cLLA cMA",
   "cNA cNGA cNNA cNYA cO cPA cPHA cRA cSA cSHA cSSA cTA cTHA cTTA cTTHA cU cUU cVA cVOCALIC: dL",
   "dLL dR dRR cYA cZHA bOM bRUPEE: cSIGN bSIGN: cANUSVARA cAVAGRAHA cCANDRABINDU cCIRCLE: dNUKTA:",
   "eABOVE cMADDAH cNUKTA cSHADDA cSUKUN cTHREE-DOT: dNUKTA: eABOVE cTWO-CIRCLE: dNUKTA: eABOVE",
   "cVIRAMA cVISARGA bVOWEL: cCANDRA: dE dO cSIGN: dAA dAI dAU dCANDRA: eE eO dE dI dII dO dU dUU",
   "dVOCALIC: eL eLL eR eRR aGUNJALA: bGONDI: cDIGIT: dEIGHT dFIVE dFOUR dNINE dONE dSEVEN dSIX",
   "dTHREE dTWO dZERO cLETTER: dA dAA dAI dAU dBA dBHA dCA dCHA dDA dDDA dDDHA dDHA dEE dGA dGHA",
   "dHA dI dII dJA dJHA dKA dKHA dLA dLLA dMA dNA dNGA dOO dPA dPHA dRA dSA dTA dTHA dTTA dTTHA dU",
   "dUU dVA dYA cOM cSIGN: dANUSVARA dVISARGA cVIRAMA cVOWEL: dSIGN: eAA eAI eAU eEE eI eII eOO eU",
   "eUU aGURMUKHI: bABBREVIATION: cSIGN bADDAK bDIGIT: cEIGHT cFIVE cFOUR cNINE cONE cSEVEN cSIX",
   "cTHREE cTWO cZERO bEK: cONKAR bIRI bLETTER: cA cAA cAI cAU cBA cBHA cCA cCHA cDA cDDA cDDHA",
   "cDHA cEE cFA cGA cGHA cGHHA cHA cI cII cJA cJHA cKA cKHA cKHHA cLA cLLA cMA cNA cNGA cNNA cNYA",
   "cOO cPA cPHA cRA cRRA cSA cSHA cTA cTHA cTTA cTTHA cU cUU cVA cYA cZA bSIGN: cADAK: dBINDI",
   "cBINDI cNUKTA cUDAAT cVIRAMA cVISARGA cYAKASH bTIPPI bURA bVOWEL: cSIGN: dAA dAI dAU dEE dI",
   "dII dOO dU dUU aHADES aHAIR: bSPACE aHAIRCUT aHALFWIDTH: bBLACK: cSQUARE bDOWNWARDS: cARROW",
   "bFORMS: cLIGHT: dVERTICAL bHANGUL: cFILLER cLETTER: dA dAE dCHIEUCH dCIEUC dE dEO dEU dHIEUH",
   "dI dIEUNG dKHIEUKH dKIYEOK dKIYEOK-SIOS dMIEUM dNIEUN dNIEUN-CIEUC dNIEUN-HIEUH dO dOE",
   "dPHIEUPH dPIEUP dPIEUP-SIOS dRIEUL dRIEUL-HIEUH dRIEUL-KIYEOK dRIEUL-MIEUM dRIEUL-PHIEUPH",
   "dRIEUL-PIEUP dRIEUL-SIOS dRIEUL-THIEUTH dSIOS dSSANGCIEUC dSSANGKIYEOK dSSANGPIEUP dSSANGSIOS",
   "dSSANGTIKEUT dTHIEUTH dTIKEUT dU dWA dWAE dWE dWEO dWI dYA dYAE dYE dYEO dYI dYO dYU",
   "bIDEOGRAPHIC: cCOMMA cFULL: dSTOP bKATAKANA: cLETTER: dA dE dHA dHE dHI dHO dHU dI dKA dKE dKI",
   "dKO dKU dMA dME dMI dMO dMU dN dNA dNE dNI dNO dNU dO dRA dRE dRI dRO dRU dSA dSE dSI dSMALL:",
   "eA eE eI eO eTU eU eYA eYO eYU dSO dSU dTA dTE dTI dTO dTU dU dWA dWO dYA dYO dYU cMIDDLE:",
   "dDOT cSEMI-VOICED: dSOUND: eMARK cVOICED: dSOUND: eMARK bKATAKANA-HIRAGANA: cPROLONGED:",
   "dSOUND: eMARK bLEFT: cCORNER: dBRACKET bLEFTWARDS: cARROW bRIGHT: cCORNER: dBRACKET",
   "bRIGHTWARDS: cARROW bUPWARDS: cARROW bWHITE: cCIRCLE aHAMBURGER aHAMMER bAND: cPICK cSICKLE",
   "cWRENCH aHAMSA aHAMSTER: bFACE aHAND: bWITH: cINDEX: dAND: eMIDDLE: fFINGERS: gCROSSED",
   "dFINGER: eAND: fTHUMB: gCROSSED aHANDBAG aHANDBALL aHANDSHAKE aHANGUL: bCHOSEONG:",
   "cCEONGCHIEUMCHIEUCH cCEONGCHIEUMCIEUC cCEONGCHIEUMSIOS cCEONGCHIEUMSSANGCIEUC",
   "cCEONGCHIEUMSSANGSIOS cCHIEUCH cCHIEUCH-HIEUH cCHIEUCH-KHIEUKH cCHITUEUMCHIEUCH cCHITUEUMCIEUC",
   "cCHITUEUMSIOS cCHITUEUMSSANGCIEUC cCHITUEUMSSANGSIOS cCIEUC cCIEUC-IEUNG cFILLER cHIEUH",
   "cHIEUH-SIOS cIEUNG cIEUNG-CHIEUCH cIEUNG-CIEUC cIEUNG-HIEUH cIEUNG-KIYEOK cIEUNG-MIEUM",
   "cIEUNG-PANSIOS cIEUNG-PHIEUPH cIEUNG-PIEUP cIEUNG-RIEUL cIEUNG-SIOS cIEUNG-THIEUTH",
   "cIEUNG-TIKEUT cKAPYEOUNMIEUM cKAPYEOUNPHIEUPH cKAPYEOUNPIEUP cKAPYEOUNRIEUL",
   "cKAPYEOUNSSANGPIEUP cKHIEUKH cKIYEOK cKIYEOK-TIKEUT cMIEUM cMIEUM-KIYEOK cMIEUM-PIEUP",
   "cMIEUM-SIOS cMIEUM-TIKEUT cNIEUN cNIEUN-CIEUC cNIEUN-HIEUH cNIEUN-KIYEOK cNIEUN-PIEUP",
   "cNIEUN-SIOS cNIEUN-TIKEUT cPANSIOS cPHIEUPH cPHIEUPH-HIEUH cPHIEUPH-PIEUP cPIEUP",
   "cPIEUP-CHIEUCH cPIEUP-CIEUC cPIEUP-HIEUH cPIEUP-KHIEUKH cPIEUP-KIYEOK cPIEUP-NIEUN",
   "cPIEUP-PHIEUPH cPIEUP-SIOS cPIEUP-SIOS-CIEUC cPIEUP-SIOS-KIYEOK cPIEUP-SIOS-PIEUP",
   "cPIEUP-SIOS-THIEUTH cPIEUP-SIOS-TIKEUT cPIEUP-SSANGSIOS cPIEUP-THIEUTH cPIEUP-TIKEUT cRIEUL",
   "cRIEUL-CIEUC cRIEUL-HIEUH cRIEUL-KAPYEOUNPIEUP cRIEUL-KHIEUKH cRIEUL-KIYEOK cRIEUL-MIEUM",
   "cRIEUL-NIEUN cRIEUL-PIEUP cRIEUL-SIOS cRIEUL-SSANGKIYEOK cRIEUL-SSANGPIEUP cRIEUL-SSANGTIKEUT",
   "cRIEUL-TIKEUT cSIOS cSIOS-CHIEUCH cSIOS-CIEUC cSIOS-HIEUH cSIOS-IEUNG cSIOS-KHIEUKH",
   "cSIOS-KIYEOK cSIOS-MIEUM cSIOS-NIEUN cSIOS-PHIEUPH cSIOS-PIEUP cSIOS-PIEUP-KIYEOK cSIOS-RIEUL",
   "cSIOS-SSANGSIOS cSIOS-THIEUTH cSIOS-TIKEUT cSSANGCIEUC cSSANGCIEUC-HIEUH cSSANGHIEUH",
   "cSSANGIEUNG cSSANGKIYEOK cSSANGNIEUN cSSANGPIEUP cSSANGRIEUL cSSANGSIOS cSSANGSIOS-PIEUP",
   "cSSANGTHIEUTH cSSANGTIKEUT cSSANGYEORINHIEUH cTHIEUTH cTIKEUT cTIKEUT-CIEUC cTIKEUT-KIYEOK",
   "cTIKEUT-MIEUM cTIKEUT-PIEUP cTIKEUT-RIEUL cTIKEUT-SIOS cYEORINHIEUH cYESIEUNG bDOUBLE: cDOT:",
   "dTONE: eMARK bFILLER bJONGSEONG: cCHIEUCH cCIEUC cCIEUC-PIEUP cCIEUC-SSANGPIEUP cHIEUH",
   "cHIEUH-MIEUM cHIEUH-NIEUN cHIEUH-PIEUP cHIEUH-RIEUL cIEUNG cIEUNG-KHIEUKH cIEUNG-KIYEOK",
   "cIEUNG-SSANGKIYEOK cKAPYEOUNMIEUM cKAPYEOUNPHIEUPH cKAPYEOUNPIEUP cKAPYEOUNRIEUL cKHIEUKH",
   "cKIYEOK cKIYEOK-CHIEUCH cKIYEOK-HIEUH cKIYEOK-KHIEUKH cKIYEOK-NIEUN cKIYEOK-PIEUP",
   "cKIYEOK-RIEUL cKIYEOK-SIOS cKIYEOK-SIOS-KIYEOK cMIEUM cMIEUM-CHIEUCH cMIEUM-CIEUC cMIEUM-HIEUH",
   "cMIEUM-KIYEOK cMIEUM-NIEUN cMIEUM-PANSIOS cMIEUM-PIEUP cMIEUM-PIEUP-SIOS cMIEUM-RIEUL",
   "cMIEUM-SIOS cMIEUM-SSANGNIEUN cMIEUM-SSANGSIOS cNIEUN cNIEUN-CHIEUCH cNIEUN-CIEUC cNIEUN-HIEUH",
   "cNIEUN-KIYEOK cNIEUN-PANSIOS cNIEUN-RIEUL cNIEUN-SIOS cNIEUN-THIEUTH cNIEUN-TIKEUT cPANSIOS",
   "cPANSIOS-KAPYEOUNPIEUP cPANSIOS-PIEUP cPHIEUPH cPHIEUPH-PIEUP cPHIEUPH-SIOS cPHIEUPH-THIEUTH",
   "cPIEUP cPIEUP-CHIEUCH cPIEUP-CIEUC cPIEUP-HIEUH cPIEUP-MIEUM cPIEUP-PHIEUPH cPIEUP-RIEUL",
   "cPIEUP-RIEUL-PHIEUPH cPIEUP-SIOS cPIEUP-SIOS-TIKEUT cPIEUP-TIKEUT cRIEUL cRIEUL-HIEUH",
   "cRIEUL-KAPYEOUNPIEUP cRIEUL-KHIEUKH cRIEUL-KIYEOK cRIEUL-KIYEOK-HIEUH cRIEUL-KIYEOK-SIOS",
   "cRIEUL-MIEUM cRIEUL-MIEUM-HIEUH cRIEUL-MIEUM-KIYEOK cRIEUL-MIEUM-SIOS cRIEUL-NIEUN",
   "cRIEUL-PANSIOS cRIEUL-PHIEUPH cRIEUL-PIEUP cRIEUL-PIEUP-HIEUH cRIEUL-PIEUP-PHIEUPH",
   "cRIEUL-PIEUP-SIOS cRIEUL-PIEUP-TIKEUT cRIEUL-SIOS cRIEUL-SSANGKIYEOK cRIEUL-SSANGSIOS",
   "cRIEUL-THIEUTH cRIEUL-TIKEUT cRIEUL-TIKEUT-HIEUH cRIEUL-YEORINHIEUH cRIEUL-YEORINHIEUH-HIEUH",
   "cRIEUL-YESIEUNG cSIOS cSIOS-CHIEUCH cSIOS-CIEUC cSIOS-HIEUH cSIOS-KAPYEOUNPIEUP cSIOS-KIYEOK",
   "cSIOS-MIEUM cSIOS-PANSIOS cSIOS-PIEUP cSIOS-RIEUL cSIOS-THIEUTH cSIOS-TIKEUT cSSANGCIEUC",
   "cSSANGIEUNG cSSANGKIYEOK cSSANGMIEUM cSSANGNIEUN cSSANGPIEUP cSSANGRIEUL cSSANGRIEUL-KHIEUKH",
   "cSSANGSIOS cSSANGSIOS-KIYEOK cSSANGSIOS-TIKEUT cSSANGTIKEUT cSSANGTIKEUT-PIEUP cSSANGYESIEUNG",
   "cTHIEUTH cTIKEUT cTIKEUT-CHIEUCH cTIKEUT-CIEUC cTIKEUT-KIYEOK cTIKEUT-PIEUP cTIKEUT-RIEUL",
   "cTIKEUT-SIOS cTIKEUT-SIOS-KIYEOK cTIKEUT-THIEUTH cYEORINHIEUH cYESIEUNG cYESIEUNG-HIEUH",
   "cYESIEUNG-KHIEUKH cYESIEUNG-KIYEOK cYESIEUNG-MIEUM cYESIEUNG-PANSIOS cYESIEUNG-SIOS",
   "cYESIEUNG-SSANGKIYEOK bJUNGSEONG: cA cA-EU cA-O cA-U cAE cARAEA cARAEA-A cARAEA-E cARAEA-EO",
   "cARAEA-I cARAEA-U cE cEO cEO-EU cEO-O cEO-U cEU cEU-A cEU-E cEU-EO cEU-EU cEU-O cEU-U cFILLER",
   "cI cI-A cI-ARAEA cI-EU cI-I cI-O cI-O-I cI-U cI-YA cI-YA-O cI-YAE cI-YE cI-YEO cI-YO cI-YU cO",
   "cO-E cO-EO cO-O cO-O-I cO-U cO-YA cO-YAE cO-YE cO-YEO cOE cSSANGARAEA cU cU-A cU-AE cU-EO-EU",
   "cU-I-I cU-U cU-YE cU-YEO cWA cWAE cWE cWEO cWI cYA cYA-O cYA-U cYA-YO cYAE cYE cYEO cYEO-O",
   "cYEO-U cYEO-YA cYI cYI-U cYO cYO-A cYO-AE cYO-EO cYO-I cYO-O cYO-YA cYO-YAE cYO-YEO cYU cYU-A",
   "cYU-AE cYU-E cYU-EO cYU-I cYU-O cYU-U cYU-YE cYU-YEO bLETTER: cA cAE cARAEA cARAEAE cCHIEUCH",
   "cCIEUC cE cEO cEU cHIEUH cI cIEUNG cKAPYEOUNMIEUM cKAPYEOUNPHIEUPH cKAPYEOUNPIEUP",
   "cKAPYEOUNSSANGPIEUP cKHIEUKH cKIYEOK cKIYEOK-SIOS cMIEUM cMIEUM-PANSIOS cMIEUM-PIEUP",
   "cMIEUM-SIOS cNIEUN cNIEUN-CIEUC cNIEUN-HIEUH cNIEUN-PANSIOS cNIEUN-SIOS cNIEUN-TIKEUT cO cOE",
   "cPANSIOS cPHIEUPH cPIEUP cPIEUP-CIEUC cPIEUP-KIYEOK cPIEUP-SIOS cPIEUP-SIOS-KIYEOK",
   "cPIEUP-SIOS-TIKEUT cPIEUP-THIEUTH cPIEUP-TIKEUT cRIEUL cRIEUL-HIEUH cRIEUL-KIYEOK",
   "cRIEUL-KIYEOK-SIOS cRIEUL-MIEUM cRIEUL-PANSIOS cRIEUL-PHIEUPH cRIEUL-PIEUP cRIEUL-PIEUP-SIOS",
   "cRIEUL-SIOS cRIEUL-THIEUTH cRIEUL-TIKEUT cRIEUL-YEORINHIEUH cSIOS cSIOS-CIEUC cSIOS-KIYEOK",
   "cSIOS-NIEUN cSIOS-PIEUP cSIOS-TIKEUT cSSANGCIEUC cSSANGHIEUH cSSANGIEUNG cSSANGKIYEOK",
   "cSSANGNIEUN cSSANGPIEUP cSSANGSIOS cSSANGTIKEUT cTHIEUTH cTIKEUT cU cWA cWAE cWE cWEO cWI cYA",
   "cYAE cYE cYEO cYEORINHIEUH cYESIEUNG cYESIEUNG-PANSIOS cYESIEUNG-SIOS cYI cYO cYO-I cYO-YA",
   "cYO-YAE cYU cYU-I cYU-YE cYU-YEO bSINGLE: cDOT: dTONE: eMARK aHANGZHOU: bNUMERAL: cEIGHT cFIVE",
   "cFOUR cNINE cONE cSEVEN cSIX cTEN cTHIRTY cTHREE cTWENTY cTWO aHANIFI: bROHINGYA: cDIGIT:",
   "dEIGHT dFIVE dFOUR dNINE dONE dSEVEN dSIX dTHREE dTWO dZERO cLETTER: dA dBA dCA dDA dDDA dFA",
   "dGA dHA dJA dKA dKHA dKINNA: eWA eYA dLA dMA dNA dNGA dNYA dPA dRA dRRA dSA dSHA dTA dTTA dVA",
   "dWA dYA dZA cMARK: dNA: eKHONNA dSAKIN cSIGN: dHARBAHAY dTAHALA dTANA dTASSI cVOWEL: dA dE dI",
   "dO dU aHANUNOO: bLETTER: cA cBA cDA cGA cHA cI cKA cLA cMA cNA cNGA cPA cRA cSA cTA cU cWA cYA",
   "bSIGN: cPAMUDPOD bVOWEL: cSIGN: dI dU aHAPPY: bPERSON: cRAISING: dONE: eHAND aHARD: bDISK",
   "aHATCHING: bCHICK aHATRAN: bLETTER: cALEPH cAYN cBETH cDALETH-RESH cGIMEL cHE cHETH cKAPH",
   "cLAMEDH cMEM cNUN cPE cQOPH cSADHE cSAMEKH cSHIN cTAW cTETH cWAW cYODH cZAYN bNUMBER: cFIVE",
   "cONE dHUNDRED cTEN cTWENTY aHEADPHONE aHEADSTONE bGRAVEYARD: cSYMBOL aHEAR-NO-EVIL: bMONKEY",
   "aHEART: bDECORATION bHANDS bWITH: cARROW cRIBBON cTIP: dON: eTHE: fLEFT aHEAVY: bAMPERSAND:",
   "cORNAMENT bARROW: cSHAFT: dWIDTH: eONE fHALF fTHIRD eTWO: fTHIRDS bASTERISK bBALLOT: cX",
   "bBLACK: cCURVED: dDOWNWARDS: eAND: fRIGHTWARDS: gARROW dUPWARDS: eAND: fRIGHTWARDS: gARROW",
   "cHEART bBLACK-FEATHERED: cNORTH: dEAST: eARROW cRIGHTWARDS: dARROW cSOUTH: dEAST: eARROW",
   "bCHECK: cMARK bCHEVRON: cSNOWFLAKE bCIRCLE cWITH: dCIRCLE: eINSIDE dSTROKE: eAND: fTWO: gDOTS:",
   "hABOVE bCIRCLED: cSALTIRE bCONCAVE-POINTED: cBLACK: dRIGHTWARDS: eARROW bDASHED:",
   "cTRIANGLE-HEADED: dRIGHTWARDS: eARROW bDIVISION: cSIGN bDOLLAR: cSIGN bDOUBLE: cCOMMA:",
   "dQUOTATION: eMARK: fORNAMENT cTURNED: dCOMMA: eQUOTATION: fMARK: gORNAMENT bDOWNWARDS: cARROW:",
   "dWITH: eEQUILATERAL: fARROWHEAD eLARGE: fEQUILATERAL: gARROWHEAD bEIGHT: cPOINTED: dBLACK:",
   "eSTAR dPINWHEEL: eSTAR dRECTILINEAR: eBLACK: fSTAR cSPOKED: dASTERISK cTEARDROP-SPOKED:",
   "dPROPELLER: eASTERISK bEQUALS: cSIGN bEXCLAMATION: cMARK: dORNAMENT dSYMBOL bFIVE: cPOINTED:",
   "dBLACK: eSTAR cSPOKED: dASTERISK bFOUR: cBALLOON-SPOKED: dASTERISK bGREEK: cCROSS bHEART:",
   "cEXCLAMATION: dMARK: eORNAMENT bHORIZONTAL: cFILL bINTERROBANG: cORNAMENT bLARGE: cCIRCLE",
   "bLATIN: cCROSS bLEFT-POINTING: cANGLE: dBRACKET: eORNAMENT dQUOTATION: eMARK: fORNAMENT",
   "bLEFTWARDS: cARROW: dWITH: eEQUILATERAL: fARROWHEAD eLARGE: fEQUILATERAL: gARROWHEAD",
   "bLIGATURE: cOPEN: dET: eORNAMENT bLOW: cDOUBLE: dCOMMA: eQUOTATION: fMARK: gORNAMENT cSINGLE:",
   "dCOMMA: eQUOTATION: fMARK: gORNAMENT bLOWER: cRIGHT-SHADOWED: dWHITE: eRIGHTWARDS: fARROW",
   "bMINUS: cSIGN bMULTIPLICATION: cX bNORTH: cEAST: dARROW dPOINTING: eBUD eVINE: fLEAF cWEST:",
   "dPOINTING: eBUD eVINE: fLEAF bOPEN: cCENTRE: dCROSS bOUTLINED: cBLACK: dSTAR bOVAL: cWITH:",
   "dOVAL: eINSIDE bPLUS: cSIGN bRIGHT-POINTING: cANGLE: dBRACKET: eORNAMENT dQUOTATION: eMARK:",
   "fORNAMENT bRIGHTWARDS: cARROW dWITH: eEQUILATERAL: fARROWHEAD eLARGE: fEQUILATERAL: gARROWHEAD",
   "bROUND-TIPPED: cRIGHTWARDS: dARROW bSALTIRE bSANS-SERIF: cINTERROBANG: dORNAMENT bSCRIPT:",
   "cLIGATURE: dET: eORNAMENT bSINGLE: cCOMMA: dQUOTATION: eMARK: fORNAMENT cTURNED: dCOMMA:",
   "eQUOTATION: fMARK: gORNAMENT bSIX: cPOINTED: dBLACK: eSTAR cSPOKED: dASTERISK bSOUTH: cEAST:",
   "dARROW dPOINTING: eBUD eVINE: fLEAF cWEST: dPOINTING: eBUD eVINE: fLEAF bSPARKLE",
   "bTEARDROP-SHANKED: cRIGHTWARDS: dARROW bTEARDROP-SPOKED: cASTERISK cPINWHEEL: dASTERISK",
   "bTRIANGLE-HEADED: cRIGHTWARDS: dARROW bTWELVE: cPOINTED: dBLACK: eSTAR dPINWHEEL: eSTAR",
   "bUPPER: cRIGHT-SHADOWED: dWHITE: eRIGHTWARDS: fARROW bUPWARDS: cARROW: dWITH: eEQUILATERAL:",
   "fARROWHEAD eLARGE: fEQUILATERAL: gARROWHEAD bVERTICAL: cBAR bWEDGE-TAILED: cRIGHTWARDS: dARROW",
   "bWHITE: cCIRCLE cDOWN-POINTING: dTRIANGLE cSQUARE bWIDE-HEADED: cRIGHTWARDS: dARROW aHEBREW:",
   "bACCENT: cATNAH: dHAFUKH cDARGA cDEHI cETNAHTA cGERESH dMUQDAM cGERSHAYIM cILUY cMAHAPAKH",
   "cMERKHA dKEFULA cMUNAH cOLE cPASHTA cPAZER cQADMA cQARNEY: dPARA cREVIA cSEGOL cSHALSHELET",
   "cTELISHA: dGEDOLA dQETANA cTEVIR cTIPEHA cYERAH: dBEN: eYOMO cYETIV cZAQEF: dGADOL dQATAN",
   "cZARQA cZINOR bLETTER: cALEF dWITH: eMAPIQ ePATAH eQAMATS cALTERNATIVE: dAYIN dPLUS: eSIGN",
   "cAYIN cBET dWITH: eDAGESH eRAFE cDALET dWITH: eDAGESH cFINAL: dKAF eWITH: fDAGESH dMEM dNUN",
   "dPE eWITH: fDAGESH dTSADI cGIMEL dWITH: eDAGESH cHE dWITH: eMAPIQ cHET cKAF dWITH: eDAGESH",
   "eRAFE cLAMED dWITH: eDAGESH cMEM dWITH: eDAGESH cNUN dWITH: eDAGESH cPE dWITH: eDAGESH eRAFE",
   "cQOF dWITH: eDAGESH cRESH dWITH: eDAGESH cSAMEKH dWITH: eDAGESH cSHIN dWITH: eDAGESH fAND:",
   "gSHIN: hDOT gSIN: hDOT eSHIN: fDOT eSIN: fDOT cTAV dWITH: eDAGESH cTET dWITH: eDAGESH cTSADI",
   "dWITH: eDAGESH cVAV dWITH: eDAGESH eHOLAM cWIDE: dALEF dDALET dFINAL: eMEM dHE dKAF dLAMED",
   "dRESH dTAV cYOD dWITH: eDAGESH eHIRIQ cZAYIN dWITH: eDAGESH bLIGATURE: cALEF: dLAMED cYIDDISH:",
   "dDOUBLE: eVAV eYOD dVAV: eYOD dYOD: eYOD: fPATAH bMARK: cLOWER: dDOT cMASORA: dCIRCLE cUPPER:",
   "dDOT bPOINT: cDAGESH: dOR: eMAPIQ cHATAF: dPATAH dQAMATS dSEGOL cHIRIQ cHOLAM dHASER: eFOR:",
   "fVAV cJUDEO-SPANISH: dVARIKA cMETEG cPATAH cQAMATS dQATAN cQUBUTS cRAFE cSEGOL cSHEVA cSHIN:",
   "dDOT cSIN: dDOT cTSERE bPUNCTUATION: cGERESH cGERSHAYIM cMAQAF cNUN: dHAFUKHA cPASEQ cSOF:",
   "dPASUQ bYOD: cTRIANGLE aHEDGEHOG aHELICOPTER aHELLSCHREIBER: bPAUSE: cSYMBOL aHELM: bSYMBOL",
   "aHELMET: bWITH: cWHITE: dCROSS aHENTAIGANA: bLETTER: cA-1 cA-2 cA-3 cA-WO cE-1 cE-2 cE-3 cE-4",
   "cE-5 cE-6 cHA-1 cHA-10 cHA-11 cHA-2 cHA-3 cHA-4 cHA-5 cHA-6 cHA-7 cHA-8 cHA-9 cHE-1 cHE-2",
   "cHE-3 cHE-4 cHE-5 cHE-6 cHE-7 cHI-1 cHI-2 cHI-3 cHI-4 cHI-5 cHI-6 cHI-7 cHO-1 cHO-2 cHO-3",
   "cHO-4 cHO-5 cHO-6 cHO-7 cHO-8 cHU-1 cHU-2 cHU-3 cI-1 cI-2 cI-3 cI-4 cKA-1 cKA-10 cKA-11 cKA-2",
   "cKA-3 cKA-4 cKA-5 cKA-6 cKA-7 cKA-8 cKA-9 cKA-KE cKE-1 cKE-2 cKE-3 cKE-4 cKE-5 cKE-6 cKI-1",
   "cKI-2 cKI-3 cKI-4 cKI-5 cKI-6 cKI-7 cKI-8 cKO-1 cKO-2 cKO-3 cKO-KI cKU-1 cKU-2 cKU-3 cKU-4",
   "cKU-5 cKU-6 cKU-7 cMA-1 cMA-2 cMA-3 cMA-4 cMA-5 cMA-6 cMA-7 cME-1 cME-2 cME-MA cMI-1 cMI-2",
   "cMI-3 cMI-4 cMI-5 cMI-6 cMI-7 cMO-1 cMO-2 cMO-3 cMO-4 cMO-5 cMO-6 cMU-1 cMU-2 cMU-3 cMU-4",
   "cN-MU-MO-1 cN-MU-MO-2 cNA-1 cNA-2 cNA-3 cNA-4 cNA-5 cNA-6 cNA-7 cNA-8 cNA-9 cNE-1 cNE-2 cNE-3",
   "cNE-4 cNE-5 cNE-6 cNE-KO cNI-1 cNI-2 cNI-3 cNI-4 cNI-5 cNI-6 cNI-7 cNI-TE cNO-1 cNO-2 cNO-3",
   "cNO-4 cNO-5 cNU-1 cNU-2 cNU-3 cO-1 cO-2 cO-3 cRA-1 cRA-2 cRA-3 cRA-4 cRE-1 cRE-2 cRE-3 cRE-4",
   "cRI-1 cRI-2 cRI-3 cRI-4 cRI-5 cRI-6 cRI-7 cRO-1 cRO-2 cRO-3 cRO-4 cRO-5 cRO-6 cRU-1 cRU-2",
   "cRU-3 cRU-4 cRU-5 cRU-6 cSA-1 cSA-2 cSA-3 cSA-4 cSA-5 cSA-6 cSA-7 cSA-8 cSE-1 cSE-2 cSE-3",
   "cSE-4 cSE-5 cSI-1 cSI-2 cSI-3 cSI-4 cSI-5 cSI-6 cSO-1 cSO-2 cSO-3 cSO-4 cSO-5 cSO-6 cSO-7",
   "cSU-1 cSU-2 cSU-3 cSU-4 cSU-5 cSU-6 cSU-7 cSU-8 cTA-1 cTA-2 cTA-3 cTA-4 cTE-1 cTE-2 cTE-3",
   "cTE-4 cTE-5 cTE-6 cTE-7 cTE-8 cTE-9 cTI-1 cTI-2 cTI-3 cTI-4 cTI-5 cTI-6 cTI-7 cTO-1 cTO-2",
   "cTO-3 cTO-4 cTO-5 cTO-6 cTO-RA cTU-1 cTU-2 cTU-3 cTU-4 cTU-TO cU-1 cU-2 cU-3 cU-4 cU-5 cWA-1",
   "cWA-2 cWA-3 cWA-4 cWA-5 cWE-1 cWE-2 cWE-3 cWE-4 cWI-1 cWI-2 cWI-3 cWI-4 cWI-5 cWO-1 cWO-2",
   "cWO-3 cWO-4 cWO-5 cWO-6 cWO-7 cYA-1 cYA-2 cYA-3 cYA-4 cYA-5 cYA-YO cYO-1 cYO-2 cYO-3 cYO-4",
   "cYO-5 cYO-6 cYU-1 cYU-2 cYU-3 cYU-4 aHERB aHERMITIAN: bCONJUGATE: cMATRIX aHEXAGRAM: bFOR:",
   "cABUNDANCE cAFTER: dCOMPLETION cAPPROACH cBEFORE: dCOMPLETION cBITING: dTHROUGH cBREAKTHROUGH",
   "cCOMING: dTO: eMEET cCONFLICT cCONTEMPLATION cDARKENING: dOF: eTHE: fLIGHT cDECREASE",
   "cDELIVERANCE cDEVELOPMENT cDIFFICULTY: dAT: eTHE: fBEGINNING cDISPERSION cDURATION cENTHUSIASM",
   "cFELLOWSHIP cFOLLOWING cGATHERING: dTOGETHER cGRACE cGREAT: dPOSSESSION dPOWER dPREPONDERANCE",
   "dTAMING cHOLDING: dTOGETHER cINCREASE cINFLUENCE cINNER: dTRUTH cINNOCENCE cLIMITATION",
   "cMODESTY cMOUTH: dCORNERS cOBSTRUCTION cOPPOSITION cOPPRESSION cPEACE cPROGRESS cPUSHING:",
   "dUPWARD cRETREAT cRETURN cREVOLUTION cSMALL: dPREPONDERANCE dTAMING cSPLITTING: dAPART",
   "cSTANDSTILL cTHE: dABYSMAL: eWATER dARMY dAROUSING: eTHUNDER dCAULDRON dCLINGING: eFIRE",
   "dCREATIVE: eHEAVEN dFAMILY dGENTLE: eWIND dJOYOUS: eLAKE dKEEPING: eSTILL: fMOUNTAIN",
   "dMARRYING: eMAIDEN dRECEPTIVE: eEARTH dWANDERER dWELL cTREADING cWAITING cWORK: dON: eTHE:",
   "fDECAYED cYOUTHFUL: dFOLLY aHIBISCUS aHIGH: bBRIGHTNESS: cSYMBOL bOCTET: cPRESET bVOLTAGE:",
   "cSIGN aHIGH-HEELED: bSHOE aHIGH-SPEED: bTRAIN cWITH: dBULLET: eNOSE aHIKING: bBOOT aHINDU:",
   "bTEMPLE aHIPPOPOTAMUS aHIRAGANA: bDIGRAPH: cYORI bITERATION: cMARK bLETTER: cA cARCHAIC: dWU",
   "dYE cBA cBE cBI cBO cBU cDA cDE cDI cDO cDU cE cGA cGE cGI cGO cGU cHA cHE cHI cHO cHU cI cKA",
   "cKE cKI cKO cKU cMA cME cMI cMO cMU cN cNA cNE cNI cNO cNU cO cPA cPE cPI cPO cPU cRA cRE cRI",
   "cRO cRU cSA cSE cSI cSMALL: dA dE dI dKA dKE dO dTU dU dWA dWE dWI dWO dYA dYO dYU cSO cSU cTA",
   "cTE cTI cTO cTU cU cVU cWA cWE cWI cWO cYA cYO cYU cZA cZE cZI cZO cZU bVOICED: cITERATION:",
   "dMARK aHISTORIC: bSITE aHOCHO aHOLE aHOLLOW: bQUILT: cSQUARE: dORNAMENT eIN: fBLACK: gSQUARE",
   "aHOMOTHETIC aHONEY: bPOT aHONEYBEE aHOOK aHOP aHORIZONTAL: bBAR bBLACK: cHEXAGON cOCTAGON",
   "bELLIPSIS bLINE: cEXTENSION bMALE: cWITH: dSTROKE: eSIGN bONE: cEIGHTH: dBLOCK-1358 dBLOCK-2",
   "dBLOCK-3 dBLOCK-4 dBLOCK-5 dBLOCK-6 dBLOCK-7 bSCAN: cLINE-1 cLINE-3 cLINE-7 cLINE-9 bTAB: cKEY",
   "bTABULATION cSET cWITH: dJUSTIFICATION bTRAFFIC: cLIGHT aHORSE bFACE bRACING aHOSPITAL aHOT:",
   "bBEVERAGE bDOG bPEPPER bSPRINGS aHOTEL aHOURGLASS bWITH: cFLOWING: dSAND aHOUSE bBUILDING",
   "bBUILDINGS bWITH: cGARDEN aHRYVNIA: bSIGN aHT aHTJ aHTS aHUGGING: bFACE aHUNDRED: bPOINTS:",
   "cSYMBOL aHUSHED: bFACE aHUT aHYGIEA aHYPHEN bBULLET bWITH: cDIAERESIS aHYPHEN-MINUS",
   "aHYPHENATION: bPOINT aHYPODIASTOLE aHYSTERESIS: bSYMBOL aI: bLOVE: cYOU: dHAND: eSIGN aICE:",
   "bCREAM bCUBE bHOCKEY: cSTICK: dAND: ePUCK bSKATE aIDENTICAL: bTO cAND: dSLANTED: ePARALLEL",
   "bWITH: cDOT: dABOVE aIDENTIFICATION: bCARD aIDEOGRAPHIC: bANNOTATION: cBOTTOM: dMARK cEARTH:",
   "dMARK cFIRST: dMARK cFOUR: dMARK cFOURTH: dMARK cHEAVEN: dMARK cLINKING: dMARK cMAN: dMARK",
   "cMIDDLE: dMARK cONE: dMARK cREVERSE: dMARK cSECOND: dMARK cTHIRD: dMARK cTHREE: dMARK cTOP:",
   "dMARK cTWO: dMARK bCLOSING: cMARK bCOMMA bDEPARTING: cTONE: dMARK bDESCRIPTION: cCHARACTER:",
   "dABOVE: eTO: fBELOW fMIDDLE: gAND: hBELOW dFULL: eSURROUND dLEFT: eTO: fMIDDLE: gAND: hRIGHT",
   "fRIGHT dOVERLAID dSURROUND: eFROM: fABOVE fBELOW fLEFT fLOWER: gLEFT fUPPER: gLEFT gRIGHT",
   "bENTERING: cTONE: dMARK bFULL: cSTOP bHALF: cFILL: dSPACE bITERATION: cMARK bLEVEL: cTONE:",
   "dMARK bNUMBER: cZERO bRISING: cTONE: dMARK bSPACE bTALLY: cMARK: dFIVE dFOUR dONE dTHREE dTWO",
   "bTELEGRAPH: cLINE: dFEED: eSEPARATOR: fSYMBOL cSYMBOL: dFOR: eAPRIL eAUGUST eDAY: fEIGHT",
   "fEIGHTEEN fELEVEN fFIFTEEN fFIVE fFOUR fFOURTEEN fNINE fNINETEEN fONE fSEVEN fSEVENTEEN fSIX",
   "fSIXTEEN fTEN fTHIRTEEN fTHIRTY fTHIRTY-ONE fTHREE fTWELVE fTWENTY fTWENTY-EIGHT fTWENTY-FIVE",
   "fTWENTY-FOUR fTWENTY-NINE fTWENTY-ONE fTWENTY-SEVEN fTWENTY-SIX fTWENTY-THREE fTWENTY-TWO fTWO",
   "eDECEMBER eFEBRUARY eHOUR: fEIGHT fEIGHTEEN fELEVEN fFIFTEEN fFIVE fFOUR fFOURTEEN fNINE",
   "fNINETEEN fONE fSEVEN fSEVENTEEN fSIX fSIXTEEN fTEN fTHIRTEEN fTHREE fTWELVE fTWENTY",
   "fTWENTY-FOUR fTWENTY-ONE fTWENTY-THREE fTWENTY-TWO fTWO fZERO eJANUARY eJULY eJUNE eMARCH eMAY",
   "eNOVEMBER eOCTOBER eSEPTEMBER bVARIATION: cINDICATOR aIMAGE: bOF cOR: dAPPROXIMATELY: eEQUAL:",
   "fTO aIMP aIMPERIAL: bARAMAIC: cLETTER: dALEPH dAYIN dBETH dDALETH dGIMEL dHE dHETH dKAPH",
   "dLAMEDH dMEM dNUN dPE dQOPH dRESH dSADHE dSAMEKH dSHIN dTAW dTETH dWAW dYODH dZAYIN cNUMBER:",
   "dONE eHUNDRED eTHOUSAND dTEN eTHOUSAND dTHREE dTWENTY dTWO cSECTION: dSIGN aINBOX: bTRAY",
   "aINCOMING: bENVELOPE aINCOMPLETE: bINFINITY aINCREASE: bFONT: cSIZE: dSYMBOL aINCREASES: bAS",
   "aINCREMENT aIND aINDEX bPOINTING: cAT: dTHE: eVIEWER aINDIAN: bRUPEE: cSIGN aINDIC: bSIYAQ:",
   "cALTERNATE: dLAKH: eMARK cFRACTION: dONE: eHALF eQUARTER dTHREE: eQUARTERS cLAKH: dMARK",
   "cNUMBER: dALTERNATE: eONE eTEN: fTHOUSAND eTWO dEIGHT eHUNDRED eTHOUSAND dEIGHTY eTHOUSAND",
   "dFIFTY eTHOUSAND dFIVE eHUNDRED eTHOUSAND dFORTY eTHOUSAND dFOUR eHUNDRED eTHOUSAND dKAROR",
   "dKARORAN dLAKH dLAKHAN dNINE eHUNDRED eTHOUSAND dNINETY eTHOUSAND dONE eHUNDRED eTHOUSAND",
   "dPREFIXED: eEIGHT eFIVE eFOUR eNINE eONE eSEVEN eSIX eTHREE eTWO dSEVEN eHUNDRED eTHOUSAND",
   "dSEVENTY eTHOUSAND dSIX eHUNDRED eTHOUSAND dSIXTY eTHOUSAND dTEN eTHOUSAND dTHIRTY eTHOUSAND",
   "dTHREE eHUNDRED eTHOUSAND dTWENTY eTHOUSAND dTWO eHUNDRED eTHOUSAND cPLACEHOLDER cRUPEE: dMARK",
   "aINFINITY bNEGATED: cWITH: dVERTICAL: eBAR aINFORMATION: bDESK: cPERSON bSEPARATOR: cFOUR cONE",
   "cTHREE cTWO bSOURCE aINHIBIT: bARABIC: cFORM: dSHAPING bSYMMETRIC: cSWAPPING aINPUT: bSYMBOL:",
   "cFOR: dLATIN: eCAPITAL: fLETTERS eLETTERS eSMALL: fLETTERS dNUMBERS dSYMBOLS aINSCRIPTIONAL:",
   "bPAHLAVI: cLETTER: dALEPH dBETH dDALETH dGIMEL dHE dHETH dKAPH dLAMEDH dMEM-QOPH dNUN dPE",
   "dSADHE dSAMEKH dSHIN dTAW dTETH dWAW-AYIN-RESH dYODH dZAYIN cNUMBER: dFOUR dONE eHUNDRED",
   "eTHOUSAND dTEN dTHREE dTWENTY dTWO bPARTHIAN: cLETTER: dALEPH dAYIN dBETH dDALETH dGIMEL dHE",
   "dHETH dKAPH dLAMEDH dMEM dNUN dPE dQOPH dRESH dSADHE dSAMEKH dSHIN dTAW dTETH dWAW dYODH",
   "dZAYIN cNUMBER: dFOUR dONE eHUNDRED eTHOUSAND dTEN dTHREE dTWENTY dTWO aINSERTION: bSYMBOL",
   "aINTEGRAL bAROUND: cA: dPOINT: eOPERATOR bAVERAGE: cWITH: dSLASH bEXTENSION bWITH: cDOUBLE:",
   "dSTROKE cINTERSECTION cLEFTWARDS: dARROW: eWITH: fHOOK cOVERBAR cTIMES: dSIGN cUNDERBAR cUNION",
   "aINTERCALATE aINTERIOR: bPRODUCT aINTERLINEAR: bANNOTATION: cANCHOR cSEPARATOR cTERMINATOR",
   "aINTERLOCKED: bFEMALE: cAND: dMALE: eSIGN aINTERROBANG aINTERSECTION bABOVE: cBAR: dABOVE:",
   "eUNION cUNION bBESIDE: cAND: dJOINED: eWITH: fINTERSECTION bWITH: cDOT cLOGICAL: dAND cOVERBAR",
   "aINVERSE: bBULLET bCHECK: cMARK bCHECKER: cBOARD: dFILL bDOWNWARDS: cARROW: dWITH: eTIP:",
   "fLEFTWARDS bMEDIUM: cSHADE bWHITE: cCIRCLE aINVERTED: bEXCLAMATION: cMARK bINTERROBANG bLAZY:",
   "cS bLOW: cKAVYKA dWITH: eKAVYKA: fABOVE bOHM: cSIGN bPENTAGRAM bQUESTION: cMARK bUNDERTIE",
   "aINVISIBLE: bPLUS bSEPARATOR bTIMES aIZAKAYA: bLANTERN aJACK-O-LANTERN aJAPANESE: bBANK:",
   "cSYMBOL bCASTLE bDOLLS bGOBLIN bINDUSTRIAL: cSTANDARD: dSYMBOL bOGRE bPOST: cOFFICE bSYMBOL:",
   "cFOR: dBEGINNER aJAR aJAVANESE: bCONSONANT: cSIGN: dCAKRA dKERET dPENGKAL bDIGIT: cEIGHT cFIVE",
   "cFOUR cNINE cONE cSEVEN cSIX cTHREE cTWO cZERO bLEFT: cRERENGGAN bLETTER: cA cAI cBA dMURDA",
   "cCA dMURDA cDA dMAHAPRANA cDDA dMAHAPRANA cE cGA dMURDA cHA cI dKAWI cII cJA dMAHAPRANA cKA",
   "dMURDA dSASAK cLA cMA cNA dMURDA cNGA dLELET eRASWADI cNYA dMURDA cO cPA dCEREK dMURDA cRA",
   "dAGUNG cSA dMAHAPRANA dMURDA cTA dMURDA cTTA dMAHAPRANA cU cWA cYA bPADA: cADEG dADEG cANDAP",
   "cISEN-ISEN cLINGSA cLUHUR cLUNGSI cMADYA cPANGKAT cPISELEH cTIRTA: dTUMETES cWINDU bPANGKON",
   "bPANGRANGKEP bRIGHT: cRERENGGAN bSIGN: cCECAK dTELU cLAYAR cPANYANGGA cWIGNYAN bTURNED: cPADA:",
   "dPISELEH bVOWEL: cSIGN: dDIRGA: eMURE dPEPET dSUKU eMENDUT dTALING dTARUNG dTOLONG dWULU",
   "eMELIK aJEANS aJIGSAW: bPUZZLE: cPIECE aJOIN aJOYSTICK aJUGGLING aJUNO aJUPITER aKAABA",
   "aKAITHI: bABBREVIATION: cSIGN bDANDA bDOUBLE: cDANDA cSECTION: dMARK bENUMERATION: cSIGN",
   "bLETTER: cA cAA cAI cAU cBA cBHA cCA cCHA cDA cDDA cDDDHA cDDHA cDHA cE cGA cGHA cHA cI cII",
   "cJA cJHA cKA cKHA cLA cMA cNA cNGA cNNA cNYA cO cPA cPHA cRA cRHA cSA cSHA cSSA cTA cTHA cTTA",
   "cTTHA cU cUU cVA cYA bNUMBER: cSIGN dABOVE bSECTION: cMARK bSIGN: cANUSVARA cCANDRABINDU",
   "cNUKTA cVIRAMA cVISARGA bVOWEL: cSIGN: dAA dAI dAU dE dI dII dO dU dUU dVOCALIC: eR aKANGAROO",
   "aKANGXI: bRADICAL: cAGAIN cAND cARRIVE cARROW cAXE cBADGER cBAMBOO cBEAN cBIG cBIRD cBITTER",
   "cBLACK cBLOOD cBLUE cBOAT cBODY cBOLT: dOF: eCLOTH cBONE cBOW cBRANCH cBRISTLE cBRUSH cCART",
   "cCAULDRON cCAVE cCHILD cCITY cCLAN cCLAW cCLIFF cCLOTHES cCOLOR cCOMPARE cCORPSE cCOVER cCOW",
   "cDEATH cDEER cDIPPER cDISH cDISTINGUISH cDIVINATION cDO: dNOT cDOG cDOOR cDOT cDOTTED: dCLIFF",
   "dTENT cDOUBLE: dX cDOWN: dBOX cDRAGON cDRUM cDRY cEAR cEARTH cEAT cEIGHT cEMBROIDERY",
   "cENCLOSURE cENTER cEVEN cEVENING cEYE cFACE cFANG cFATHER cFEATHER cFIELD cFIGHT cFIRE cFISH",
   "cFLUTE cFLY cFOOT cFRAGRANT cFROG cFUR cGATE cGHOST cGO dSLOWLY cGOLD cGRAIN cGRASS cHAIR",
   "cHALBERD cHALF: dTREE: eTRUNK cHAND cHEAD cHEART cHEMP cHIDING: dENCLOSURE cHOOK cHORN cHORSE",
   "cICE cINCH cINSECT cJADE cJAR cKNIFE cLACK cLAME cLEAF cLEATHER cLEEK cLEGS cLID cLIFE cLINE",
   "cLONG dSTRIDE cMAN cMEAT cMELON cMILLET cMINISTER cMOON cMORNING cMORTAR cMOUND cMOUNTAIN",
   "cMOUTH cNET cNOSE cNOT cOLD cONE cONESELF cOPEN: dBOX cOPPOSE cPIG cPLOW cPOWER cPRIVATE",
   "cPROFOUND cRAIN cRAP cRAT cRED cRICE cRIGHT: dOPEN: eBOX cRIVER cROOF cRUN cSACRIFICIAL: dWINE",
   "cSALT cSAY cSCHOLAR cSCRIPT cSEAL cSECOND cSEE cSELF cSHEEP cSHELL cSHOOT cSHORT: dTAILED:",
   "eBIRD dTHREAD cSICKNESS cSILK cSKIN cSLASH cSLAVE cSLICE cSMALL cSNOUT cSOUND cSPEAR cSPEECH",
   "cSPIRIT cSPOON cSPROUT cSQUARE cSTAND cSTEAM cSTEP cSTONE cSTOP cSTOPPING cSUN cSWEET cTABLE",
   "cTALL cTANNED: dLEATHER cTEN cTIGER cTILE cTONGUE cTOOTH cTRACK cTREE cTRIPOD cTURBAN cTURTLE",
   "cTWO dHANDS cUSE cVALLEY cVILLAGE cWALK dENCLOSURE cWATER cWEAPON cWEST cWHEAT cWHITE cWIND",
   "cWINE cWOMAN cWORK cWRAP cWRONG cYELLOW aKANNADA: bAI: cLENGTH: dMARK bDIGIT: cEIGHT cFIVE",
   "cFOUR cNINE cONE cSEVEN cSIX cTHREE cTWO cZERO bLENGTH: cMARK bLETTER: cA cAA cAI cAU cBA cBHA",
   "cCA cCHA cDA cDDA cDDHA cDHA cE cEE cFA cGA cGHA cHA cI cII cJA cJHA cKA cKHA cLA cLLA cLLLA",
   "cMA cNA cNAKAARA: dPOLLU cNGA cNNA cNYA cO cOO cPA cPHA cRA cRRA cSA cSHA cSSA cTA cTHA cTTA",
   "cTTHA cU cUU cVA cVOCALIC: dL dLL dR dRR cYA bSIGN: cANUSVARA cAVAGRAHA cCANDRABINDU",
   "cJIHVAMULIYA cNUKTA cSIDDHAM cSPACING: dCANDRABINDU cUPADHMANIYA cVIRAMA cVISARGA bVOWEL:",
   "cSIGN: dAA dAI dAU dE dEE dI dII dO dOO dU dUU dVOCALIC: eL eLL eR eRR aKATAKANA: bDIGRAPH:",
   "cKOTO bITERATION: cMARK bLETTER: cA cARCHAIC: dE dWU dYE dYI cBA cBE cBI cBO cBU cDA cDE cDI",
   "cDO cDU cE cGA cGE cGI cGO cGU cHA cHE cHI cHO cHU cI cKA cKE cKI cKO cKU cMA cME cMI cMINNAN:",
   "dNASALIZED: eTONE-1 eTONE-2 eTONE-3 eTONE-4 eTONE-5 eTONE-7 eTONE-8 dTONE-2 dTONE-3 dTONE-4",
   "dTONE-5 dTONE-7 dTONE-8 cMO cMU cN cNA cNE cNI cNO cNU cO cPA cPE cPI cPO cPU cRA cRE cRI cRO",
   "cRU cSA cSE cSI cSMALL: dA dE dHA dHE dHI dHO dHU dI dKA dKE dKU dMU dN dNU dO dRA dRE dRI dRO",
   "dRU dSI dSU dTO dTU dU dWA dWE dWI dWO dYA dYO dYU cSO cSU cTA cTE cTI cTO cTU cU cVA cVE cVI",
   "cVO cVU cWA cWE cWI cWO cYA cYO cYU cZA cZE cZI cZO cZU bMIDDLE: cDOT bVOICED: cITERATION:",
   "dMARK aKATAKANA-HIRAGANA: bDOUBLE: cHYPHEN bPROLONGED: cSOUND: dMARK bSEMI-VOICED: cSOUND:",
   "dMARK bVOICED: cSOUND: dMARK aKAYAH: bLI: cDIGIT: dEIGHT dFIVE dFOUR dNINE dONE dSEVEN dSIX",
   "dTHREE dTWO dZERO cLETTER: dA dBA dCA dDA dGA dHA dHTA dI dKA dKHA dLA dMA dNA dNGA dNYA dOE",
   "dOO dPA dPHA dRA dSA dSHA dTA dTHA dVA dWA dYA dZA cSIGN: dCWI dSHYA cTONE: dCALYA ePLOPHU",
   "dPLOPHU cVOWEL: dE dEE dO dU dUE aKELVIN: bSIGN aKEY aKEYBOARD bAND: cMOUSE aKEYCAP: bTEN",
   "aKHAROSHTHI: bDIGIT: cFOUR cONE cTHREE cTWO bFRACTION: cONE: dHALF bLETTER: cA cBA cBHA cCA",
   "cCHA cDA cDDA cDDHA cDHA cGA cGHA cHA cJA cKA cKHA cKKA cLA cMA cNA cNNA cNYA cPA cPHA cRA cSA",
   "cSHA cSSA cTA cTHA cTTA cTTHA cTTTA cTTTHA cVA cVHA cYA cZA bNUMBER: cONE: dHUNDRED dTHOUSAND",
   "cTEN cTWENTY bPUNCTUATION: cCIRCLE cCRESCENT: dBAR cDANDA cDOT cDOUBLE: dDANDA cLINES cLOTUS",
   "cMANGALAM cSMALL: dCIRCLE bSIGN: cANUSVARA cBAR: dABOVE cCAUDA cDOT: dBELOW cDOUBLE: dRING:",
   "eBELOW cVISARGA bVIRAMA bVOWEL: cLENGTH: dMARK cSIGN: dE dI dO dU dVOCALIC: eR aKHITAN:",
   "bSMALL: cSCRIPT: dFILLER aKHMER: bCURRENCY: cSYMBOL: dRIEL bDIGIT: cEIGHT cFIVE cFOUR cNINE",
   "cONE cSEVEN cSIX cTHREE cTWO cZERO bINDEPENDENT: cVOWEL: dLY dLYY dQAA dQAI dQAQ dQAU dQE dQI",
   "dQII dQOO: eTYPE: fONE fTWO dQU dQUK dQUU dQUUV dRY dRYY bLETTER: cBA cCA cCHA cCHO cCO cDA",
   "cDO cHA cKA cKHA cKHO cKO cLA cLO cMO cNGO cNNO cNO cNYO cPHA cPHO cPO cQA cRO cSA cSHA cSSO",
   "cTA cTHA cTHO cTO cTTHA cTTHO cVO cYO bSIGN: cAHSDA cATTHACAN cAVAKRAHASANYA cBANTOC",
   "cBARIYOOSAN cBATHAMASAT cBEYYAL cCAMNUC: dPII: eKUUH cCOENG cKAKABAT cKHAN cKOOMUUT cLEK: dTOO",
   "cMUUSIKATOAN cNIKAHIT cPHNAEK: dMUAN cREAHMUK cROBAT cSAMYOK: dSANNYA cTOANDAKHIAT cTRIISAP",
   "cVIRIAM cYUUKALEAPINTU bSYMBOL: cBEI: dKOET dROC cBUON: dKOET dROC cDAP: dKOET dROC cDAP-BEI:",
   "dKOET dROC cDAP-BUON: dKOET dROC cDAP-MUOY: dKOET dROC cDAP-PII: dKOET dROC cDAP-PRAM: dKOET",
   "dROC cLEK: dATTAK: eBEI eBUON eMUOY ePII ePRAM ePRAM-BEI ePRAM-BUON ePRAM-MUOY ePRAM-PII eSON",
   "cMUOY: dKOET dROC cPATHAMASAT cPII: dKOET dROC cPRAM: dKOET dROC cPRAM-BEI: dKOET dROC",
   "cPRAM-BUON: dKOET dROC cPRAM-MUOY: dKOET dROC cPRAM-PII: dKOET dROC cTUTEYASAT bVOWEL:",
   "cINHERENT: dAA dAQ cSIGN: dAA dAE dAI dAU dE dI dIE dII dOE dOO dU dUA dUU dY dYA dYY aKHOJKI:",
   "bABBREVIATION: cSIGN bDANDA bDOUBLE: cDANDA cSECTION: dMARK bLETTER: cA cAA cAI cAU cBA cBBA",
   "cBHA cCA cCHA cDA cDDA cDDDA cDDHA cDHA cE cGA cGGA cGHA cHA cI cJA cJJA cKA cKHA cLA cLLA cMA",
   "cNA cNGA cNNA cNYA cO cPA cPHA cRA cSA cTA cTHA cTTA cTTHA cU cVA cYA bSECTION: cMARK bSIGN:",
   "cANUSVARA cNUKTA cSHADDA cSUKUN cVIRAMA bVOWEL: cSIGN: dAA dAI dAU dE dI dII dO dU bWORD:",
   "cSEPARATOR aKHUDAWADI: bDIGIT: cEIGHT cFIVE cFOUR cNINE cONE cSEVEN cSIX cTHREE cTWO cZERO",
   "bLETTER: cA cAA cAI cAU cBA cBBA cBHA cCA cCHA cDA cDDA cDDDA cDDHA cDHA cE cGA cGGA cGHA cHA",
   "cI cII cJA cJHA cJJA cKA cKHA cLA cMA cNA cNGA cNNA cNYA cO cPA cPHA cRA cRRA cSA cSHA cTA",
   "cTHA cTTA cTTHA cU cUU cVA cYA bSIGN: cANUSVARA cNUKTA cVIRAMA bVOWEL: cSIGN: dAA dAI dAU dE",
   "dI dII dO dU dUU aKIMONO aKIP: bSIGN aKISS bMARK aKISSING: bCAT: cFACE: dWITH: eCLOSED: fEYES",
   "bFACE cWITH: dCLOSED: eEYES dSMILING: eEYES aKITE aKIWIFRUIT aKNEELING: bPERSON aKNOT aKOALA",
   "aKOREAN: bSTANDARD: cSYMBOL aKRONOS aL: bB: cBAR: dSYMBOL aLAB: bCOAT aLABEL aLACROSSE:",
   "bSTICK: cAND: dBALL aLADDER aLADY: bBEETLE aLANGUAGE: bTAG aLAO: bCANCELLATION: cMARK bDIGIT:",
   "cEIGHT cFIVE cFOUR cNINE cONE cSEVEN cSIX cTHREE cTWO cZERO bELLIPSIS bHO: cMO cNO bKO: cLA",
   "bLETTER: cBO cCO cDO cFO: dFAY dFON dSUNG dTAM cHO: dSUNG dTAM cKHMU: dGO dNYO cKHO: dSUNG",
   "dTAM cKO cLO dLING dLOOT cMO cNGO cNO cNYO cO cPALI: dBHA dCHA dDDA dDDHA dDHA dGHA dJHA dLLA",
   "dNNA dNYA dTTA dTTHA cPHO: dSUNG dTAM cPO cRO cSANSKRIT: dSHA dSSA cSO: dSUNG dTAM cTHO: dSUNG",
   "dTAM cTO cWO cYO bNIGGAHITA bSEMIVOWEL: cSIGN: dLO dNYO bSIGN: cPALI: dVIRAMA bTONE: cMAI:",
   "dCATAWA dEK dTHO dTI bVOWEL: cSIGN: dA dAA dAI dAM dAY dE dEI dI dII dMAI: eKAN eKON dO dU dUU",
   "dY dYY aLARGE: bBLUE: cCIRCLE cDIAMOND cSQUARE bBROWN: cCIRCLE cSQUARE bCIRCLE bDOWN: cTACK",
   "bGREEN: cCIRCLE cSQUARE bLEFT: cTRIANGLE: dOPERATOR bONE: cDOT: dOVER: eTWO: fDOTS:",
   "gPUNCTUATION cRING: dOVER: eTWO: fRINGS: gPUNCTUATION bORANGE: cCIRCLE cDIAMOND cSQUARE",
   "bPURPLE: cCIRCLE cSQUARE bRED: cCIRCLE cSQUARE bTRIPLE: cVERTICAL: dBAR: eOPERATOR bTWO:",
   "cDOTS: dOVER: eONE: fDOT: gPUNCTUATION cRINGS: dOVER: eONE: fRING: gPUNCTUATION bUP: cTACK",
   "bYELLOW: cCIRCLE cSQUARE aLARGER: bTHAN cOR: dEQUAL: eTO aLARI: bSIGN aLAST: bQUARTER: cMOON",
   "dSYMBOL dWITH: eFACE aLATIN: bCAPITAL: cLETTER: dA eWITH: fACUTE fBREVE gAND: hACUTE hDOT:",
   "iBELOW hGRAVE hHOOK: iABOVE hTILDE fCARON fCIRCUMFLEX gAND: hACUTE hDOT: iBELOW hGRAVE hHOOK:",
   "iABOVE hTILDE fDIAERESIS gAND: hMACRON fDOT: gABOVE hAND: iMACRON gBELOW fDOUBLE: gGRAVE",
   "fGRAVE fHOOK: gABOVE fINVERTED: gBREVE fMACRON fOGONEK fRING: gABOVE hAND: iACUTE gBELOW",
   "fSTROKE fTILDE dAA dAE eWITH: fACUTE fMACRON dAFRICAN: eD dALPHA dANGLICANA: eW dAO dAU dAV",
   "eWITH: fHORIZONTAL: gBAR dAY dB eWITH: fDOT: gABOVE gBELOW fFLOURISH fHOOK fLINE: gBELOW",
   "fSTROKE fTOPBAR dBETA dBROKEN: eL dC eWITH: fACUTE fBAR fCARON fCEDILLA gAND: hACUTE",
   "fCIRCUMFLEX fDOT: gABOVE fHOOK fPALATAL: gHOOK fSTROKE dCHI dCLOSED: eINSULAR: fG dCON",
   "dCUATRILLO eWITH: fCOMMA dD eWITH: fCARON fCEDILLA fCIRCUMFLEX: gBELOW fDOT: gABOVE gBELOW",
   "fHOOK fLINE: gBELOW fSHORT: gSTROKE: hOVERLAY fSMALL: gLETTER: hZ iWITH: jCARON fSTROKE",
   "fTOPBAR dDZ eWITH: fCARON dE eWITH: fACUTE fBREVE fCARON fCEDILLA gAND: hBREVE fCIRCUMFLEX",
   "gAND: hACUTE hDOT: iBELOW hGRAVE hHOOK: iABOVE hTILDE gBELOW fDIAERESIS fDOT: gABOVE gBELOW",
   "fDOUBLE: gGRAVE fGRAVE fHOOK: gABOVE fINVERTED: gBREVE fMACRON gAND: hACUTE hGRAVE fOGONEK",
   "fSTROKE fTILDE gBELOW dEGYPTOLOGICAL: eAIN eALEF dENG dESH dET dETH dEZH eREVERSED eWITH:",
   "fCARON dF eWITH: fDOT: gABOVE fHOOK fSTROKE dG eWITH: fACUTE fBREVE fCARON fCEDILLA",
   "fCIRCUMFLEX fDOT: gABOVE fHOOK fMACRON fOBLIQUE: gSTROKE fSTROKE dGAMMA dGHA dGLOTTAL: eA eI",
   "eSTOP eU dH eWITH: fBREVE: gBELOW fCARON fCEDILLA fCIRCUMFLEX fDESCENDER fDIAERESIS fDOT:",
   "gABOVE gBELOW fHOOK fSTROKE dHALF: eH dHENG dHWAIR dI eWITH: fACUTE fBREVE fCARON fCIRCUMFLEX",
   "fDIAERESIS gAND: hACUTE fDOT: gABOVE gBELOW fDOUBLE: gGRAVE fGRAVE fHOOK: gABOVE fINVERTED:",
   "gBREVE fMACRON fOGONEK fSTROKE fTILDE gBELOW dINSULAR: eD eF eG eR eS eT dIOTA dIS dJ eWITH:",
   "fCIRCUMFLEX fCROSSED-TAIL fSTROKE dK eWITH: fACUTE fCARON fCEDILLA fDESCENDER fDIAGONAL:",
   "gSTROKE fDOT: gBELOW fHOOK fLINE: gBELOW fOBLIQUE: gSTROKE fSTROKE gAND: hDIAGONAL: iSTROKE dL",
   "eWITH: fACUTE fBAR fBELT fCARON fCEDILLA fCIRCUMFLEX: gBELOW fDOT: gBELOW hAND: iMACRON",
   "fDOUBLE: gBAR fHIGH: gSTROKE fLINE: gBELOW fMIDDLE: gDOT gTILDE fSMALL: gLETTER: hJ fSTROKE",
   "dLJ dM eWITH: fACUTE fDOT: gABOVE gBELOW fHOOK dMIDDLE: eSCOTS: fS dMIDDLE-WELSH: eLL eV dN",
   "eWITH: fACUTE fCARON fCEDILLA fCIRCUMFLEX: gBELOW fDESCENDER fDOT: gABOVE gBELOW fGRAVE fLEFT:",
   "gHOOK fLINE: gBELOW fLONG: gRIGHT: hLEG fOBLIQUE: gSTROKE fSMALL: gLETTER: hJ fTILDE dNJ dO",
   "eWITH: fACUTE fBREVE fCARON fCIRCUMFLEX gAND: hACUTE hDOT: iBELOW hGRAVE hHOOK: iABOVE hTILDE",
   "fDIAERESIS gAND: hMACRON fDOT: gABOVE hAND: iMACRON gBELOW fDOUBLE: gACUTE gGRAVE fGRAVE",
   "fHOOK: gABOVE fHORN gAND: hACUTE hDOT: iBELOW hGRAVE hHOOK: iABOVE hTILDE fINVERTED: gBREVE",
   "fLONG: gSTROKE: hOVERLAY fLOOP fMACRON gAND: hACUTE hGRAVE fMIDDLE: gTILDE fOGONEK gAND:",
   "hMACRON fSTROKE gAND: hACUTE fTILDE gAND: hACUTE hDIAERESIS hMACRON dOI dOLD: ePOLISH: fO",
   "dOMEGA dOO dOPEN: eE eO dOU dP eWITH: fACUTE fDOT: gABOVE fFLOURISH fHOOK fSQUIRREL: gTAIL",
   "fSTROKE gTHROUGH: hDESCENDER dQ eWITH: fDIAGONAL: gSTROKE fSTROKE: gTHROUGH: hDESCENDER dR",
   "eROTUNDA eWITH: fACUTE fCARON fCEDILLA fDOT: gABOVE gBELOW hAND: iMACRON fDOUBLE: gGRAVE",
   "fINVERTED: gBREVE fLINE: gBELOW fOBLIQUE: gSTROKE fSTROKE fTAIL dREVERSED: eC: fWITH: gDOT eE",
   "eHALF: fH eOPEN: fE dRUM: eROTUNDA dS eWITH: fACUTE gAND: hDOT: iABOVE fCARON gAND: hDOT:",
   "iABOVE fCEDILLA fCIRCUMFLEX fCOMMA: gBELOW fDOT: gABOVE gBELOW hAND: iDOT: jABOVE fHOOK",
   "fOBLIQUE: gSTROKE fSHORT: gSTROKE: hOVERLAY fSWASH: gTAIL dSALTILLO dSCHWA dSCRIPT: eG dSHARP:",
   "eS dSIGMOID: eS dSMALL: eCAPITAL: fI eQ: fWITH: gHOOK: hTAIL dT eWITH: fCARON fCEDILLA",
   "fCIRCUMFLEX: gBELOW fCOMMA: gBELOW fDIAGONAL: gSTROKE fDOT: gABOVE gBELOW fHOOK fLINE: gBELOW",
   "fRETROFLEX: gHOOK fSTROKE dTHORN eWITH: fSTROKE gTHROUGH: hDESCENDER dTONE: eFIVE eSIX eTWO",
   "dTRESILLO dTURNED: eA eALPHA eH eINSULAR: fG eK eL eM eT eV dTZ dU eBAR eWITH: fACUTE fBREVE",
   "fCARON fCIRCUMFLEX gBELOW fDIAERESIS gAND: hACUTE hCARON hGRAVE hMACRON gBELOW fDOT: gBELOW",
   "fDOUBLE: gACUTE gGRAVE fGRAVE fHOOK: gABOVE fHORN gAND: hACUTE hDOT: iBELOW hGRAVE hHOOK:",
   "iABOVE hTILDE fINVERTED: gBREVE fMACRON gAND: hDIAERESIS fOGONEK fRING: gABOVE fSTROKE fTILDE",
   "gAND: hACUTE gBELOW dUPSILON dV eWITH: fDIAGONAL: gSTROKE fDOT: gBELOW fHOOK fTILDE dVEND",
   "dVISIGOTHIC: eZ dVOLAPUK: eAE eOE eUE dVY dW eWITH: fACUTE fCIRCUMFLEX fDIAERESIS fDOT: gABOVE",
   "gBELOW fGRAVE fHOOK dWYNN dX eWITH: fDIAERESIS fDOT: gABOVE dY eWITH: fACUTE fCIRCUMFLEX",
   "fDIAERESIS fDOT: gABOVE gBELOW fGRAVE fHOOK gABOVE fLOOP fMACRON fSTROKE fTILDE dYOGH dZ",
   "eWITH: fACUTE fCARON fCIRCUMFLEX fDESCENDER fDOT: gABOVE gBELOW fHOOK fLINE: gBELOW fPALATAL:",
   "gHOOK fSTROKE fSWASH: gTAIL cLIGATURE: dIJ dOE bCROSS bEPIGRAPHIC: cLETTER: dARCHAIC: eM dI:",
   "eLONGA dINVERTED: eM dREVERSED: eF eP dSIDEWAYS: eI bLETTER: cAIN cALVEOLAR: dCLICK cBIDENTAL:",
   "dPERCUSSIVE cBILABIAL: dCLICK dPERCUSSIVE cDENTAL: dCLICK cGLOTTAL: dSTOP eWITH: fSTROKE",
   "cINVERTED: dGLOTTAL: eSTOP fWITH: gCURL gSTROKE cLATERAL: dCLICK cPHARYNGEAL: dVOICED:",
   "eFRICATIVE cRETROFLEX: dCLICK eWITH: fRETROFLEX: gHOOK cREVERSED: dESH: eLOOP dGLOTTAL: eSTOP:",
   "fWITH: gSTROKE cSINOLOGICAL: dDOT cSMALL: dCAPITAL: eA eAE eB eBARRED: fB eC eD eE eETH eEZH",
   "eF eG fWITH: gHOOK eH eI eINVERTED: fR eJ eK eL fWITH: gBELT gSTROKE eM eN eO eOE eOPEN: fO",
   "eOU eP eQ eR fWITH: gRIGHT: hLEG eREVERSED: fN fR eRUM eS eT eTURNED: fE fG fK fM fR eU eV eW",
   "eY eZ cSTRETCHED: dC eWITH: fCURL cTWO: dWITH: eSTROKE cVOICED: dLARYNGEAL: eSPIRANT cWYNN cYR",
   "bSMALL: cCAPITAL: dLETTER: eI: fWITH: gSTROKE eU: fWITH: gSTROKE cLETTER: dA eREVERSED-SCHWA",
   "eWITH: fACUTE fBREVE gAND: hACUTE hDOT: iBELOW hGRAVE hHOOK: iABOVE hTILDE fCARON fCIRCUMFLEX",
   "gAND: hACUTE hDOT: iBELOW hGRAVE hHOOK: iABOVE hTILDE fDIAERESIS gAND: hMACRON fDOT: gABOVE",
   "hAND: iMACRON gBELOW fDOUBLE: gGRAVE fGRAVE fHOOK: gABOVE fINVERTED: gBREVE fMACRON fOGONEK",
   "fRETROFLEX: gHOOK fRIGHT: gHALF: hRING fRING: gABOVE hAND: iACUTE gBELOW fSTROKE fTILDE dAA",
   "dAE eWITH: fACUTE fMACRON dALPHA eWITH: fRETROFLEX: gHOOK dANGLICANA: eW dAO dAU dAV eWITH:",
   "fHORIZONTAL: gBAR dAY dB eWITH: fDOT: gABOVE gBELOW fFLOURISH fHOOK fLINE: gBELOW fMIDDLE:",
   "gTILDE fPALATAL: gHOOK fSTROKE fTOPBAR dBARRED: eALPHA eE eO dBASELINE: eESH dBETA",
   "dBLACKLETTER: eE eO fWITH: gSTROKE dBOTTOM: eHALF: fO dBROKEN: eL dC eWITH: fACUTE fBAR fCARON",
   "fCEDILLA gAND: hACUTE fCIRCUMFLEX fCURL fDOT: gABOVE fHOOK fPALATAL: gHOOK fRETROFLEX: gHOOK",
   "fSTROKE dCHI eWITH: fLOW: gLEFT: hSERIF gRIGHT: hRING dCLOSED: eINSULAR: fG eOMEGA eOPEN: fE",
   "eREVERSED: fOPEN: gE dCON dCUATRILLO eWITH: fCOMMA dD eWITH: fCARON fCEDILLA fCIRCUMFLEX:",
   "gBELOW fCURL fDOT: gABOVE gBELOW fHOOK gAND: hTAIL fLINE: gBELOW fMIDDLE: gTILDE fPALATAL:",
   "gHOOK fSHORT: gSTROKE: hOVERLAY fSTROKE fTAIL fTOPBAR dDB: eDIGRAPH dDELTA dDEZH: eDIGRAPH",
   "fWITH: gPALATAL: hHOOK gRETROFLEX: hHOOK dDOTLESS: eI eJ fWITH: gSTROKE hAND: iHOOK dDOUBLE:",
   "eR fWITH: gCROSSED-TAIL eTHORN eWYNN dDUM dDZ eDIGRAPH fWITH: gCURL gRETROFLEX: hHOOK eWITH:",
   "fCARON dE eWITH: fACUTE fBREVE fCARON fCEDILLA gAND: hBREVE fCIRCUMFLEX gAND: hACUTE hDOT:",
   "iBELOW hGRAVE hHOOK: iABOVE hTILDE gBELOW fDIAERESIS fDOT: gABOVE gBELOW fDOUBLE: gGRAVE",
   "fFLOURISH fGRAVE fHOOK: gABOVE fINVERTED: gBREVE fMACRON gAND: hACUTE hGRAVE fNOTCH fOGONEK",
   "fRETROFLEX: gHOOK fSTROKE fTILDE gBELOW dEGYPTOLOGICAL: eAIN eALEF dENG eWITH: fCROSSED-TAIL",
   "fPALATAL: gHOOK dESH eWITH: fCURL fDOUBLE: gBAR hAND: iCURL fPALATAL: gHOOK fRETROFLEX: gHOOK",
   "dET dETH dEZH eREVERSED eWITH: fCARON fCURL fPALATAL: gHOOK fRETROFLEX: gHOOK fTAIL dF eWITH:",
   "fDOT: gABOVE fHOOK fMIDDLE: gTILDE fPALATAL: gHOOK fSTROKE dFENG: eDIGRAPH fWITH: gTRILL dG",
   "eWITH: fACUTE fBREVE fCARON fCEDILLA fCIRCUMFLEX fDOT: gABOVE fHOOK fMACRON fOBLIQUE: gSTROKE",
   "fPALATAL: gHOOK fSTROKE dGAMMA dGHA dGLOTTAL: eA eI eSTOP eU dH eWITH: fBREVE: gBELOW fCARON",
   "fCEDILLA fCIRCUMFLEX fDESCENDER fDIAERESIS fDOT: gABOVE gBELOW fHOOK fLINE: gBELOW fPALATAL:",
   "gHOOK fSTROKE dHALF: eH dHENG eWITH: fHOOK dHV dI eWITH: fACUTE fBREVE fCARON fCIRCUMFLEX",
   "fDIAERESIS gAND: hACUTE fDOT: gBELOW fDOUBLE: gGRAVE fGRAVE fHOOK: gABOVE fINVERTED: gBREVE",
   "fMACRON fOGONEK fRETROFLEX: gHOOK fSTROKE gAND: hRETROFLEX: iHOOK fTILDE gBELOW dINSULAR: eD",
   "eF eG eR eS eT dINVERTED: eALPHA eOE dIOTA eWITH: fSTROKE dIOTIFIED: eE dIS dJ eWITH: fCARON",
   "fCIRCUMFLEX fCROSSED-TAIL fSTROKE dK eWITH: fACUTE fCARON fCEDILLA fDESCENDER fDIAGONAL:",
   "gSTROKE fDOT: gBELOW fHOOK fLINE: gBELOW fOBLIQUE: gSTROKE fPALATAL: gHOOK fSTROKE gAND:",
   "hDIAGONAL: iSTROKE dKRA dL eWITH: fACUTE fBAR fBELT gAND: hPALATAL: iHOOK fCARON fCEDILLA",
   "fCIRCUMFLEX: gBELOW fCURL fDOT: gBELOW hAND: iMACRON fDOUBLE: gBAR gMIDDLE: hTILDE fFISHHOOK",
   "fHIGH: gSTROKE fINVERTED: gLAZY: hS fLINE: gBELOW fMIDDLE: gDOT gRING gTILDE fPALATAL: gHOOK",
   "fRETROFLEX: gHOOK hAND: iBELT fSTROKE dLAMBDA: eWITH: fSTROKE dLENIS: eF dLEZH eWITH:",
   "fRETROFLEX: gHOOK dLJ dLONG: eS fWITH: gDIAGONAL: hSTROKE gDOT: hABOVE gHIGH: hSTROKE dLS:",
   "eDIGRAPH dLUM dLZ: eDIGRAPH dM eWITH: fACUTE fCROSSED-TAIL fDOT: gABOVE gBELOW fHOOK fMIDDLE:",
   "gTILDE fPALATAL: gHOOK dMIDDLE: eSCOTS: fS dMIDDLE-WELSH: eLL eV dMUM dN ePRECEDED: fBY:",
   "gAPOSTROPHE eWITH: fACUTE fCARON fCEDILLA fCIRCUMFLEX: gBELOW fCROSSED-TAIL fCURL fDESCENDER",
   "fDOT: gABOVE gBELOW fGRAVE fLEFT: gHOOK fLINE: gBELOW fLONG: gRIGHT: hLEG fMIDDLE: gTILDE",
   "fOBLIQUE: gSTROKE fPALATAL: gHOOK fRETROFLEX: gHOOK fTILDE dNJ dNUM dO eWITH: fACUTE fBREVE",
   "fCARON fCIRCUMFLEX gAND: hACUTE hDOT: iBELOW hGRAVE hHOOK: iABOVE hTILDE fDIAERESIS gAND:",
   "hMACRON fDOT: gABOVE hAND: iMACRON gBELOW fDOUBLE: gACUTE gGRAVE fGRAVE fHOOK: gABOVE fHORN",
   "gAND: hACUTE hDOT: iBELOW hGRAVE hHOOK: iABOVE hTILDE fINVERTED: gBREVE fLONG: gSTROKE:",
   "hOVERLAY fLOOP fLOW: gRING: hINSIDE fMACRON gAND: hACUTE hGRAVE fOGONEK gAND: hMACRON",
   "fRETROFLEX: gHOOK fSTROKE gAND: hACUTE fTILDE gAND: hACUTE hDIAERESIS hMACRON dOI dOLD:",
   "ePOLISH: fO dOMEGA dOO dOPEN: eE fWITH: gRETROFLEX: hHOOK eO fWITH: gRETROFLEX: hHOOK gSTROKE",
   "eOE dOU dP eWITH: fACUTE fDOT: gABOVE fFLOURISH fHOOK fMIDDLE: gTILDE fPALATAL: gHOOK",
   "fSQUIRREL: gTAIL fSTROKE gTHROUGH: hDESCENDER dPHI dQ eWITH: fDIAGONAL: gSTROKE fHOOK gTAIL",
   "fSTROKE: gTHROUGH: hDESCENDER dQP: eDIGRAPH dR eROTUNDA eWITH: fACUTE fCARON fCEDILLA",
   "fCROSSED-TAIL fDOT: gABOVE gBELOW hAND: iMACRON fDOUBLE: gGRAVE fFISHHOOK gAND: hMIDDLE:",
   "iTILDE hPALATAL: iHOOK fINVERTED: gBREVE fLINE: gBELOW fLONG: gLEG fMIDDLE: gTILDE fOBLIQUE:",
   "gSTROKE fPALATAL: gHOOK fSTROKE fTAIL eWITHOUT: fHANDLE dRAMS: eHORN dREVERSED: eC fWITH: gDOT",
   "eE eENG eHALF: fH eK eOPEN: fE gWITH: hHOOK hRETROFLEX: iHOOK eR: fWITH: gFISHHOOK eSCRIPT: fG",
   "dRUM eROTUNDA dS eWITH: fACUTE gAND: hDOT: iABOVE fCARON gAND: hDOT: iABOVE fCEDILLA",
   "fCIRCUMFLEX fCOMMA: gBELOW fCURL fDOT: gABOVE gBELOW hAND: iDOT: jABOVE fHOOK fMIDDLE: gTILDE",
   "fOBLIQUE: gSTROKE fPALATAL: gHOOK fSHORT: gSTROKE: hOVERLAY fSWASH: gTAIL dSAKHA: eYAT",
   "dSALTILLO dSCHWA eWITH: fHOOK fRETROFLEX: gHOOK dSCRIPT: eG fWITH: gCROSSED-TAIL eR fWITH:",
   "gRING dSHARP: eS dSIDEWAYS: eDIAERESIZED: fU eO fWITH: gSTROKE eOPEN: fO eTURNED: fM eU",
   "dSIGMOID: eS dSQUAT: eREVERSED: fESH dSTIRRUP: eR dT eWITH: fCARON fCEDILLA fCIRCUMFLEX:",
   "gBELOW fCOMMA: gBELOW fCURL fDIAERESIS fDIAGONAL: gSTROKE fDOT: gABOVE gBELOW fHOOK gAND:",
   "hRETROFLEX: iHOOK fLINE: gBELOW fMIDDLE: gTILDE fPALATAL: gHOOK fRETROFLEX: gHOOK fSTROKE",
   "dTAILLESS: ePHI dTC: eDIGRAPH: fWITH: gCURL dTESH: eDIGRAPH fWITH: gPALATAL: hHOOK gRETROFLEX:",
   "hHOOK dTH: eWITH: fSTRIKETHROUGH dTHORN eWITH: fSTROKE gTHROUGH: hDESCENDER dTONE: eFIVE eSIX",
   "eTWO dTOP: eHALF: fO dTRESILLO dTS: eDIGRAPH fWITH: gRETROFLEX: hHOOK dTUM dTURNED: eA eAE",
   "eALPHA eDELTA eE eG eH fWITH: gFISHHOOK hAND: iTAIL eI eINSULAR: fG eK eL eM fWITH: gLONG:",
   "hLEG eO: fOPEN-O gWITH: hSTROKE eOE fWITH: gHORIZONTAL: hSTROKE gSTROKE eOPEN: fE eR fWITH:",
   "gHOOK gLONG: hLEG iAND: jRETROFLEX: kHOOK gMIDDLE: hTILDE gPALATAL: hHOOK gTAIL eT fWITH:",
   "gCURL eUI eV eW eY fWITH: gBELT dTZ dU eBAR fWITH: gSHORT: hRIGHT: iLEG eWITH: fACUTE fBREVE",
   "fCARON fCIRCUMFLEX gBELOW fDIAERESIS gAND: hACUTE hCARON hGRAVE hMACRON gBELOW fDOT: gBELOW",
   "fDOUBLE: gACUTE gGRAVE fGRAVE fHOOK: gABOVE fHORN gAND: hACUTE hDOT: iBELOW hGRAVE hHOOK:",
   "iABOVE hTILDE fINVERTED: gBREVE fLEFT: gHOOK fMACRON gAND: hDIAERESIS fOGONEK fRETROFLEX:",
   "gHOOK fRING: gABOVE fSHORT: gRIGHT: hLEG fSTROKE fTILDE gAND: hACUTE gBELOW dUE dUI dUM dUO",
   "dUPSILON eWITH: fSTROKE dV eWITH: fCURL fDIAGONAL: gSTROKE fDOT: gBELOW fHOOK fPALATAL: gHOOK",
   "fRIGHT: gHOOK fTILDE dVEND dVISIGOTHIC: eZ dVOLAPUK: eAE eOE eUE dVY dW eWITH: fACUTE",
   "fCIRCUMFLEX fDIAERESIS fDOT: gABOVE gBELOW fGRAVE fHOOK fRING: gABOVE dX eWITH: fDIAERESIS",
   "fDOT: gABOVE fLONG: gLEFT: hLEG iAND: jLOW: kRIGHT: lRING iWITH: jSERIF fLOW: gRIGHT: hRING",
   "fPALATAL: gHOOK dY eWITH: fACUTE fCIRCUMFLEX fDIAERESIS fDOT: gABOVE gBELOW fGRAVE fHOOK",
   "gABOVE fLOOP fMACRON fRING: gABOVE fSHORT: gRIGHT: hLEG fSTROKE fTILDE dYOGH dZ eWITH: fACUTE",
   "fCARON fCIRCUMFLEX fCURL fDESCENDER fDOT: gABOVE gBELOW fHOOK fLINE: gBELOW fMIDDLE: gTILDE",
   "fPALATAL: gHOOK fRETROFLEX: gHOOK fSTROKE fSWASH: gTAIL cLIGATURE: dFF dFFI dFFL dFI dFL dIJ",
   "dLONG: eS: fT dOE dST bSUBSCRIPT: cSMALL: dLETTER: eA eE eH eI eJ eK eL eM eN eO eP eR eS",
   "eSCHWA eT eU eV eX aLEAF: bFLUTTERING: cIN: dWIND aLEAFY: bGREEN aLEDGER aLEFT: bAND: cLOWER:",
   "dAND: eRIGHT: fTRIANGULAR: gTHREE: hQUARTERS: iBLOCK dONE: eEIGHTH: fBLOCK cRIGHT: dDOUBLE:",
   "eTURNSTILE dTACK dTRIANGULAR: eHALF: fBLOCK cUPPER: dAND: eRIGHT: fTRIANGULAR: gTHREE:",
   "hQUARTERS: iBLOCK dONE: eEIGHTH: fBLOCK bANGER: cBUBBLE bANGLE: cBRACKET dWITH: eDOT bARC:",
   "cLESS-THAN: dBRACKET bARROW: cWITH: dCIRCLED: ePLUS dSMALL: eCIRCLE bBARB: cDOWN: dRIGHT:",
   "eBARB: fDOWN: gHARPOON fUP: gHARPOON cUP: dRIGHT: eBARB: fDOWN: gHARPOON fUP: gHARPOON bBLACK:",
   "cLENTICULAR: dBRACKET cTORTOISE: dSHELL: eBRACKET bCEILING bCLOSED: cENTRY bCORNER: cBRACKET",
   "bCURLY: cBRACKET dLOWER: eHOOK dMIDDLE: ePIECE dUPPER: eHOOK bDOTTED: cSUBSTITUTION: dBRACKET",
   "bDOUBLE: cANGLE: dBRACKET cPARENTHESIS cQUOTATION: dMARK cWIGGLY: dFENCE bFISH: cTAIL bFIVE:",
   "cEIGHTHS: dBLOCK bFLOOR bHALF: cBLACK: dCIRCLE dSTAR cBLOCK cCIRCLE dWITH: eDOT eFOUR: fDOTS",
   "eTHREE: fDOTS eTWO: fDOTS cFOLDER cINVERSE: dMEDIUM: eSHADE: fAND: gRIGHT: hHALF: iBLOCK",
   "cMEDIUM: dSHADE cRUNNING: dMAN bHAND: cTELEPHONE: dRECEIVER bLOW: cPARAPHRASE: dBRACKET",
   "bLUGGAGE bMULTIMAP bNORMAL: cFACTOR: dSEMIDIRECT: ePRODUCT bONE: cEIGHTH: dBLOCK cQUARTER:",
   "dBLOCK bOUTER: cJOIN bPARENTHESIS cEXTENSION cLOWER: dHOOK cUPPER: dHOOK bRAISED: cOMISSION:",
   "dBRACKET bRIGHT: cARROW dTHROUGH: eSMALL: fCIRCLE dWITH: eDOUBLE: fVERTICAL: gSTROKE eSTROKE",
   "eVERTICAL: fSTROKE cBLACK: dARROW cDOUBLE: dARROW eWITH: fSTROKE fVERTICAL: gSTROKE",
   "cOPEN-HEADED: dARROW cSANS-SERIF: dARROW cTRIANGLE-HEADED: dARROW cWAVE: dARROW cWHITE: dARROW",
   "bS-SHAPED: cBAG: dDELIMITER bSEMIDIRECT: cPRODUCT bSEVEN: cEIGHTHS: dBLOCK bSIDEWAYS: cU:",
   "dBRACKET bSINGLE: cQUOTATION: dMARK bSPEECH: cBUBBLE bSQUARE: cBRACKET dEXTENSION dLOWER:",
   "eCORNER dUPPER: eCORNER dWITH: eDOUBLE: fSTROKE eQUILL eSTROKE eTICK: fIN: gBOTTOM: hCORNER",
   "gTOP: hCORNER eUNDERBAR bSUBSTITUTION: cBRACKET bTACK bTHIRD: cWHITE: dRIGHT: ePOINTING:",
   "fINDEX bTHOUGHT: cBUBBLE bTHREE: cEIGHTHS: dBLOCK cQUARTERS: dBLOCK bTORTOISE: cSHELL:",
   "dBRACKET bTRANSPOSITION: cBRACKET bTRIANGLE: cBESIDE: dVERTICAL: eBAR bTRIANGULAR: cONE:",
   "dQUARTER: eBLOCK bVERTICAL: cBAR: dWITH: eQUILL cBOX: dLINE bWHITE: cCORNER: dBRACKET cCURLY:",
   "dBRACKET cLENTICULAR: dBRACKET cPARENTHESIS cSQUARE: dBRACKET cTORTOISE: dSHELL: eBRACKET",
   "bWIGGLY: cFENCE bWRITING: cHAND aLEFT-FACING: bARMENIAN: cETERNITY: dSIGN bFIST bSVASTI: cSIGN",
   "dWITH: eDOTS aLEFT-HANDED: bINTERLACED: cPENTAGRAM aLEFT-POINTING: bANGLE: cBRACKET bCURVED:",
   "cANGLE: dBRACKET bDOUBLE: cANGLE: dQUOTATION: eMARK bMAGNIFYING: cGLASS aLEFT-SHADED: bWHITE:",
   "cRIGHTWARDS: dARROW aLEFT-SIDE: bARC: cANTICLOCKWISE: dARROW aLEFT-TO-RIGHT: bEMBEDDING",
   "bISOLATE bMARK bOVERRIDE aLEFTWARDS: bARROW cABOVE: dALMOST: eEQUAL: fTO dREVERSE: eALMOST:",
   "fEQUAL: gTO eTILDE: fOPERATOR dSHORT: eRIGHTWARDS: fARROW dTILDE: eOPERATOR cAND: dUPPER:",
   "eAND: fLOWER: gONE: hEIGHTH: iBLOCK cFROM: dBAR eTO: fBLACK: gDIAMOND cOVER: dRIGHTWARDS:",
   "eARROW cTHROUGH: dLESS-THAN dSUBSET dX cTO: dBAR eOVER: fRIGHTWARDS: gARROW: hTO: iBAR dBLACK:",
   "eDIAMOND cWITH: dDOTTED: eSTEM dDOUBLE: eVERTICAL: fSTROKE dEQUILATERAL: eARROWHEAD dHOOK",
   "dLARGE: eTRIANGLE: fARROWHEAD dLOOP dMEDIUM: eTRIANGLE: fARROWHEAD dNOTCHED: eTAIL dPLUS:",
   "eBELOW dSMALL: eEQUILATERAL: fARROWHEAD eTRIANGLE: fARROWHEAD dSTROKE dTAIL eWITH: fDOUBLE:",
   "gVERTICAL: hSTROKE fVERTICAL: gSTROKE dTIP: eDOWNWARDS eUPWARDS dVERTICAL: eSTROKE bARROW-TAIL",
   "bBACK-TILTED: cSHADOWED: dWHITE: eARROW bBLACK: cARROW cCIRCLED: dWHITE: eARROW",
   "bBOTTOM-SHADED: cWHITE: dARROW bCOMPRESSED: cARROW bDASHED: cARROW bDOUBLE: cARROW dFROM: eBAR",
   "dWITH: eSTROKE eVERTICAL: fSTROKE cARROW-TAIL cDASH: dARROW bFINGER-POST: cARROW",
   "bFRONT-TILTED: cSHADOWED: dWHITE: eARROW bHAND bHARPOON: cOVER: dRIGHTWARDS: eHARPOON cWITH:",
   "dBARB: eDOWN: fABOVE: gRIGHTWARDS: hHARPOON: iWITH: jBARB: kDOWN fBELOW: gLONG: hDASH fFROM:",
   "gBAR fTO: gBAR eDOWNWARDS eUP: fABOVE: gLEFTWARDS: hHARPOON: iWITH: jBARB: kDOWN gLONG: hDASH",
   "gRIGHTWARDS: hHARPOON: iWITH: jBARB: kUP fFROM: gBAR fTO: gBAR eUPWARDS bHEAVY: cARROW",
   "cCOMPRESSED: dARROW bLEFT-SHADED: cWHITE: dARROW bOPEN-HEADED: cARROW bPAIRED: cARROWS",
   "bQUADRUPLE: cARROW bRIGHT-SHADED: cWHITE: dARROW bROCKET bSANS-SERIF: cARROW bSQUARED: cARROW",
   "bSQUIGGLE: cARROW bTOP: cSHADED: dWHITE: eARROW bTRIANGLE: cARROWHEAD bTRIANGLE-HEADED: cARROW",
   "dOVER: eRIGHTWARDS: fTRIANGLE-HEADED: gARROW dTO: eBAR dWITH: eBOLD: fSHAFT eDOUBLE:",
   "fHORIZONTAL: gSTROKE fVERTICAL: gSTROKE eHEAVY: fSHAFT eLONG: fTIP: gDOWNWARDS gUPWARDS",
   "eMEDIUM: fSHAFT eNARROW: fSHAFT eVERY: fHEAVY: gSHAFT cDASHED: dARROW cPAIRED: dARROWS",
   "bTRIPLE: cARROW cDASH: dARROW bTWO: cHEADED: dARROW bTWO-HEADED: cARROW: dFROM: eBAR dWITH:",
   "eDOUBLE: fVERTICAL: gSTROKE eTAIL fWITH: gDOUBLE: hVERTICAL: iSTROKE gVERTICAL: hSTROKE",
   "eTRIANGLE: fARROWHEADS eVERTICAL: fSTROKE cTRIPLE: dDASH: eARROW bWAVE: cARROW bWHITE: cARROW",
   "dWITHIN: eTRIANGLE: fARROWHEAD aLEG aLEMON aLEO aLEOPARD aLEPCHA: bCONSONANT: cSIGN: dK dKANG",
   "dL dM dN dNYIN-DO dP dR dT bDIGIT: cEIGHT cFIVE cFOUR cNINE cONE cSEVEN cSIX cTHREE cTWO cZERO",
   "bLETTER: cA cBA cBLA cCA cCHA cDA cDDA cDZA cFA cFLA cGA cGLA cHA cHLA cJA cKA cKHA cKLA cLA",
   "cMA cMLA cNA cNGA cNYA cPA cPHA cPLA cRA cSA cSHA cTA cTHA cTSA cTSHA cTTA cTTHA cVA cWA cYA",
   "bPUNCTUATION: cCER-WA cNYET: dTHYOOM: eTA-ROL cTA-ROL cTSHOOK dCER-WA bSIGN: cNUKTA cRAN",
   "bSUBJOINED: cLETTER: dRA dYA bVOWEL: cSIGN: dAA dE dI dO dOO dU dUU aLESS-THAN: bABOVE:",
   "cDOUBLE-LINE: dEQUAL: eABOVE: fGREATER-THAN cGREATER-THAN: dABOVE: eDOUBLE-LINE: fEQUAL",
   "cLEFTWARDS: dARROW cSIMILAR: dABOVE: eGREATER-THAN dOR: eEQUAL cSLANTED: dEQUAL: eABOVE:",
   "fGREATER-THAN: gABOVE: hSLANTED: iEQUAL bAND: cNOT: dAPPROXIMATE cSINGLE-LINE: dNOT: eEQUAL:",
   "fTO bBUT: cNOT: dEQUAL: eTO dEQUIVALENT: eTO bCLOSED: cBY: dCURVE eABOVE: fSLANTED: gEQUAL",
   "bEQUAL: cTO: dOR: eGREATER-THAN bOR: cAPPROXIMATE cEQUAL: dTO cEQUIVALENT: dTO cGREATER-THAN",
   "cSLANTED: dEQUAL: eTO fWITH: gDOT: hABOVE iRIGHT hINSIDE bOVER: cEQUAL: dTO bSIGN bWITH:",
   "cCIRCLE: dINSIDE cDOT cQUESTION: dMARK: eABOVE aLEVEL: bSLIDER aLF aLIBRA aLIGATURE: bOPEN:",
   "cET: dORNAMENT aLIGHT: bCHECK: cMARK bEIGHT: cSPOKED: dASTERISK bFIVE: cPOINTED: dBLACK: eSTAR",
   "cSPOKED: dASTERISK bFOUR: cPOINTED: dBLACK: eCUSP eSTAR bGREEK: cCROSS bLEFT: cTORTOISE:",
   "dSHELL: eBRACKET: fORNAMENT bRAIL bRIGHT: cTORTOISE: dSHELL: eBRACKET: fORNAMENT bSALTIRE",
   "bSHADE bSIX: cSPOKED: dASTERISK bTHREE: cPOINTED: dBLACK: eSTAR bTWELVE: cPOINTED: dBLACK:",
   "eSTAR bVERTICAL: cBAR bWHITE: cSQUARE aLIGHTNING bMOOD cBUBBLE aLIMBU: bDIGIT: cEIGHT cFIVE",
   "cFOUR cNINE cONE cSEVEN cSIX cTHREE cTWO cZERO bEXCLAMATION: cMARK bLETTER: cBA cBHA cCA cCHA",
   "cDA cDHA cGA cGHA cGYAN cHA cJA cJHA cKA cKHA cLA cMA cNA cNGA cPA cPHA cRA cSA cSHA cSSA cTA",
   "cTHA cTRA cWA cYA cYAN bQUESTION: cMARK bSIGN: cKEMPHRENG cLOO cMUKPHRENG cSA-I bSMALL:",
   "cLETTER: dANUSVARA dKA dLA dMA dNA dNGA dPA dRA dTA bSUBJOINED: cLETTER: dRA dWA dYA bVOWEL:",
   "cSIGN: dA dAI dAU dE dEE dI dO dOO dU bVOWEL-CARRIER: cLETTER aLIMITED: bLIABILITY: cSIGN",
   "aLINE: bFEED bINTEGRATION: cNOT: dINCLUDING: eTHE: fPOLE cWITH: dRECTANGULAR: ePATH: fAROUND:",
   "gPOLE dSEMICIRCULAR: ePATH: fAROUND: gPOLE bSEPARATOR bTABULATION cSET aLINEAR: bA: cSIGN:",
   "dA028B dA100-102 dA120B dA131C dA301 dA302 dA303 dA304 dA305 dA306 dA307 dA308 dA309A dA309B",
   "dA309C dA310 dA311 dA312 dA313A dA313B dA313C dA314 dA315 dA316 dA317 dA318 dA319 dA320 dA321",
   "dA322 dA323 dA324 dA325 dA326 dA327 dA328 dA329 dA330 dA331 dA332 dA333 dA334 dA335 dA336",
   "dA337 dA338 dA339 dA340 dA341 dA342 dA343 dA344 dA345 dA346 dA347 dA348 dA349 dA350 dA351",
   "dA352 dA353 dA354 dA355 dA356 dA357 dA358 dA359 dA360 dA361 dA362 dA363 dA364 dA365 dA366",
   "dA367 dA368 dA369 dA370 dA371 dA400-VAS dA401-VAS dA402-VAS dA403-VAS dA404-VAS dA405-VAS",
   "dA406-VAS dA407-VAS dA408-VAS dA409-VAS dA410-VAS dA411-VAS dA412-VAS dA413-VAS dA414-VAS",
   "dA415-VAS dA416-VAS dA417-VAS dA418-VAS dA501 dA502 dA503 dA504 dA505 dA506 dA508 dA509 dA510",
   "dA511 dA512 dA513 dA515 dA516 dA520 dA521 dA523 dA524 dA525 dA526 dA527 dA528 dA529 dA530",
   "dA531 dA532 dA534 dA535 dA536 dA537 dA538 dA539 dA540 dA541 dA542 dA545 dA547 dA548 dA549",
   "dA550 dA551 dA552 dA553 dA554 dA555 dA556 dA557 dA559 dA563 dA564 dA565 dA566 dA568 dA569",
   "dA570 dA571 dA572 dA573 dA574 dA575 dA576 dA577 dA578 dA579 dA580 dA581 dA582 dA583 dA584",
   "dA585 dA586 dA587 dA588 dA589 dA591 dA592 dA594 dA595 dA596 dA598 dA600 dA601 dA602 dA603",
   "dA604 dA606 dA608 dA609 dA610 dA611 dA612 dA613 dA614 dA615 dA616 dA617 dA618 dA619 dA620",
   "dA621 dA622 dA623 dA624 dA626 dA627 dA628 dA629 dA634 dA637 dA638 dA640 dA642 dA643 dA644",
   "dA645 dA646 dA648 dA649 dA651 dA652 dA653 dA654 dA655 dA656 dA657 dA658 dA659 dA660 dA661",
   "dA662 dA663 dA664 dA701: eA dA702: eB dA703: eD dA704: eE dA705: eF dA706: eH dA707: eJ dA708:",
   "eK dA709: eL dA709-2: eL2 dA709-3: eL3 dA709-4: eL4 dA709-6: eL6 dA710: eW dA711: eX dA712: eY",
   "dA713: eOMEGA dA714: eABB dA715: eBB dA717: eDD dA726: eEYYY dA732: eJE dA800 dA801 dA802",
   "dA803 dA804 dA805 dA806 dA807 dAB001 dAB002 dAB003 dAB004 dAB005 dAB006 dAB007 dAB008 dAB009",
   "dAB010 dAB011 dAB013 dAB016 dAB017 dAB020 dAB021 dAB021F dAB021M dAB022 dAB022F dAB022M dAB023",
   "dAB023M dAB024 dAB026 dAB027 dAB028 dAB029 dAB030 dAB031 dAB034 dAB037 dAB038 dAB039 dAB040",
   "dAB041 dAB044 dAB045 dAB046 dAB047 dAB048 dAB049 dAB050 dAB051 dAB053 dAB054 dAB055 dAB056",
   "dAB057 dAB058 dAB059 dAB060 dAB061 dAB065 dAB066 dAB067 dAB069 dAB070 dAB073 dAB074 dAB076",
   "dAB077 dAB078 dAB079 dAB080 dAB081 dAB082 dAB085 dAB086 dAB087 dAB118 dAB120 dAB122 dAB123",
   "dAB131A dAB131B dAB164 dAB171 dAB180 dAB188 dAB191 bB: cIDEOGRAM: dB100: eMAN dB102: eWOMAN",
   "dB104: eDEER dB105: eEQUID dB105F: eMARE dB105M: eSTALLION dB106F: eEWE dB106M: eRAM dB107F:",
   "eSHE-GOAT dB107M: eHE-GOAT dB108F: eSOW dB108M: eBOAR dB109F: eCOW dB109M: eBULL dB120: eWHEAT",
   "dB121: eBARLEY dB122: eOLIVE dB123: eSPICE dB125: eCYPERUS dB130: eOIL dB131: eWINE dB132",
   "dB140: eBRONZE dB141: eGOLD dB142 dB145: eWOOL dB146 dB150 dB151: eHORN dB152 dB153 dB154",
   "dB157 dB158 dB159: eCLOTH dB160 dB161 dB162: eGARMENT dB163: eARMOUR dB164 dB165 dB166 dB167",
   "dB168 dB169 dB170 dB171 dB172 dB173: eMONTH dB174 dB176: eTREE dB177 dB178 dB179 dB180 dB181",
   "dB182 dB183 dB184 dB185 dB189 dB190 dB191: eHELMET dB220: eFOOTSTOOL dB225: eBATHTUB dB230:",
   "eSPEAR dB231: eARROW dB232 dB233: eSWORD dB234 dB236 dB240: eWHEELED: fCHARIOT dB241: eCHARIOT",
   "dB242: eCHARIOT: fFRAME dB243: eWHEEL dB245 dB246 dB248 dB249 dB251 dB252 dB253 dB254: eDART",
   "dB255 dB256 dB257 dB258 dB259 dVESSEL: eB155 eB200 eB201 eB202 eB203 eB204 eB205 eB206 eB207",
   "eB208 eB209 eB210 eB211 eB212 eB213 eB214 eB215 eB216 eB217 eB218 eB219 eB221 eB222 eB226",
   "eB227 eB228 eB229 eB250 eB305 cMONOGRAM: dB127: eKAPO dB128: eKANAKO dB133: eAREPA dB135:",
   "eMERI dB156: eTURO2 dB247: eDIPTE cSYLLABLE: dB001: eDA dB002: eRO dB003: ePA dB004: eTE",
   "dB005: eTO dB006: eNA dB007: eDI dB008: eA dB009: eSE dB010: eU dB011: ePO dB012: eSO dB013:",
   "eME dB014: eDO dB015: eMO dB016: eQA dB017: eZA dB020: eZO dB021: eQI dB023: eMU dB024: eNE",
   "dB025: eA2 dB026: eRU dB027: eRE dB028: eI dB029: ePU2 dB030: eNI dB031: eSA dB032: eQO dB033:",
   "eRA3 dB036: eJO dB037: eTI dB038: eE dB039: ePI dB040: eWI dB041: eSI dB042: eWO dB043: eA3",
   "dB044: eKE dB045: eDE dB046: eJE dB048: eNWA dB050: ePU dB051: eDU dB052: eNO dB053: eRI",
   "dB054: eWA dB055: eNU dB057: eJA dB058: eSU dB059: eTA dB060: eRA dB061: eO dB062: ePTE dB065:",
   "eJU dB066: eTA2 dB067: eKI dB068: eRO2 dB069: eTU dB070: eKO dB071: eDWE dB072: ePE dB073: eMI",
   "dB074: eZE dB075: eWE dB076: eRA2 dB077: eKA dB078: eQE dB080: eMA dB081: eKU dB085: eAU",
   "dB087: eTWE dB090: eDWO dB091: eTWO cSYMBOL: dB018 dB019 dB022 dB034 dB047 dB049 dB056 dB063",
   "dB064 dB079 dB082 dB083 dB086 dB089 aLINK: bSYMBOL aLINKED: bPAPERCLIPS aLION: bFACE aLIPS",
   "aLIPSTICK aLIRA: bSIGN aLISU: bLETTER: cA cAE cBA cCA cCHA cDA cDZA cE cEU cFA cGA cGHA cHA",
   "cHHA cI cJA cKA cKHA cLA cMA cNA cNGA cO cOE cPA cPHA cSA cSHA cTA cTHA cTONE: dMYA: eBO eCYA",
   "eJEU eNA eTI dNA: ePO cTSA cTSHA cU cUE cUH cWA cXA cYA cYHA cZA cZHA bPUNCTUATION: cCOMMA",
   "cFULL: dSTOP aLIVRE: bTOURNOIS: cSIGN aLIZARD aLLAMA aLOBSTER aLOCK bWITH: cINK: dPEN",
   "aLOCKING-SHIFT: bONE bZERO aLOGICAL: bAND cWITH: dDOT: eABOVE dDOUBLE: eOVERBAR eUNDERBAR",
   "dHORIZONTAL: eDASH dMIDDLE: eSTEM dUNDERBAR bOR cOVERLAPPING: dLOGICAL: eAND cWITH: dDOT:",
   "eABOVE dDOUBLE: eOVERBAR eUNDERBAR dHORIZONTAL: eDASH dMIDDLE: eSTEM aLOLLIPOP aLONG: bDASH:",
   "cFROM: dLEFT: eMEMBER: fOF: gDOUBLE: hVERTICAL bDIVISION bDRUM bLEFT: cRIGHT: dARROW dDOUBLE:",
   "eARROW cTACK bLEFTWARDS: cARROW dFROM: eBAR cDOUBLE: dARROW eFROM: fBAR cSQUIGGLE: dARROW",
   "bRIGHT: cTACK bRIGHTWARDS: cARROW dFROM: eBAR cDOUBLE: dARROW eFROM: fBAR cSQUIGGLE: dARROW",
   "aLOTION: bBOTTLE aLOTUS aLOUDLY: bCRYING: cFACE aLOVE: bHOTEL bLETTER aLOW: bASTERISK bBATTERY",
   "bBRIGHTNESS: cSYMBOL bDOUBLE: cPRIME: dQUOTATION: eMARK bKAVYKA cWITH: dDOT bLINE aLOWER:",
   "bBLADE: cSCISSORS bFIVE: cEIGHTHS: dBLOCK bHALF: cBLOCK cCIRCLE cINVERSE: dWHITE: eCIRCLE",
   "cMEDIUM: dSHADE bLEFT: cBALLPOINT: dPEN cBLOCK: dDIAGONAL: eLOWER: fMIDDLE: gLEFT: hTO:",
   "iLOWER: jCENTRE jRIGHT eUPPER: fCENTRE: gTO: hLOWER: iMIDDLE: jRIGHT iRIGHT hUPPER: iMIDDLE:",
   "jRIGHT fLEFT: gTO: hLOWER: iCENTRE iMIDDLE: jRIGHT hUPPER: iMIDDLE: jRIGHT fMIDDLE: gLEFT:",
   "hTO: iLOWER: jCENTRE jMIDDLE: kRIGHT jRIGHT cCRAYON cFOUNTAIN: dPEN cPAINTBRUSH cPENCIL",
   "cQUADRANT: dCIRCULAR: eARC cSEMICIRCULAR: dANTICLOCKWISE: eARROW cTRIANGLE cTRIANGULAR:",
   "dMEDIUM: eSHADE bONE: cEIGHTH: dBLOCK cQUARTER: dBLOCK bRIGHT: cBLOCK: dDIAGONAL: eLOWER:",
   "fCENTRE: gTO: hLOWER: iMIDDLE: jRIGHT hUPPER: iMIDDLE: jRIGHT iRIGHT fLEFT: gTO: hLOWER:",
   "iMIDDLE: jRIGHT hUPPER: iCENTRE iMIDDLE: jRIGHT fMIDDLE: gLEFT: hTO: iUPPER: jCENTRE jMIDDLE:",
   "kRIGHT jRIGHT eUPPER: fMIDDLE: gLEFT: hTO: iUPPER: jCENTRE jRIGHT cCORNER: dWITH: eDOT",
   "cDROP-SHADOWED: dWHITE: eSQUARE cPENCIL cQUADRANT: dCIRCULAR: eARC cSEMICIRCULAR: dCLOCKWISE:",
   "eARROW cSHADOWED: dWHITE: eCIRCLE eSQUARE cTRIANGLE cTRIANGULAR: dMEDIUM: eSHADE bSEVEN:",
   "cEIGHTHS: dBLOCK bTHREE: cEIGHTHS: dBLOCK cQUARTERS: dBLOCK bTRIANGULAR: cONE: dQUARTER:",
   "eBLOCK aLOZENGE bDIVIDED: cBY: dHORIZONTAL: eRULE aLRE aLRI aLRM aLRO aLUGGAGE aLUNGS aLYCIAN:",
   "bLETTER: cA cAN cB cBH cD cE cEN cG cH cI cJ cK cKK cL cM cMM cN cNN cP cQ cR cS cT cTH cTT cU",
   "cW cX cZ aLYDIAN: bLETTER: cA cAN cB cC cD cE cEN cF cG cI cK cL cLY cM cN cNN cO cQ cR cS cSS",
   "cT cTT cU cV cY bTRIANGULAR: cMARK aLYING: bFACE aMACRON aMAGE aMAGIC: bWAND aMAGNET",
   "aMAHAJANI: bABBREVIATION: cSIGN bLETTER: cA cBA cBHA cCA cCHA cDA cDDA cDDHA cDHA cE cGA cGHA",
   "cHA cI cJA cJHA cKA cKHA cLA cMA cNA cNNA cNYA cO cPA cPHA cRA cRRA cSA cTA cTHA cTTA cTTHA cU",
   "cVA bLIGATURE: cSHRI bSECTION: cMARK bSIGN: cNUKTA aMAHJONG: bTILE: cAUTUMN cBACK cBAMBOO",
   "cCHRYSANTHEMUM cEAST: dWIND cEIGHT: dOF: eBAMBOOS eCHARACTERS eCIRCLES cFIVE: dOF: eBAMBOOS",
   "eCHARACTERS eCIRCLES cFOUR: dOF: eBAMBOOS eCHARACTERS eCIRCLES cGREEN: dDRAGON cJOKER cNINE:",
   "dOF: eBAMBOOS eCHARACTERS eCIRCLES cNORTH: dWIND cONE: dOF: eBAMBOOS eCHARACTERS eCIRCLES",
   "cORCHID cPLUM cRED: dDRAGON cSEVEN: dOF: eBAMBOOS eCHARACTERS eCIRCLES cSIX: dOF: eBAMBOOS",
   "eCHARACTERS eCIRCLES cSOUTH: dWIND cSPRING cSUMMER cTHREE: dOF: eBAMBOOS eCHARACTERS eCIRCLES",
   "cTWO: dOF: eBAMBOOS eCHARACTERS eCIRCLES cWEST: dWIND cWHITE: dDRAGON cWINTER aMAKASAR: bANGKA",
   "bEND: cOF: dSECTION bLETTER: cA cBA cCA cDA cGA cJA cKA cLA cMA cNA cNGA cNYA cPA cRA cSA cTA",
   "cVA cYA bPASSIMBANG bVOWEL: cSIGN: dE dI dO dU aMALAYALAM: bAU: cLENGTH: dMARK bDATE: cMARK",
   "bDIGIT: cEIGHT cFIVE cFOUR cNINE cONE cSEVEN cSIX cTHREE cTWO cZERO bFRACTION: cONE: dEIGHTH",
   "dFIFTH dFORTIETH dHALF dONE-HUNDRED-AND-SIXTIETH dQUARTER dSIXTEENTH dTENTH dTWENTIETH cTHREE:",
   "dEIGHTIETHS dQUARTERS dSIXTEENTHS dTWENTIETHS bLETTER: cA cAA cAI cARCHAIC: dII cAU cBA cBHA",
   "cCA cCHA cCHILLU: dK dL dLL dLLL dM dN dNN dRR dY cDA cDDA cDDHA cDHA cDOT: dREPH cE cEE cGA",
   "cGHA cHA cI cII cJA cJHA cKA cKHA cLA cLLA cLLLA cMA cNA cNGA cNNA cNNNA cNYA cO cOO cPA cPHA",
   "cRA cRRA cSA cSHA cSSA cTA cTHA cTTA cTTHA cTTTA cU cUU cVA cVEDIC: dANUSVARA cVOCALIC: dL dLL",
   "dR dRR cYA bNUMBER: cONE: dHUNDRED dTHOUSAND cTEN bSIGN: cANUSVARA cAVAGRAHA cCANDRABINDU",
   "cCIRCULAR: dVIRAMA cCOMBINING: dANUSVARA: eABOVE cPARA cVERTICAL: dBAR: eVIRAMA cVIRAMA",
   "cVISARGA bVOWEL: cSIGN: dAA dAI dAU dE dEE dI dII dO dOO dU dUU dVOCALIC: eL eLL eR eRR aMALE:",
   "bAND: cFEMALE: dSIGN bSIGN bWITH: cSTROKE: dAND: eMALE: fAND: gFEMALE: hSIGN dSIGN aMALTESE:",
   "bCROSS aMAMMOTH aMAN bAND: cWOMAN: dHOLDING: eHANDS bDANCING bIN: cBUSINESS: dSUIT:",
   "eLEVITATING cTUXEDO bWITH: cGUA: dPI: eMAO cTURBAN aMANAT: bSIGN aMANDAIC: bAFFRICATION: cMARK",
   "bGEMINATION: cMARK bLETTER: cAB cAD cAG cAH cAIN cAK cAKSA cAL cAM cAN cAP cAQ cAR cAS cASH",
   "cASZ cAT cATT cAZ cDUSHENNA cHALQA cIN cIT cKAD cUSHENNA bPUNCTUATION bVOCALIZATION: cMARK",
   "aMANGO aMANICHAEAN: bABBREVIATION: cMARK: dABOVE dBELOW bLETTER: cAAYIN cALEPH cAYIN cBETH",
   "cBHETH cDALETH cDHAMEDH cFE cGHIMEL cGIMEL cHE cHETH cJAYIN cJHAYIN cKAPH cKHAPH cLAMEDH cMEM",
   "cNUN cPE cQHOPH cQOPH cRESH cSADHE cSAMEKH cSHIN cSSHIN cTAW cTETH cTHAMEDH cWAW cXAPH cXOPH",
   "cYODH cZAYIN cZHAYIN bNUMBER: cFIVE cONE dHUNDRED cTEN cTWENTY bPUNCTUATION: cDOT dWITHIN:",
   "eDOT cDOUBLE: dDOT: eWITHIN: fDOT cFLEURON cLINE: dFILLER cSTAR cTWO: dDOTS bSIGN: cUD aMANS:",
   "bSHOE aMANTELPIECE: bCLOCK aMANUAL: bWHEELCHAIR aMAP: bSYMBOL: cFOR: dLIGHTHOUSE aMAPLE: bLEAF",
   "aMARCHEN: bHEAD: cMARK bLETTER: c-A cA cBA cCA cCHA cDA cDZA cGA cHA cJA cKA cKHA cLA cMA cNA",
   "cNGA cNYA cPA cPHA cRA cSA cSHA cTA cTHA cTSA cTSHA cWA cYA cZA cZHA bMARK: cSHAD bSIGN:",
   "cANUSVARA cCANDRABINDU bSUBJOINED: cLETTER: dA dBA dCA dCHA dDA dDZA dGA dHA dJA dKA dKHA dLA",
   "dMA dNA dNGA dNYA dPA dPHA dRA dSA dSHA dTA dTHA dTSA dTSHA dWA dYA dZA dZHA bVOWEL: cSIGN:",
   "dAA dE dI dO dU aMARRIAGE: bSYMBOL aMARTIAL: bARTS: cUNIFORM aMASARAM: bGONDI: cDIGIT: dEIGHT",
   "dFIVE dFOUR dNINE dONE dSEVEN dSIX dTHREE dTWO dZERO cLETTER: dA dAA dAI dAU dBA dBHA dCA dCHA",
   "dDA dDDA dDDHA dDHA dE dGA dGHA dHA dI dII dJA dJHA dJNYA dKA dKHA dKSSA dLA dLLA dMA dNA dNGA",
   "dNNA dNYA dO dPA dPHA dRA dSA dSHA dSSA dTA dTHA dTRA dTTA dTTHA dU dUU dVA dYA cRA-KARA",
   "cREPHA cSIGN: dANUSVARA dCANDRA dHALANTA dNUKTA dVISARGA cVIRAMA cVOWEL: dSIGN: eAA eAI eAU eE",
   "eI eII eO eU eUU eVOCALIC: fR aMASCULINE: bORDINAL: cINDICATOR aMASK: bWORK: cSYMBOL aMASU:",
   "bMARK aMATE: bDRINK aMATHEMATICAL: bBOLD: cCAPITAL: dA dALPHA dB dBETA dC dCHI dD dDELTA",
   "dDIGAMMA dE dEPSILON dETA dF dG dGAMMA dH dI dIOTA dJ dK dKAPPA dL dLAMDA dM dMU dN dNU dO",
   "dOMEGA dOMICRON dP dPHI dPI dPSI dQ dR dRHO dS dSIGMA dT dTAU dTHETA eSYMBOL dU dUPSILON dV dW",
   "dX dXI dY dZ dZETA cDIGIT: dEIGHT dFIVE dFOUR dNINE dONE dSEVEN dSIX dTHREE dTWO dZERO",
   "cEPSILON: dSYMBOL cFRAKTUR: dCAPITAL: eA eB eC eD eE eF eG eH eI eJ eK eL eM eN eO eP eQ eR eS",
   "eT eU eV eW eX eY eZ dSMALL: eA eB eC eD eE eF eG eH eI eJ eK eL eM eN eO eP eQ eR eS eT eU eV",
   "eW eX eY eZ cITALIC: dCAPITAL: eA eALPHA eB eBETA eC eCHI eD eDELTA eE eEPSILON eETA eF eG",
   "eGAMMA eH eI eIOTA eJ eK eKAPPA eL eLAMDA eM eMU eN eNU eO eOMEGA eOMICRON eP ePHI ePI ePSI eQ",
   "eR eRHO eS eSIGMA eT eTAU eTHETA fSYMBOL eU eUPSILON eV eW eX eXI eY eZ eZETA dEPSILON:",
   "eSYMBOL dKAPPA: eSYMBOL dNABLA dPARTIAL: eDIFFERENTIAL dPHI: eSYMBOL dPI: eSYMBOL dRHO:",
   "eSYMBOL dSMALL: eA eALPHA eB eBETA eC eCHI eD eDELTA eE eEPSILON eETA eF eFINAL: fSIGMA eG",
   "eGAMMA eH eI eIOTA eJ eK eKAPPA eL eLAMDA eM eMU eN eNU eO eOMEGA eOMICRON eP ePHI ePI ePSI eQ",
   "eR eRHO eS eSIGMA eT eTAU eTHETA eU eUPSILON eV eW eX eXI eY eZ eZETA dTHETA: eSYMBOL cKAPPA:",
   "dSYMBOL cNABLA cPARTIAL: dDIFFERENTIAL cPHI: dSYMBOL cPI: dSYMBOL cRHO: dSYMBOL cSCRIPT:",
   "dCAPITAL: eA eB eC eD eE eF eG eH eI eJ eK eL eM eN eO eP eQ eR eS eT eU eV eW eX eY eZ",
   "dSMALL: eA eB eC eD eE eF eG eH eI eJ eK eL eM eN eO eP eQ eR eS eT eU eV eW eX eY eZ cSMALL:",
   "dA dALPHA dB dBETA dC dCHI dD dDELTA dDIGAMMA dE dEPSILON dETA dF dFINAL: eSIGMA dG dGAMMA dH",
   "dI dIOTA dJ dK dKAPPA dL dLAMDA dM dMU dN dNU dO dOMEGA dOMICRON dP dPHI dPI dPSI dQ dR dRHO",
   "dS dSIGMA dT dTAU dTHETA dU dUPSILON dV dW dX dXI dY dZ dZETA cTHETA: dSYMBOL bDOUBLE-STRUCK:",
   "cCAPITAL: dA dB dD dE dF dG dI dJ dK dL dM dO dS dT dU dV dW dX dY cDIGIT: dEIGHT dFIVE dFOUR",
   "dNINE dONE dSEVEN dSIX dTHREE dTWO dZERO cSMALL: dA dB dC dD dE dF dG dH dI dJ dK dL dM dN dO",
   "dP dQ dR dS dT dU dV dW dX dY dZ bFALLING: cDIAGONAL bFRAKTUR: cCAPITAL: dA dB dD dE dF dG dJ",
   "dK dL dM dN dO dP dQ dS dT dU dV dW dX dY cSMALL: dA dB dC dD dE dF dG dH dI dJ dK dL dM dN dO",
   "dP dQ dR dS dT dU dV dW dX dY dZ bITALIC: cCAPITAL: dA dALPHA dB dBETA dC dCHI dD dDELTA dE",
   "dEPSILON dETA dF dG dGAMMA dH dI dIOTA dJ dK dKAPPA dL dLAMDA dM dMU dN dNU dO dOMEGA dOMICRON",
   "dP dPHI dPI dPSI dQ dR dRHO dS dSIGMA dT dTAU dTHETA eSYMBOL dU dUPSILON dV dW dX dXI dY dZ",
   "dZETA cEPSILON: dSYMBOL cKAPPA: dSYMBOL cNABLA cPARTIAL: dDIFFERENTIAL cPHI: dSYMBOL cPI:",
   "dSYMBOL cRHO: dSYMBOL cSMALL: dA dALPHA dB dBETA dC dCHI dD dDELTA dDOTLESS: eI eJ dE dEPSILON",
   "dETA dF dFINAL: eSIGMA dG dGAMMA dI dIOTA dJ dK dKAPPA dL dLAMDA dM dMU dN dNU dO dOMEGA",
   "dOMICRON dP dPHI dPI dPSI dQ dR dRHO dS dSIGMA dT dTAU dTHETA dU dUPSILON dV dW dX dXI dY dZ",
   "dZETA cTHETA: dSYMBOL bLEFT: cANGLE: dBRACKET cDOUBLE: dANGLE: eBRACKET cFLATTENED:",
   "dPARENTHESIS cWHITE: dSQUARE: eBRACKET dTORTOISE: eSHELL: fBRACKET bMONOSPACE: cCAPITAL: dA dB",
   "dC dD dE dF dG dH dI dJ dK dL dM dN dO dP dQ dR dS dT dU dV dW dX dY dZ cDIGIT: dEIGHT dFIVE",
   "dFOUR dNINE dONE dSEVEN dSIX dTHREE dTWO dZERO cSMALL: dA dB dC dD dE dF dG dH dI dJ dK dL dM",
   "dN dO dP dQ dR dS dT dU dV dW dX dY dZ bRIGHT: cANGLE: dBRACKET cDOUBLE: dANGLE: eBRACKET",
   "cFLATTENED: dPARENTHESIS cWHITE: dSQUARE: eBRACKET dTORTOISE: eSHELL: fBRACKET bRISING:",
   "cDIAGONAL bSANS-SERIF: cBOLD: dCAPITAL: eA eALPHA eB eBETA eC eCHI eD eDELTA eE eEPSILON eETA",
   "eF eG eGAMMA eH eI eIOTA eJ eK eKAPPA eL eLAMDA eM eMU eN eNU eO eOMEGA eOMICRON eP ePHI ePI",
   "ePSI eQ eR eRHO eS eSIGMA eT eTAU eTHETA fSYMBOL eU eUPSILON eV eW eX eXI eY eZ eZETA dDIGIT:",
   "eEIGHT eFIVE eFOUR eNINE eONE eSEVEN eSIX eTHREE eTWO eZERO dEPSILON: eSYMBOL dITALIC:",
   "eCAPITAL: fA fALPHA fB fBETA fC fCHI fD fDELTA fE fEPSILON fETA fF fG fGAMMA fH fI fIOTA fJ fK",
   "fKAPPA fL fLAMDA fM fMU fN fNU fO fOMEGA fOMICRON fP fPHI fPI fPSI fQ fR fRHO fS fSIGMA fT",
   "fTAU fTHETA gSYMBOL fU fUPSILON fV fW fX fXI fY fZ fZETA eEPSILON: fSYMBOL eKAPPA: fSYMBOL",
   "eNABLA ePARTIAL: fDIFFERENTIAL ePHI: fSYMBOL ePI: fSYMBOL eRHO: fSYMBOL eSMALL: fA fALPHA fB",
   "fBETA fC fCHI fD fDELTA fE fEPSILON fETA fF fFINAL: gSIGMA fG fGAMMA fH fI fIOTA fJ fK fKAPPA",
   "fL fLAMDA fM fMU fN fNU fO fOMEGA fOMICRON fP fPHI fPI fPSI fQ fR fRHO fS fSIGMA fT fTAU",
   "fTHETA fU fUPSILON fV fW fX fXI fY fZ fZETA eTHETA: fSYMBOL dKAPPA: eSYMBOL dNABLA dPARTIAL:",
   "eDIFFERENTIAL dPHI: eSYMBOL dPI: eSYMBOL dRHO: eSYMBOL dSMALL: eA eALPHA eB eBETA eC eCHI eD",
   "eDELTA eE eEPSILON eETA eF eFINAL: fSIGMA eG eGAMMA eH eI eIOTA eJ eK eKAPPA eL eLAMDA eM eMU",
   "eN eNU eO eOMEGA eOMICRON eP ePHI ePI ePSI eQ eR eRHO eS eSIGMA eT eTAU eTHETA eU eUPSILON eV",
   "eW eX eXI eY eZ eZETA dTHETA: eSYMBOL cCAPITAL: dA dB dC dD dE dF dG dH dI dJ dK dL dM dN dO",
   "dP dQ dR dS dT dU dV dW dX dY dZ cDIGIT: dEIGHT dFIVE dFOUR dNINE dONE dSEVEN dSIX dTHREE dTWO",
   "dZERO cITALIC: dCAPITAL: eA eB eC eD eE eF eG eH eI eJ eK eL eM eN eO eP eQ eR eS eT eU eV eW",
   "eX eY eZ dSMALL: eA eB eC eD eE eF eG eH eI eJ eK eL eM eN eO eP eQ eR eS eT eU eV eW eX eY eZ",
   "cSMALL: dA dB dC dD dE dF dG dH dI dJ dK dL dM dN dO dP dQ dR dS dT dU dV dW dX dY dZ bSCRIPT:",
   "cCAPITAL: dA dC dD dG dJ dK dN dO dP dQ dS dT dU dV dW dX dY dZ cSMALL: dA dB dC dD dF dH dI",
   "dJ dK dL dM dN dP dQ dR dS dT dU dV dW dX dY dZ aMAXIMIZE aMAYAN: bNUMERAL: cEIGHT cEIGHTEEN",
   "cELEVEN cFIFTEEN cFIVE cFOUR cFOURTEEN cNINE cNINETEEN cONE cSEVEN cSEVENTEEN cSIX cSIXTEEN",
   "cTEN cTHIRTEEN cTHREE cTWELVE cTWO cZERO aMEASURED: bANGLE cOPENING: dLEFT cWITH: dOPEN: eARM:",
   "fENDING: gIN: hARROW: iPOINTING: jDOWN: kAND: lLEFT lRIGHT jLEFT: kAND: lDOWN lUP jRIGHT:",
   "kAND: lDOWN lUP jUP: kAND: lLEFT lRIGHT bBY bRIGHT: cANGLE: dWITH: eDOT aMEAT: bON: cBONE",
   "aMECHANICAL: bARM bLEG aMEDEFAIDRIN: bCAPITAL: cLETTER: dA dAI dATIU dB dC dD dE dF dG dH dHP",
   "dI dJ dK dKP dL dM dN dNG dNY dO dOE dP dQ dR dS dT dU dV dW dX dY dYU dZ bCOMMA bDIGIT:",
   "cEIGHT cFIVE cFOUR cNINE cONE dALTERNATE: eFORM cSEVEN cSIX cTHREE dALTERNATE: eFORM cTWO",
   "dALTERNATE: eFORM cZERO bEXCLAMATION: cOH bFULL: cSTOP bNUMBER: cEIGHTEEN cELEVEN cFIFTEEN",
   "cFOURTEEN cNINETEEN cSEVENTEEN cSIXTEEN cTEN cTHIRTEEN cTWELVE bSMALL: cLETTER: dA dAI dATIU",
   "dB dC dD dE dF dG dH dHP dI dJ dK dKP dL dM dN dNG dNY dO dOE dP dQ dR dS dT dU dV dW dX dY",
   "dYU dZ bSYMBOL: cAIVA aMEDIEVAL: bCOMMA bEXCLAMATION: cMARK bQUESTION: cMARK aMEDIUM: bBLACK:",
   "cCIRCLE bBOLD: cWHITE: dCIRCLE bEIGHT: cPOINTED: dBLACK: eSTAR cSPOKED: dASTERISK bFIVE:",
   "cSPOKED: dASTERISK bFLATTENED: cLEFT: dPARENTHESIS: eORNAMENT cRIGHT: dPARENTHESIS: eORNAMENT",
   "bFOUR: cPOINTED: dBLACK: eSTAR dPINWHEEL: eSTAR bGREEK: cCROSS bLEFT: cCURLY: dBRACKET:",
   "eORNAMENT cPARENTHESIS: dORNAMENT bLEFT-POINTING: cANGLE: dBRACKET: eORNAMENT bMATHEMATICAL:",
   "cSPACE bRIGHT: cCURLY: dBRACKET: eORNAMENT cPARENTHESIS: dORNAMENT bRIGHT-POINTING: cANGLE:",
   "dBRACKET: eORNAMENT bSALTIRE bSHADE bSIX: cPOINTED: dBLACK: eSTAR cSPOKED: dASTERISK bSMALL:",
   "cWHITE: dCIRCLE bTHREE: cPOINTED: dBLACK: eSTAR dPINWHEEL: eSTAR bVERTICAL: cBAR bWHITE:",
   "cCIRCLE cSQUARE aMEETEI: bMAYEK: cAHANG: dKHUDAM cANJI cAPUN: dIYEK cCHEIKHAN cCHEIKHEI",
   "cDIGIT: dEIGHT dFIVE dFOUR dNINE dONE dSEVEN dSIX dTHREE dTWO dZERO cLETTER: dATIYA dBA dBHAM",
   "dCHA dCHIL dDDA dDDHA dDHOU dDIL dE dGHOU dGOK dHUK dI eLONSUM dJHAM dJIL dKHOU dKOK eLONSUM",
   "dLAI eLONSUM dMIT eLONSUM dNA eLONSUM dNGOU eLONSUM dNNA dNYA dO dPA eLONSUM dPHAM dRAI dSAM",
   "dSHA dSSA dTHOU dTIL eLONSUM dTTA dTTHA dUN dWAI dYANG cLUM: dIYEK cSYLLABLE: dREPETITION:",
   "eMARK cVIRAMA cVOWEL: dSIGN: eAAI eAAU eANAP eAU eCHEINAP eII eINAP eNUNG eONAP eSOUNAP eUNAP",
   "eUU eVISARGA eYENAP cWORD: dREPETITION: eMARK aMELON aMELTING: bFACE aMEMO aMENDE: bKIKAKUI:",
   "cCOMBINING: dNUMBER: eHUNDRED: fTHOUSANDS eHUNDREDS eMILLIONS eTEENS eTEN: fTHOUSANDS eTENS",
   "eTHOUSANDS cDIGIT: dEIGHT dFIVE dFOUR dNINE dONE dSEVEN dSIX dTHREE dTWO cSYLLABLE: dM001: eKI",
   "dM002: eKA dM003: eKU dM004: eWI dM005: eWA dM006: eWU dM007: eMIN dM008: eMAN dM009: eMUN",
   "dM010: eBI dM011: eBA dM012: eBU dM013: eI dM014: eA dM015: eU dM016: eDI dM017: eDA dM018:",
   "eDU dM019: eSI dM020: eSA dM021: eSU dM022: eTI dM023: eTA dM024: eTU dM025: eLI dM026: eLA",
   "dM027: eLU dM028: eJI dM029: eJA dM030: eJU dM031: eYI dM032: eYA dM033: eYU dM034: eFI dM035:",
   "eFA dM036: eFU dM037: eNIN dM038: eNAN dM039: eNUN dM040: eHEE dM041: eHA dM042: eHOO dM043:",
   "eNGGA dM044: eKPEE dM045: eWO dM046: eHUAN dM047: eMBEE dM048: eKO dM049: eWVA dM050: ePU",
   "dM051: ePE dM052: eHEN dM053: eHIN dM054: eLOO dM055: eTE dM056: eGBA dM057: eNGON dM058:",
   "eNYAN dM059: eMEN dM060: eNYON dM061: eWVI dM062: eMBA dM063: eJO dM064: eNDO dM065: eKEE",
   "dM066: ePO dM067: eNDOO dM068: ePI dM069: eTO dM070: eGBO dM071: eGBOO dM072: eMBE dM073: eLE",
   "dM074: eKPU dM075: eFE dM076: eKOO dM077: eVO dM078: eFEE dM079: eSO dM080: eYE dM081: ePEE",
   "dM082: eNGGU dM083: eHEEI dM084: eLEE dM085: eVE dM086: eLONG: fNGGE dM087: eHUN dM088: eFO",
   "dM089: eDEE dM090: eNGGI dM091: eTEE dM092: eKPA dM093: eGBEE dM094: eMON dM095: eKE dM096:",
   "eHE dM097: eBE dM098: eNYEN dM099: ePA dM100: eE dM101: eFAN dM102: ePOO dM103: eBOO dM104:",
   "eTOO dM105: eLONG: fMBOO dM106: eLONG: fNGGOO dM107: eGBE dM108: eKPE dM109: eYEE dM110:",
   "eLONG: fLE dM111: eGA dM112: eKPOO dM113: eJE dM114: eWOO dM115: eNGGEE dM116: eSE dM117: eNEN",
   "dM118: eWE dM119: eNDE dM120: eNGGO dM121: eYO dM122: eMBU dM123: eNDI dM124: eGBI dM125: eNDU",
   "dM126: eWEE dM127: eNGGUA dM128: eHOOU dM129: eNDA dM130: eHAN dM131: eIN dM132: eKPI dM133:",
   "eFOO dM134: eNJOO dM135: eIN dM136: eSOO dM137: eEI dM138: eBO dM139: eWVE dM140: eHO dM141:",
   "eYOO dM142: eLONG: fMBO dM143: eWEI dM144: eVOO dM145: eMBI dM146: eNGGE dM147: eO dM148: eGBU",
   "dM149: eNJEE dM150: eBEE dM151: eVU dM152: eNJA dM153: eLO dM154: eMUAN dM155: eGI dM156:",
   "eNGGOO dM157: eJEE dM158: eKPO dM159: eNGGAA dM160: eJOO dM161: eLONG: fMBE dM162: eSEE dM163:",
   "eEE dM164: eNYIN dM165: eOO dM166: eGUEI dM167: eGUAN dM168: eGU dM169: eNON dM170: eNYUN",
   "dM171: eRA dM172: eMBOO dM173: eVEE dM174: eMBO dM175: eLONG: fJO dM176: eHI dM177: eNGUAN",
   "dM178: eEN dM179: eKUA dM180: eDOO dM181: eDO dM182: eVI dM183: eLONG: fNGGO dM184: eNGEN",
   "dM185: eVA dM186: eHU dM187: eMBUU dM188: eMBEE dM189: eMUEN dM190: eGEE dM191: eNDEE dM192:",
   "eNJU dM193: eHON dM194: eWUI dM195: eAN dM196: eSIA dM197: eFUA aMENORAH: bWITH: cNINE:",
   "dBRANCHES aMENS: bSYMBOL aMERCURY aMEROITIC: bCURSIVE: cFRACTION: dEIGHT: eTWELFTHS dELEVEN:",
   "eTWELFTHS dFIVE: eTWELFTHS dFOUR: eTWELFTHS dNINE: eTWELFTHS dONE: eHALF eTWELFTH dSEVEN:",
   "eTWELFTHS dSIX: eTWELFTHS dTEN: eTWELFTHS dTHREE: eTWELFTHS dTWO: eTWELFTHS cLETTER: dA",
   "dARCHAIC: eSA dBA dDA dE dHHA dI dKA dKHA dLA dMA dNA dNE dO dPA dQA dRA dSA dSE dTA dTE dTO",
   "dWA dYA cLOGOGRAM: dIMN dRMT cNUMBER: dEIGHT eHUNDRED fTHOUSAND eTHOUSAND dEIGHTY: eTHOUSAND",
   "dFIFTY eTHOUSAND dFIVE eHUNDRED fTHOUSAND eTHOUSAND dFORTY eTHOUSAND dFOUR eHUNDRED fTHOUSAND",
   "eTHOUSAND dNINE eHUNDRED fTHOUSAND eTHOUSAND dNINETY: eTHOUSAND dONE eHUNDRED fTHOUSAND",
   "eTHOUSAND dSEVEN eHUNDRED fTHOUSAND eTHOUSAND dSEVENTY eTHOUSAND dSIX eHUNDRED fTHOUSAND",
   "eTHOUSAND dSIXTY eTHOUSAND dTEN eTHOUSAND dTHIRTY eTHOUSAND dTHREE eHUNDRED fTHOUSAND",
   "eTHOUSAND dTWENTY eTHOUSAND dTWO eHUNDRED fTHOUSAND eTHOUSAND bHIEROGLYPHIC: cLETTER: dA dBA",
   "dBA-2 dDA dE dHHA dI dKA dKHA dLA dMA dNA dNA-2 dNE dNE-2 dO dPA dQA dRA dRA-2 dSA dSA-2 dSE",
   "dTA dTA-2 dTE dTE-2 dTO dWA dYA cSYMBOL: dVIDJ dVIDJ-2 aMERPERSON aMESSAGE: bWAITING",
   "aMETRICAL: bBREVE bLONG: cOVER: dSHORT dTWO: eSHORTS bPENTASEME bSHORT: cOVER: dLONG",
   "bTETRASEME bTRISEME bTWO: cSHORTS: dJOINED dOVER: eLONG aMETRO aMIAO: bLETTER: cAH cARCHAIC:",
   "dMA dNA dNGA dZZA cBA cBRI cDA cDDA cDLHA cDLHYA cDZA cDZHA cDZYI cDZZA cFA cGA cGHA cGHHA cHA",
   "cHHA cKA cLA cLHA cLHYA cLYA cMA cMHA cNA cNASALIZATION cNGA cNGHA cNHA cNNA cNNHA cNYA cNYHA",
   "cPA cPLA cQA cQGA cREFORMED: dTONE-1 dTONE-2 dTONE-4 dTONE-5 dTONE-6 dTONE-8 dTSHA cRTE cSA",
   "cSHA cSSA cSYI cTA cTE cTLHA cTLHYA cTONE-2 cTONE-3 cTONE-4 cTONE-5 cTONE-6 cTONE-7 cTONE-8",
   "cTSA cTSE cTSHA cTSSA cTTA cVA cVFA cWA cXA cYI: dDZHA dKA dNNA dPA dTA dTSA dTSHA dTTA cZA",
   "cZHA cZSA cZSHA cZZA cZZSA cZZSYA cZZYA bSIGN: cASPIRATION cCONSONANT: dMODIFIER: eBAR",
   "cREFORMED: dASPIRATION dVOICING bTONE: cABOVE cBELOW cRIGHT cTOP: dRIGHT bVOWEL: cSIGN: dA dAA",
   "dAE dAEE dAHH dAI dAN dANG dAU dE dEA dEI dEN dENG dER dERR dI dIA dIAN dIANG dIE dIG dII dING",
   "dIO dIONG dIU dN dNG dO dOER dOEY dOG dOO dOU dROUNDED: eER eERR dU dUA dUAN dUANG dUEI dUI",
   "dUNG dUOG dUU dVW dW dWO dY dYI dYUI aMICR: bDASH: cSYMBOL bON: cUS: dSYMBOL aMICRO: bSIGN",
   "aMICROBE aMICROPHONE aMICROSCOPE aMIDDLE: bDOT bTHIRD: cWHITE: dRIGHT: ePOINTING: fINDEX",
   "aMIDLINE: bHORIZONTAL: cELLIPSIS aMILITARY: bHELMET bMEDAL aMILKY: bWAY aMILL: bSIGN aMINIBUS",
   "aMINIDISC aMINIMIZE aMINUS: bSIGN cIN: dTRIANGLE cWITH: dCOMMA: eABOVE dDOT: eBELOW dFALLING:",
   "eDOTS dRISING: eDOTS bTILDE aMINUS-OR-PLUS: bSIGN aMINY aMIRROR bBALL aMMSP aMOBILE: bPHONE",
   "cOFF cWITH: dRIGHTWARDS: eARROW: fAT: gLEFT aMODELS aMODERN: bPENTATHLON aMODI: bABBREVIATION:",
   "cSIGN bDANDA bDIGIT: cEIGHT cFIVE cFOUR cNINE cONE cSEVEN cSIX cTHREE cTWO cZERO bDOUBLE:",
   "cDANDA bLETTER: cA cAA cAI cAU cBA cBHA cCA cCHA cDA cDDA cDDHA cDHA cE cGA cGHA cHA cI cII",
   "cJA cJHA cKA cKHA cLA cLLA cMA cNA cNGA cNNA cNYA cO cPA cPHA cRA cSA cSHA cSSA cTA cTHA cTTA",
   "cTTHA cU cUU cVA cVOCALIC: dL dLL dR dRR cYA bSIGN: cANUSVARA cARDHACANDRA cHUVA cVIRAMA",
   "cVISARGA bVOWEL: cSIGN: dAA dAI dAU dE dI dII dO dU dUU dVOCALIC: eL eLL eR eRR aMODIFIER:",
   "bBREVE: cWITH: dINVERTED: eBREVE bLETTER: cACUTE: dACCENT cALVEOLAR: dCLICK cAPOSTROPHE",
   "cBEGIN: dHIGH: eTONE dLOW: eTONE cBILABIAL: dCLICK cCAPITAL: dA dAE dB dBARRED: eB dC dD dE dF",
   "dG dH eWITH: fSTROKE dI dJ dK dL dM dN dO dOU dP dQ dR dREVERSED: eE eN dT dU dV dW cCENTRED:",
   "dLEFT: eHALF: fRING dRIGHT: eHALF: fRING cCHINESE: dTONE: eYANG: fPING fQU fRU fSHANG eYIN:",
   "fPING fQU fRU fSHANG cCIRCUMFLEX: dACCENT cCOLON cCROSS: dACCENT cCYRILLIC: dEN dHARD: eSIGN",
   "dSOFT: eSIGN cDENTAL: dCLICK cDOT: dHORIZONTAL: eBAR dSLASH dVERTICAL: eBAR cDOUBLE:",
   "dAPOSTROPHE dPRIME cDOWN: dARROWHEAD dTACK cEND: dHIGH: eTONE dLOW: eTONE cEXTRA-HIGH:",
   "dDOTTED: eLEFT-STEM: fTONE: gBAR eTONE: fBAR dLEFT-STEM: eTONE: fBAR dTONE: eBAR cEXTRA-LOW:",
   "dDOTTED: eLEFT-STEM: fTONE: gBAR eTONE: fBAR dLEFT-STEM: eTONE: fBAR dTONE: eBAR cGEORGIAN:",
   "dNAR cGLOTTAL: dSTOP eWITH: fSTROKE cGRAVE: dACCENT cHALF: dTRIANGULAR: eCOLON cHIGH: dDOTTED:",
   "eLEFT-STEM: fTONE: gBAR eTONE: fBAR dLEFT-STEM: eTONE: fBAR dTONE: eBAR cLATERAL: dCLICK",
   "cLEFT: dARROWHEAD dHALF: eRING dTACK cLOW: dACUTE: eACCENT dCIRCUMFLEX: eACCENT dDOTTED:",
   "eLEFT-STEM: fTONE: gBAR eTONE: fBAR dDOWN: eARROWHEAD dGRAVE: eACCENT dINVERTED: eEXCLAMATION:",
   "fMARK dLEFT: eARROW eARROWHEAD dLEFT-STEM: eTONE: fBAR dMACRON dRIGHT: eARROWHEAD dRING dTILDE",
   "dTONE: eBAR dUP: eARROWHEAD dVERTICAL: eLINE cLOWER: dRIGHT: eCORNER: fANGLE cMACRON cMID:",
   "dDOTTED: eLEFT-STEM: fTONE: gBAR eTONE: fBAR dLEFT-STEM: eTONE: fBAR dTONE: eBAR cMIDDLE:",
   "dDOUBLE: eACUTE: fACCENT eGRAVE: fACCENT dGRAVE: eACCENT cMINUS: dSIGN cOPEN: dSHELF cPLUS:",
   "dSIGN cPRIME cRAISED: dCOLON dDOWN: eARROW dEXCLAMATION: eMARK dINVERTED: eEXCLAMATION: fMARK",
   "dUP: eARROW cRETROFLEX: dCLICK: eWITH: fRETROFLEX: gHOOK cREVERSED: dCOMMA dGLOTTAL: eSTOP",
   "fWITH: gSTROKE cRHOTIC: dHOOK cRIGHT: dARROWHEAD dHALF: eRING dTACK cSHELF cSHORT: dEQUALS:",
   "eSIGN cSMALL: dA dAE dAIN dALPHA dB eWITH: fHOOK dBARRED: eO dBETA dBOTTOM: eHALF: fO dC",
   "eWITH: fCURL dCAPITAL: eAA eB eG fWITH: gHOOK eH eI fWITH: gSTROKE eINVERTED: fR eL fWITH:",
   "gBELT eN eOE eR eU eY dCHI dCLOSED: eOMEGA eREVERSED: fOPEN: gE dD eWITH: fHOOK gAND: hTAIL",
   "fTAIL dDELTA dDEZH: eDIGRAPH dDOTLESS: eJ: fWITH: gSTROKE hAND: iHOOK dDZ: eDIGRAPH fWITH:",
   "gCURL gRETROFLEX: hHOOK dE dENG dESH dETH dEZH dF dFENG: eDIGRAPH dG eWITH: fHOOK dGAMMA",
   "dGREEK: eGAMMA ePHI dH eWITH: fHOOK fSTROKE dHENG eWITH: fHOOK dI: eWITH: fSTROKE dIOTA dJ",
   "eWITH: fCROSSED-TAIL dK dL eWITH: fBELT fINVERTED: gLAZY: hS fMIDDLE: gTILDE fPALATAL: gHOOK",
   "fRETROFLEX: gHOOK hAND: iBELT dLEZH eWITH: fRETROFLEX: gHOOK dLIGATURE: eOE dLS: eDIGRAPH dLZ:",
   "eDIGRAPH dM eWITH: fHOOK dN: eWITH: fLEFT: gHOOK fRETROFLEX: gHOOK dO eWITH: fSTROKE dOPEN: eE",
   "eO dP dPHI dQ dR eWITH: fFISHHOOK fTAIL dRAMS: eHORN dREVERSED: eE eGLOTTAL: fSTOP eOPEN: fE",
   "dS eWITH: fCURL fHOOK dSCHWA dSCRIPT: eG dSIDEWAYS: eU dT eWITH: fPALATAL: gHOOK fRETROFLEX:",
   "gHOOK dTC: eDIGRAPH: fWITH: gCURL dTESH: eDIGRAPH dTHETA dTOP: eHALF: fO dTS: eDIGRAPH fWITH:",
   "gRETROFLEX: hHOOK dTURNED: eA eAE eALPHA eH eI eM fWITH: gLONG: hLEG eOPEN: fE eR fWITH: gHOOK",
   "gLONG: hLEG iAND: jRETROFLEX: kHOOK eV eW eY fWITH: gBELT dU eBAR eWITH: fLEFT: gHOOK dUPSILON",
   "dV eWITH: fHOOK fRIGHT: gHOOK dW dX dY dZ eWITH: fCURL fRETROFLEX: gHOOK cSTRESS: dAND: eHIGH:",
   "fTONE eLOW: fTONE cSUPERSCRIPT: dHALF: eTRIANGULAR: fCOLON dTRIANGULAR: eCOLON cTRIANGULAR:",
   "dCOLON cTURNED: dCOMMA cUNASPIRATED cUP: dARROWHEAD dTACK cUS cVERTICAL: dLINE cVOICING cYANG:",
   "dDEPARTING: eTONE: fMARK cYIN: dDEPARTING: eTONE: fMARK aMODULO: bTWO: cSUM aMONEY: bBAG",
   "bWITH: cWINGS aMONEY-MOUTH: bFACE aMONGOLIAN: bBIRGA cWITH: dDOUBLE: eORNAMENT dORNAMENT",
   "bCOLON bCOMMA bDIGIT: cEIGHT cFIVE cFOUR cNINE cONE cSEVEN cSIX cTHREE cTWO cZERO bDOUBLE:",
   "cBIRGA: dWITH: eORNAMENT bELLIPSIS bFOUR: cDOTS bFREE: cVARIATION: dSELECTOR: eFOUR eONE",
   "eTHREE eTWO bFULL: cSTOP bINVERTED: cBIRGA dWITH: eDOUBLE: fORNAMENT bLETTER: cA cALI: dGALI:",
   "eA eAH eANUSVARA: fONE eBALUDA eCA eDA eDAGALGA eDAMARU eDDA eHALF: fU fYA eI eINVERTED:",
   "fUBADAMA eKA eNGA eNNA ePA ePHA eSSA eTA eTHREE: fBALUDA eTTA eTTHA eUBADAMA eVISARGA: fONE",
   "eZA eZHA cANG cBA cCHA dWITH: eTWO: fDOTS cCHI cDA cE cEE cFA cGA cHAA cI cJA cKA cKHA cLA",
   "cLHA cMA cMANCHU: dALI: eGALI: fBHA fCA fCYA fDDHA fDHA fGHA fJHA fLHA fNGA fSSA fTA fTTA fZA",
   "fZHA dFA dI dKA dRA dZHA cNA cO cOE cPA cQA cRA cSA cSHA cSIBE: dANG dCHA dDA dE dFA dGA dGAA",
   "dHA dHAA dI dIY dJA dKA dPA dRAA dSHA dTA dTSA dU dUE dZA dZHA cTA cTODO: dALI: eGALI: fTA",
   "fZHA dANG dBA dCHA dDA dDZA dE dGA dGAA dHAA dI dJA dJIA dKA dLONG: eVOWEL: fSIGN dMA dNIA dO",
   "dOE dPA dQA dTA dTSA dU dUE dWA dYA cTSA cU cUE cWA cYA cZA cZHI cZRA bMANCHU: cCOMMA cFULL:",
   "dSTOP bNIRUGU bROTATED: cBIRGA dWITH: eDOUBLE: fORNAMENT eORNAMENT bSIBE: cSYLLABLE:",
   "dBOUNDARY: eMARKER bSWIRL: cBIRGA dWITH: eDOUBLE: fORNAMENT eORNAMENT bTODO: cSOFT: dHYPHEN",
   "bTRIPLE: cBIRGA: dWITH: eORNAMENT bTURNED: cSWIRL: dBIRGA: eWITH: fDOUBLE: gORNAMENT bVOWEL:",
   "cSEPARATOR aMONKEY bFACE aMONOGRAM: bFOR: cEARTH cYANG cYIN aMONORAIL aMONOSTABLE: bSYMBOL",
   "aMOOD: bBUBBLE aMOON: bCAKE bVIEWING: cCEREMONY aMOSQUE aMOSQUITO aMOTHER: bCHRISTMAS aMOTOR:",
   "bBOAT bSCOOTER aMOTORIZED: bWHEELCHAIR aMOTORWAY aMOUNT: bFUJI aMOUNTAIN bBICYCLIST bCABLEWAY",
   "bRAILWAY aMOUSE bFACE bTRAP aMOUTH aMOVIE: bCAMERA aMOYAI aMRO: bDANDA bDIGIT: cEIGHT cFIVE",
   "cFOUR cNINE cONE cSEVEN cSIX cTHREE cTWO cZERO bDOUBLE: cDANDA bLETTER: cA cBA cCHU cDA cDAI",
   "cE cEA cHAI cHAO cKEAAE cKHAI cKO cLA cLAN cMAEM cMIM cNGI cNIN cO cOL cOO cPA cPHI cRI cRO",
   "cSHI cTA cTEK cTHEA cWA cYO aMUCH: bGREATER-THAN bLESS-THAN aMULTANI: bLETTER: cA cBA cBHA cCA",
   "cCHA cDA cDDA cDDDA cDDHA cDHA cE cGA cGHA cHA cI cJA cJJA cKA cKHA cLA cMA cNA cNNA cNYA cPA",
   "cPHA cRA cRHA cRRA cSA cTA cTHA cTTA cTTHA cU cVA cYA bSECTION: cMARK aMULTIMAP aMULTIPLE:",
   "bMUSICAL: cNOTES aMULTIPLICATION: bSIGN cIN: dDOUBLE: eCIRCLE dLEFT: eHALF: fCIRCLE dRIGHT:",
   "eHALF: fCIRCLE dTRIANGLE cWITH: dDOT: eABOVE dUNDERBAR bX aMULTISET bMULTIPLICATION bUNION",
   "aMUSHROOM aMUSIC: bFLAT: cSIGN bNATURAL: cSIGN bSHARP: cSIGN aMUSICAL: bKEYBOARD cWITH: dJACKS",
   "bNOTE bSCORE bSYMBOL: cARPEGGIATO: dDOWN dUP cBEGIN: dBEAM dPHRASE dSLUR dTIE cBRACE cBRACKET",
   "cBREATH: dMARK cBREVE cBREVIS dREST cC: dCLEF cCAESURA cCIRCLE: dX: eNOTEHEAD cCLIMACUS",
   "cCLIVIS cCLUSTER: dNOTEHEAD: eBLACK eWHITE cCODA cCOMBINING: dACCENT dACCENT-STACCATO",
   "dAUGMENTATION: eDOT dBEND dDOIT dDOUBLE: eTONGUE dDOWN: eBOW dFLAG-1 dFLAG-2 dFLAG-3 dFLAG-4",
   "dFLAG-5 dFLIP dHARMONIC dLOURE dMARCATO dMARCATO-STACCATO dRIP dSMEAR dSNAP: ePIZZICATO",
   "dSPRECHGESANG: eSTEM dSTACCATISSIMO dSTACCATO dSTEM dTENUTO dTREMOLO-1 dTREMOLO-2 dTREMOLO-3",
   "dTRIPLE: eTONGUE dUP: eBOW cCOMMON: dTIME cCRESCENDO cCROIX cCUT: dTIME cDA: dCAPO cDAL:",
   "dSEGNO cDAMP dALL cDASHED: dBARLINE cDECRESCENDO cDEGREE: dSLASH cDOUBLE: dBARLINE dFLAT",
   "dSHARP cDRUM: dCLEF-1 dCLEF-2 cEIGHTH: dNOTE dREST cEND: dBEAM dOF: eSTIMME dPHRASE dSLUR dTIE",
   "cF: dCLEF eOTTAVA: fALTA fBASSA cFERMATA dBELOW cFINAL: dBARLINE cFINGERED: dTREMOLO-1",
   "dTREMOLO-2 dTREMOLO-3 cFIVE-LINE: dSTAFF cFLAT: dDOWN dUP cFORTE cFOUR-LINE: dSTAFF",
   "cFOUR-STRING: dFRETBOARD cFUSA: dBLACK dWHITE cG: dCLEF eOTTAVA: fALTA fBASSA cGLISSANDO:",
   "dDOWN dUP cGRACE: dNOTE: eNO: fSLASH eSLASH cGREGORIAN: dC: eCLEF dF: eCLEF cHALF: dNOTE",
   "dPEDAL: eMARK dREST cHAUPTSTIMME cINVERTED: dTURN cKIEVAN: dC: eCLEF dEIGHTH: eNOTE: fSTEM:",
   "gDOWN gUP dEND: eOF: fPIECE dFINAL: eNOTE dFLAT: eSIGN dHALF: eNOTE dQUARTER: eNOTE: fSTEM:",
   "gDOWN gUP dRECITATIVE: eMARK dWHOLE: eNOTE cKORON cLEFT: dREPEAT: eSIGN cLONGA dIMPERFECTA:",
   "eREST dPERFECTA: eREST cMAXIMA cMEZZO cMINIMA dBLACK dREST cMOON: dNOTEHEAD: eBLACK eWHITE",
   "cMULTI: dREST cMULTIPLE: dMEASURE: eREST cNATURAL: dDOWN dUP cNEBENSTIMME cNOTEHEAD: dBLACK",
   "cNULL: dNOTEHEAD cONE: dHUNDRED: eTWENTY-EIGHTH: fNOTE fREST cONE-LINE: dSTAFF cORNAMENT:",
   "dSTROKE-1 dSTROKE-10 dSTROKE-11 dSTROKE-2 dSTROKE-3 dSTROKE-4 dSTROKE-5 dSTROKE-6 dSTROKE-7",
   "dSTROKE-8 dSTROKE-9 cOTTAVA: dALTA dBASSA cPARENTHESIS: dNOTEHEAD cPEDAL: dMARK dUP: eMARK",
   "cPES: dSUBPUNCTIS cPIANO cPLUS: dNOTEHEAD cPODATUS cPORRECTUS dFLEXUS cQUARTER: dNOTE dREST",
   "dTONE: eFLAT eSHARP cQUINDICESIMA: dALTA dBASSA cREPEAT: dDOTS cREPEATED: dFIGURE-1 dFIGURE-2",
   "dFIGURE-3 cREVERSE: dFINAL: eBARLINE cRIGHT: dREPEAT: eSIGN cRINFORZANDO cSCANDICUS dFLEXUS",
   "cSEGNO cSEMIBREVIS: dBLACK dREST dWHITE cSEMIMINIMA: dBLACK dREST dWHITE cSHARP: dDOWN dUP",
   "cSHORT: dBARLINE cSINGLE: dBARLINE cSIX-LINE: dSTAFF cSIX-STRING: dFRETBOARD cSIXTEENTH: dNOTE",
   "dREST cSIXTY-FOURTH: dNOTE dREST cSORI cSQUARE: dB dNOTEHEAD: eBLACK eWHITE cSUBITO cTEMPUS:",
   "dIMPERFECTUM: eCUM: fPROLATIONE: gIMPERFECTA hDIMINUTION-1 hDIMINUTION-2 hDIMINUTION-3",
   "gPERFECTA dPERFECTUM: eCUM: fPROLATIONE: gIMPERFECTA gPERFECTA hDIMINUTION-1 cTHIRTY-SECOND:",
   "dNOTE dREST cTHREE-LINE: dSTAFF cTORCULUS dRESUPINUS cTR cTRIANGLE: dNOTEHEAD: eDOWN: fBLACK",
   "fWHITE eLEFT: fBLACK fWHITE eRIGHT: fBLACK fWHITE eUP: fBLACK fRIGHT: gBLACK gWHITE fWHITE",
   "cTRIANGLE-ROUND: dNOTEHEAD: eDOWN: fBLACK fWHITE cTURN dSLASH dUP cTWO-LINE: dSTAFF cVIRGA",
   "cVOID: dNOTEHEAD cWHOLE: dNOTE dREST cWITH: dFINGERNAILS cX: dNOTEHEAD cZ aMVS aMW aMYANMAR:",
   "bCONSONANT: cSIGN: dMEDIAL: eHA eRA eWA eYA dMON: eMEDIAL: fLA fMA fNA dSHAN: eMEDIAL: fWA",
   "bDIGIT: cEIGHT cFIVE cFOUR cNINE cONE cSEVEN cSIX cTHREE cTWO cZERO bLETTER: cA cAITON: dRA",
   "cAU cBA cBHA cCA cCHA cDA cDDA cDDHA cDHA cE cEASTERN: dPWO: eKAREN: fGHWA fNNA fYWA cGA cGHA",
   "cGREAT: dSA cHA cI cII cJA cJHA cKA cKHA cKHAMTI: dCA dCHA dDDA dDDHA dDHA dFA dGA dHA dHHA",
   "dJA dJHA dLLA dNA dNYA dRA dSA dTTA dTTHA dXA dZA cLA cLLA cMA cMON: dBBA dBBE dE dJHA dNGA",
   "cNA cNGA cNNA cNNYA cNYA cO cPA cPHA cRA cRUMAI: dPALAUNG: eFA cSA cSGAW: dKAREN: eSHA cSHA",
   "cSHAN: dA dBA dBHA dCA dCHA dDA dFA dGA dGHA dHA dJHA dKA dKHA dNA dNNA dNYA dPHA dTHA dZA",
   "cSHWE: dPALAUNG: eCHA eSHA cSSA cTA cTAI: dLAING: eBA eBHA eDA eDDA eDDHA eDHA eFA eGA eGHA",
   "eJA eJHA eLLA eNNA eNYA cTHA cTTA cTTHA cU cUU cVOCALIC: dL dLL dR dRR cWA cWESTERN: dPWO:",
   "eKAREN: fPWA fTHA cYA bLOGOGRAM: cKHAMTI: dHM dOAY dQN bMODIFIER: cLETTER: dKHAMTI:",
   "eREDUPLICATION dSHAN: eREDUPLICATION bSHAN: cDIGIT: dEIGHT dFIVE dFOUR dNINE dONE dSEVEN dSIX",
   "dTHREE dTWO dZERO bSIGN: cANUSVARA cASAT cDOT: dBELOW cKHAMTI: dTONE-1 dTONE-3 cLITTLE:",
   "dSECTION cPAO: dKAREN: eTONE cRUMAI: dPALAUNG: eTONE-5 cSECTION cSHAN: dCOUNCIL: eEMPHATIC:",
   "fTONE eTONE-2 eTONE-3 dSAW dTONE-2 dTONE-3 dTONE-5 dTONE-6 cTAI: dLAING: eTONE-2 eTONE-5",
   "cVIRAMA cVISARGA cWESTERN: dPWO: eKAREN: fTONE-1 fTONE-2 fTONE-3 fTONE-4 fTONE-5 bSYMBOL:",
   "cAFOREMENTIONED cAITON: dEXCLAMATION dONE dTWO cCOMPLETED cGENITIVE cLOCATIVE cSHAN:",
   "dEXCLAMATION dONE bTAI: cLAING: dDIGIT: eEIGHT eFIVE eFOUR eNINE eONE eSEVEN eSIX eTHREE eTWO",
   "eZERO bTONE: cMARK: dSGAW: eKAREN: fHATHI fKE: gPHO bVOWEL: cSIGN: dAA dAI dAITON: eA eAI dE",
   "eABOVE dGEBA: eKAREN: fI dI dII dKAYAH: eEE eOE eU dMON: eII eO dSGAW: eKAREN: fEU dSHAN: eAA",
   "eE fABOVE eFINAL: fY dTALL: eAA dU dUU dVOCALIC: eL eLL eR eRR dWESTERN: ePWO: fKAREN: gEU gUE",
   "aN-ARY: bCIRCLED: cDOT: dOPERATOR cPLUS: dOPERATOR cTIMES: dOPERATOR bCOPRODUCT bINTERSECTION",
   "bLOGICAL: cAND cOR bPRODUCT bSQUARE: cINTERSECTION: dOPERATOR cUNION: dOPERATOR bSUMMATION",
   "bTIMES: cOPERATOR bUNION cOPERATOR: dWITH: eDOT ePLUS bWHITE: cVERTICAL: dBAR aNABATAEAN:",
   "bCRUCIFORM: cNUMBER: dFOUR bLETTER: cALEPH cAYIN cBETH cDALETH cFINAL: dALEPH dBETH dHE dKAPH",
   "dLAMEDH dMEM dNUN dSHIN dYODH cGIMEL cHE cHETH cKAPH cLAMEDH cMEM cNUN cPE cQOPH cRESH cSADHE",
   "cSAMEKH cSHIN cTAW cTETH cWAW cYODH cZAYIN bNUMBER: cFIVE cFOUR cONE dHUNDRED cTEN cTHREE",
   "cTWENTY cTWO aNABLA aNAIL: bPOLISH aNAIRA: bSIGN aNAK aNAME: bBADGE aNAND aNANDINAGARI:",
   "bHEADSTROKE bLETTER: cA cAA cAI cAU cBA cBHA cCA cCHA cDA cDDA cDDHA cDHA cE cGA cGHA cHA cI",
   "cII cJA cJHA cKA cKHA cLA cLLA cMA cNA cNGA cNNA cNYA cO cPA cPHA cRA cRRA cSA cSHA cSSA cTA",
   "cTHA cTTA cTTHA cU cUU cVA cVOCALIC: dR dRR cYA bSIGN: cANUSVARA cAVAGRAHA cSIDDHAM cVIRAMA",
   "cVISARGA bVOWEL: cSIGN: dAA dAI dAU dE dI dII dO dPRISHTHAMATRA: eE dU dUU dVOCALIC: eR eRR",
   "aNARROW: bNO-BREAK: cSPACE aNATIONAL: bDIGIT: cSHAPES bPARK aNAUSEATED: bFACE aNAZAR: bAMULET",
   "aNBH aNBSP aNECKTIE aNEGATED: bDOUBLE: cVERTICAL: dBAR: eDOUBLE: fRIGHT: gTURNSTILE aNEGATIVE:",
   "bACKNOWLEDGE bCIRCLED: cDIGIT: dZERO cLATIN: dCAPITAL: eLETTER: fA fB fC fD fE fF fG fH fI fJ",
   "fK fL fM fN fO fP fQ fR fS fT fU fV fW fX fY fZ cNUMBER: dEIGHTEEN dELEVEN dFIFTEEN dFOURTEEN",
   "dNINETEEN dSEVENTEEN dSIXTEEN dTHIRTEEN dTWELVE dTWENTY cSQUARE cTRIANGLE bDIAGONAL: cCROSS",
   "cDIAMOND cMIDDLE: dRIGHT: eTO: fLOWER: gCENTRE bSQUARED: cAB cCROSS: dMARK cIC cLATIN:",
   "dCAPITAL: eLETTER: fA fB fC fD fE fF fG fH fI fJ fK fL fM fN fO fP fQ fR fS fT fU fV fW fX fY",
   "fZ cPA cQUESTION: dMARK cSA cWC aNEITHER: bA: cSUBSET: dOF: eNOR: fEQUAL: gTO cSUPERSET: dOF:",
   "eNOR: fEQUAL: gTO bAPPROXIMATELY: cNOR: dACTUALLY: eEQUAL: fTO bGREATER-THAN: cNOR: dEQUAL:",
   "eTO dEQUIVALENT: eTO dLESS-THAN bLESS-THAN: cNOR: dEQUAL: eTO dEQUIVALENT: eTO dGREATER-THAN",
   "aNEL aNEPTUNE bFORM: cTWO aNERD: bFACE aNESSUS aNEST: bWITH: cEGGS aNESTING: bDOLLS aNEUTER",
   "aNEUTRAL: bCHESS: cBISHOP dROTATED: eNINETY: fDEGREES eTWO: fHUNDRED: gSEVENTY: hDEGREES",
   "cEQUIHOPPER dROTATED: eNINETY: fDEGREES cKING dROTATED: eNINETY: fDEGREES eTWO: fHUNDRED:",
   "gSEVENTY: hDEGREES cKNIGHT dROTATED: eFORTY-FIVE: fDEGREES eNINETY: fDEGREES eONE: fHUNDRED:",
   "gTHIRTY-FIVE: hDEGREES eTHREE: fHUNDRED: gFIFTEEN: hDEGREES eTWO: fHUNDRED: gSEVENTY: hDEGREES",
   "gTWENTY-FIVE: hDEGREES cPAWN dROTATED: eNINETY: fDEGREES eTWO: fHUNDRED: gSEVENTY: hDEGREES",
   "cQUEEN dROTATED: eNINETY: fDEGREES eTWO: fHUNDRED: gSEVENTY: hDEGREES cROOK dROTATED: eNINETY:",
   "fDEGREES eTWO: fHUNDRED: gSEVENTY: hDEGREES cTURNED: dBISHOP dKING dKNIGHT dPAWN dQUEEN dROOK",
   "bFACE aNEW: bLINE bMOON: cSYMBOL cWITH: dFACE bSHEQEL: cSIGN bTAI: cLUE: dDIGIT: eEIGHT eFIVE",
   "eFOUR eNINE eONE eSEVEN eSIX eTHREE eTWO eZERO dLETTER: eFINAL: fB fD fK fM fN fNG fV eHIGH:",
   "fBA fDA fFA fHA fKA fKVA fLA fMA fNA fNGA fPA fPHA fQA fSA fSUA fTA fTHA fTSA fVA fXA fXVA fYA",
   "eLOW: fBA fDA fFA fHA fKA fKVA fLA fMA fNA fNGA fPA fPHA fQA fSA fSUA fTA fTHA fTSA fVA fXA",
   "fXVA fYA dSIGN: eLAE eLAEV dTHAM: eDIGIT: fONE dTONE: eMARK-1 eMARK-2 dVOWEL: eSIGN: fAA fAAY",
   "fAE fAY fE fII fIY fO fOA fOAY fOY fU fUE fUEY fUU fUY fVOWEL: gSHORTENER aNEWA:",
   "bABBREVIATION: cSIGN bCOMMA bDANDA bDIGIT: cEIGHT cFIVE cFOUR cNINE cONE cSEVEN cSIX cTHREE",
   "cTWO cZERO bDOUBLE: cCOMMA cDANDA bGAP: cFILLER bINSERTION: cSIGN bLETTER: cA cAA cAI cAU cBA",
   "cBHA cCA cCHA cDA cDDA cDDHA cDHA cE cGA cGHA cHA cI cII cJA cJHA cKA cKHA cLA cLHA cMA cMHA",
   "cNA cNGA cNGHA cNHA cNNA cNYA cNYHA cO cPA cPHA cRA cRHA cSA cSHA cSSA cTA cTHA cTTA cTTHA cU",
   "cUU cVEDIC: dANUSVARA cVOCALIC: dL dLL dR dRR cWA cYA bOM bPLACEHOLDER: cMARK bSANDHI: cMARK",
   "bSIDDHI bSIGN: cANUSVARA cAVAGRAHA cCANDRABINDU cFINAL: dANUSVARA cJIHVAMULIYA cNUKTA",
   "cUPADHMANIYA cVIRAMA cVISARGA bVOWEL: cSIGN: dAA dAI dAU dE dI dII dO dU dUU dVOCALIC: eL eLL",
   "eR eRR aNEWLINE: bLEFT bRIGHT aNEWSPAPER aNEXT: bLINE bPAGE aNIGHT: bWITH: cSTARS aNINJA aNKO:",
   "bCOMBINING: cDOUBLE: dDOT: eABOVE cLONG: dDESCENDING: eTONE dHIGH: eTONE dLOW: eTONE dRISING:",
   "eTONE cNASALIZATION: dMARK cSHORT: dHIGH: eTONE dLOW: eTONE dRISING: eTONE bCOMMA bDANTAYALAN",
   "bDIGIT: cEIGHT cFIVE cFOUR cNINE cONE cSEVEN cSIX cTHREE cTWO cZERO bDOROME: cSIGN",
   "bEXCLAMATION: cMARK bHIGH: cTONE: dAPOSTROPHE bLAJANYALAN bLETTER: cA cBA cCHA cDA cDAGBASINNA",
   "cE cEE cFA cGBA cHA cI cJA cJONA: dCHA dJA dRA cKA cLA cMA cN cNA dWOLOSO cNYA dWOLOSO cO cOO",
   "cPA cRA cRRA cSA cTA cU cWA cYA bLOW: cTONE: dAPOSTROPHE bSYMBOL: cGBAKURUNEN cOO: dDENNEN",
   "bTAMAN: cSIGN aNL aNNBSP aNO: bBICYCLES bBREAK: cHERE bENTRY cSIGN bMOBILE: cPHONES bONE:",
   "cUNDER: dEIGHTEEN: eSYMBOL bPEDESTRIANS bPIRACY bSMOKING: cSYMBOL aNO-BREAK: bSPACE aNOMINAL:",
   "bDIGIT: cSHAPES aNOMISMA: bSIGN aNON-BREAKING: bHYPHEN aNON-POTABLE: bWATER: cSYMBOL",
   "aNONFORKING aNOR aNORDIC: bMARK: cSIGN aNORMAL: bSUBGROUP: cOF dOR: eEQUAL: fTO aNORTH: bEAST:",
   "cAND: dSOUTH: eWEST: fARROW cARROW dAND: eSOUTH: fEAST: gARROW dCROSSING: eNORTH: fWEST:",
   "gARROW eSOUTH: fEAST: gARROW dWITH: eHOOK cBLACK: dARROW cDOUBLE: dARROW cPOINTING: dBUD dLEAF",
   "dVINE: eLEAF cSANS-SERIF: dARROW cTRIANGLE-HEADED: dARROW eTO: fBAR cWHITE: dARROW bINDIC:",
   "cFRACTION: dONE: eEIGHTH eHALF eQUARTER eSIXTEENTH dTHREE: eQUARTERS eSIXTEENTHS cPLACEHOLDER:",
   "dMARK cQUANTITY: dMARK cQUARTER: dMARK cRUPEE: dMARK bWEST: cAND: dSOUTH: eEAST: fARROW cARROW",
   "dAND: eNORTH: fEAST: gARROW dCROSSING: eNORTH: fEAST: gARROW dTO: eCORNER eLONG: fBAR dWITH:",
   "eHOOK cBLACK: dARROW cDOUBLE: dARROW cPOINTING: dBUD dLEAF dVINE: eLEAF cSANS-SERIF: dARROW",
   "cTRIANGLE-HEADED: dARROW eTO: fBAR cWHITE: dARROW aNORTHEAST-POINTING: bAIRPLANE aNOSE aNOT:",
   "bA: cSUBSET: dOF cSUPERSET: dOF bALMOST: cEQUAL: dTO bAN: cELEMENT: dOF bASYMPTOTICALLY:",
   "cEQUAL: dTO bCHECK: cMARK bEQUAL: cTO bEQUIVALENT: cTO bGREATER-THAN bIDENTICAL: cTO",
   "bLESS-THAN bNORMAL: cSUBGROUP: dOF eOR: fEQUAL: gTO bPARALLEL: cTO bSIGN bSQUARE: cIMAGE: dOF:",
   "eOR: fEQUAL: gTO cORIGINAL: dOF: eOR: fEQUAL: gTO bTILDE bTRUE aNOTCHED: bLEFT: cSEMICIRCLE:",
   "dWITH: eTHREE: fDOTS bLOWER: cRIGHT-SHADOWED: dWHITE: eRIGHTWARDS: fARROW bRIGHT: cSEMICIRCLE:",
   "dWITH: eTHREE: fDOTS bUPPER: cRIGHT-SHADOWED: dWHITE: eRIGHTWARDS: fARROW aNOTE bPAD bPAGE",
   "aNOTEBOOK bWITH: cDECORATIVE: dCOVER aNUL aNULL aNUMBER: bEIGHTEEN: cFULL: dSTOP bELEVEN:",
   "cFULL: dSTOP bFIFTEEN: cFULL: dSTOP bFOURTEEN: cFULL: dSTOP bNINETEEN: cFULL: dSTOP",
   "bSEVENTEEN: cFULL: dSTOP bSIGN bSIXTEEN: cFULL: dSTOP bTEN: cFULL: dSTOP bTHIRTEEN: cFULL:",
   "dSTOP bTWELVE: cFULL: dSTOP bTWENTY: cFULL: dSTOP aNUMERO: bSIGN aNUSHU: bITERATION: cMARK",
   "aNUT: bAND: cBOLT aNYIAKENG: bPUACHUE: cHMONG: dCIRCLED: eCA dDIGIT: eEIGHT eFIVE eFOUR eNINE",
   "eONE eSEVEN eSIX eTHREE eTWO eZERO dLETTER: eA eAA eCA eDA eDLA eE eEE eFA eGA eHA eHAH eI eKA",
   "eLA eMA eMLA eNA eNCA eNKA eNPA eNPLA eNQA eNRA eNTA eNTSA eNTXA eNYA eO eOO ePA ePLA eQA eRA",
   "eRRA eSA eTA eTSA eTXA eU eVA eW eXA eXYA eYA eZA dLOGOGRAM: eNYAJ dSIGN: eFOR: fANIMAL",
   "fINVERTEBRATE fLOCATION fPERSON fTHING eXW: fXW dSYLLABLE: eLENGTHENER dTONE-B dTONE-D dTONE-G",
   "dTONE-J dTONE-M dTONE-S dTONE-V aOBJECT: bREPLACEMENT: cCHARACTER aOBLIQUE: bANGLE: cOPENING:",
   "dDOWN dUP bHYPHEN aOBSERVER: bEYE: cSYMBOL aOCR: bAMOUNT: cOF: dCHECK bBELT: cBUCKLE bBOW:",
   "cTIE bBRANCH: cBANK: dIDENTIFICATION bCHAIR bCUSTOMER: cACCOUNT: dNUMBER bDASH bDOUBLE:",
   "cBACKSLASH bFORK bHOOK bINVERTED: cFORK aOCTAGONAL: bSIGN aOCTOPUS aODEN aOFFICE: bBUILDING",
   "aOGHAM: bFEATHER: cMARK bLETTER: cAILM cBEITH cCEIRT cCOLL cDAIR cEABHADH cEADHADH",
   "cEAMHANCHOLL cFEARN cGORT cIFIN cIODHADH cLUIS cMUIN cNGEADAL cNION cONN cOR cPEITH cRUIS",
   "cSAIL cSTRAIF cTINNE cUATH cUILLEANN cUR bREVERSED: cFEATHER: dMARK bSPACE: cMARK aOGONEK",
   "aOHM: bSIGN aOIL: bDRUM aOK: bHAND: cSIGN aOL: bCHIKI: cAHAD cDIGIT: dEIGHT dFIVE dFOUR dNINE",
   "dONE dSEVEN dSIX dTHREE dTWO dZERO cGAAHLAA: dTTUDDAAG cLETTER: dAAJ dAAK dAAM dAAW dAG dAL",
   "dANG dAT dEDD dEN dEP dERR dIH dINY dIR dIS dLA dLAA dLE dLI dLO dLU dOB dOH dOTT dOV dUC dUD",
   "dUNN dUY cMU: dTTUDDAG cMU-GAAHLAA: dTTUDDAAG cPHAARKAA cPUNCTUATION: dDOUBLE: eMUCAAD dMUCAAD",
   "cRELAA aOLD: bCHINESE: cHOOK: dMARK cITERATION: dMARK bHUNGARIAN: cCAPITAL: dLETTER: eA eAA",
   "eAK eAMB eAND eCLOSE: fE eE eEB eEC eECH eECS eED eEE eEF eEG eEGY eEH eEJ eEK eEL eELY eEM",
   "eEMP eEN eENC eENT eENT-SHAPED: fSIGN eENY eEP eER eES eESZ eET eETY eEV eEZ eEZS eI eII",
   "eNIKOLSBURG: fOE fUE eO eOEE eOO eRUDIMENTA: fOE fUE eSHORT: fER eU eUNK eUS eUU cNUMBER:",
   "dFIFTY dFIVE dONE eHUNDRED eTHOUSAND dTEN cSMALL: dLETTER: eA eAA eAK eAMB eAND eCLOSE: fE eE",
   "eEB eEC eECH eECS eED eEE eEF eEG eEGY eEH eEJ eEK eEL eELY eEM eEMP eEN eENC eENT",
   "eENT-SHAPED: fSIGN eENY eEP eER eES eESZ eET eETY eEV eEZ eEZS eI eII eNIKOLSBURG: fOE fUE eO",
   "eOEE eOO eRUDIMENTA: fOE fUE eSHORT: fER eU eUNK eUS eUU bITALIC: cLETTER: dA dBE dCHE dDE dE",
   "dEF dEKS dEL dEM dEN dER dERS dES dESH dESS dHE dI dII dKA dKE dKHE dKU dNORTHERN: eTSE dO dPE",
   "dPHE dSHE dSOUTHERN: eTSE dTE dTHE dU dUU dVE dYE dZE cNUMERAL: dFIFTY dFIVE dONE dTEN bKEY",
   "bNORTH: cARABIAN: dLETTER: eAIN eALEF eBEH eDAD eDAL eES-1 eES-2 eES-3 eFEH eGEEM eGHAIN eHAH",
   "eHEH eKAF eKHAH eLAM eMEEM eNOON eQAF eREH eSAD eTAH eTEH eTHAL eTHEH eWAW eYEH eZAH eZAIN",
   "dNUMBER: eONE eTEN eTWENTY bPERMIC: cLETTER: dAN dBUR dCHERY dDOI dDZHOI dDZITA dE dEF dGAI",
   "dHA dI dIA dIE dKOKE dLEI dMENOE dNENOE dO dOO dPEEI dREI dSHCHOOI dSHOOI dSII dTAI dTSIU dU",
   "dVER dVOOI dYA dYAT dYER dYERI dYERU dYRY dYU dZATA dZHOI bPERSIAN: cNUMBER: dHUNDRED dONE",
   "dTEN dTWENTY dTWO cSIGN: dA dAURAMAZDAA dAURAMAZDAA-2 dAURAMAZDAAHA dBA dBAGA dBUUMISH dCA dDA",
   "dDAHYAAUSH dDAHYAAUSH-2 dDI dDU dFA dGA dGU dHA dI dJA dJI dKA dKU dLA dMA dMI dMU dNA dNU dPA",
   "dRA dRU dSA dSHA dSSA dTA dTHA dTU dU dVA dVI dXA dXSHAAYATHIYA dYA dZA cWORD: dDIVIDER",
   "bPERSONAL: cCOMPUTER bSOGDIAN: cFRACTION: dONE: eHALF cLETTER: dALEPH dALTERNATE: eAYIN dAYIN",
   "dBETH dFINAL: eALEPH eBETH eHE eNUN fWITH: gVERTICAL: hTAIL eSADHE fWITH: gVERTICAL: hTAIL",
   "eTAW fWITH: gVERTICAL: hTAIL dGIMEL dHE dHETH dKAPH dLAMEDH dMEM dNUN dPE dRESH-AYIN-DALETH",
   "dSADHE dSAMEKH dSHIN dTAW dWAW dYODH dZAYIN cLIGATURE: dAYIN-DALETH cNUMBER: dFIVE dFOUR dONE",
   "eHUNDRED dTEN dTHIRTY dTHREE dTWENTY dTWO bSOUTH: cARABIAN: dLETTER: eALEF eAYN eBETH eDALETH",
   "eDHADHE eDHALETH eFE eGHAYN eGIMEL eHE eHETH eKAPH eKHETH eLAMEDH eMEM eNUN eQOPH eRESH eSADHE",
   "eSAMEKH eSAT eSHIN eTAW eTETH eTHAW eTHETH eWAW eYODH eZAYN dNUMBER: eFIFTY eONE dNUMERIC:",
   "eINDICATOR bTURKIC: cLETTER: dORKHON: eA eAB eAD eAEB eAED eAEG eAEK eAEL eAEN eAER eAES eAET",
   "eAEY eAG eAL eAN eAQ eAR eAS eASH eAT eAY eBASH eEC eELT eEM eENC eENG eENT eENY eEP eESH eEZ",
   "eI eIC eIQ eO eOE eOEK eOP eOQ eOT dYENISEI: eA eAB eAD eAE eAEB eAEG eAEK eAEN eAENG eAET",
   "eAEY eAG eAL eANG eAQ eAR eASH eAT eAY eE eEC eENC eENT eENY eESH eEZ eI eIQ eOE eOEK eOQ",
   "bUYGHUR: cCOMBINING: dDOT: eABOVE eBELOW dTWO: eDOTS: fABOVE fBELOW cLETTER: dALEPH dBETH",
   "dFINAL: eHETH dGIMEL-HETH dKAPH dLAMEDH dLESH dMEM dNUN dPE dRESH dSADHE dSAMEKH dSHIN dTAW",
   "dWAW dYODH dZAYIN cPUNCTUATION: dBAR dFOUR: eDOTS dTWO: eBARS eDOTS aOLDER: bADULT bMAN bWOMAN",
   "aOLIVE aOM: bSYMBOL aON: bWITH: cEXCLAMATION: dMARK: eWITH: fLEFT: gRIGHT: hARROW: iABOVE",
   "aONCOMING: bAUTOMOBILE bBUS bFIRE: cENGINE bPOLICE: cCAR bTAXI aONE: bBUTTON: cMOUSE bDOT:",
   "cLEADER cOVER: dTWO: eDOTS: fPUNCTUATION aONE-PIECE: bSWIMSUIT aONION aOPEN: bBOOK bBOX",
   "bCENTRE: cASTERISK cBLACK: dSTAR cCROSS cTEARDROP-SPOKED: dASTERISK bFILE: cFOLDER bFOLDER",
   "bHANDS: cSIGN bLOCK bMAILBOX: cWITH: dLOWERED: eFLAG dRAISED: eFLAG bSUBSET bSUPERSET",
   "aOPEN-CIRCUIT-OUTPUT: bH-TYPE: cSYMBOL bL-TYPE: cSYMBOL aOPEN-OUTLINED: bRIGHTWARDS: cARROW",
   "aOPERATING: bSYSTEM: cCOMMAND aOPHIUCHUS aOPPOSITION aOPTICAL: bDISC cICON aOPTION: bKEY aOR:",
   "bWITH: cDOT: dINSIDE aORANGE: bBOOK bHEART aORANGUTAN aORIGINAL: bOF aORIYA: bAI: cLENGTH:",
   "dMARK bAU: cLENGTH: dMARK bDIGIT: cEIGHT cFIVE cFOUR cNINE cONE cSEVEN cSIX cTHREE cTWO cZERO",
   "bFRACTION: cONE: dEIGHTH dHALF dQUARTER dSIXTEENTH cTHREE: dQUARTERS dSIXTEENTHS bISSHAR",
   "bLETTER: cA cAA cAI cAU cBA cBHA cCA cCHA cDA cDDA cDDHA cDHA cE cGA cGHA cHA cI cII cJA cJHA",
   "cKA cKHA cLA cLLA cMA cNA cNGA cNNA cNYA cO cPA cPHA cRA cRHA cRRA cSA cSHA cSSA cTA cTHA cTTA",
   "cTTHA cU cUU cVA cVOCALIC: dL dLL dR dRR cWA cYA cYYA bSIGN: cANUSVARA cAVAGRAHA cCANDRABINDU",
   "cNUKTA cOVERLINE cVIRAMA cVISARGA bVOWEL: cSIGN: dAA dAI dAU dE dI dII dO dU dUU dVOCALIC: eL",
   "eLL eR eRR aORNATE: bLEFT: cPARENTHESIS bRIGHT: cPARENTHESIS aORTHODOX: bCROSS aOSAGE:",
   "bCAPITAL: cLETTER: dA dAH dAI dAIN dBRA dCHA dDHA dE dEHCHA dEHKA dEHPA dEHTA dEHTSA dEIN dGHA",
   "dHA dHYA dI dKA dKHA dKYA dLA dMA dNA dO dOIN dPA dSA dSHA dTA dTSA dTSHA dU dWA dZA dZHA",
   "bSMALL: cLETTER: dA dAH dAI dAIN dBRA dCHA dDHA dE dEHCHA dEHKA dEHPA dEHTA dEHTSA dEIN dGHA",
   "dHA dHYA dI dKA dKHA dKYA dLA dMA dNA dO dOIN dPA dSA dSHA dTA dTSA dTSHA dU dWA dZA dZHA aOSC",
   "aOSMANYA: bDIGIT: cEIGHT cFIVE cFOUR cNINE cONE cSEVEN cSIX cTHREE cTWO cZERO bLETTER: cA cAA",
   "cALEF cBA cCAYN cDEEL cDHA cE cEE cFA cGA cHA cI cJA cKAAF cKHA cLAAN cMIIN cNUUN cO cOO cQAAF",
   "cRA cSA cSHIIN cTA cU cWAW cXA cYA aOTTER aOTTOMAN: bSIYAQ: cALTERNATE: dNUMBER: eEIGHT eFIVE",
   "eFOUR fHUNDRED eNINE eSEVEN eSIX fHUNDRED eTEN fTHOUSAND eTHREE eTWO fTHOUSAND cFRACTION:",
   "dONE: eHALF eSIXTH cMARRATAN cNUMBER: dEIGHT eHUNDRED eTHOUSAND dEIGHTY eTHOUSAND dFIFTY",
   "eTHOUSAND dFIVE eHUNDRED eTHOUSAND dFORTY eTHOUSAND dFOUR eHUNDRED eTHOUSAND dNINE eHUNDRED",
   "eTHOUSAND dNINETY eTHOUSAND dONE eHUNDRED eTHOUSAND dSEVEN eHUNDRED eTHOUSAND dSEVENTY",
   "eTHOUSAND dSIX eHUNDRED eTHOUSAND dSIXTY eTHOUSAND dTEN eTHOUSAND dTHIRTY eTHOUSAND dTHREE",
   "eHUNDRED eTHOUSAND dTWENTY eTHOUSAND dTWO eHUNDRED eTHOUSAND aOUNCE: bSIGN aOUTBOX: bTRAY",
   "aOUTLINED: bBLACK: cSTAR bGREEK: cCROSS bLATIN: cCROSS bWHITE: cSTAR aOVERHEATED: bFACE",
   "aOVERLAP aOVERLAPPING: bBLACK: cSQUARES bWHITE: cAND: dBLACK: eSQUARES cSQUARES aOVERLINE aOWL",
   "aOX aOYSTER aPACKAGE aPAD aPADDING: bCHARACTER aPAGE bFACING: cUP bWITH: cCIRCLED: dTEXT cCURL",
   "aPAGER aPAGES aPAGODA aPAHAWH: bHMONG: cCLAN: dSIGN: eFAJ eHAM eHAWJ eKHAB eKOO eKWM eLAUJ",
   "eLIS eMUAS ePHAB eTHOJ eTSAB eTSHEEJ eTSWB eVAJ eVWJ eXYOOJ eYAJ eYEEG cCONSONANT: dAU dCAU",
   "dCHAU dHAU dHLAU dHNAU dLAU dMAU dNAU dNCHAU dNKAU dNLAU dNTHAU dNTSAU dPLHAU dQHAU dRAU dVAU",
   "dXAU dYAU cDIGIT: dEIGHT dFIVE dFOUR dNINE dONE dSEVEN dSIX dTHREE dTWO dZERO cMARK: dCIM:",
   "eHOM eKES eKHAV eSO eSUAM eTAUM eTUB cNUMBER: dHUNDRED: eMILLIONS dHUNDREDS dMILLIONS dTEN:",
   "eBILLIONS eTHOUSANDS dTENS dTRILLIONS cSIGN: dAV dCIM: eCHEEM eCUAM: fTSHOOJ eHAIS: fLUS:",
   "gNTOG: hNTOG eNRES: fTOS ePUB: fDAWB eTSOV: fROG eTXWV fCHWV dHLI dHNUB dIB: eYAM dLOS dMEEJ:",
   "eSUAB eTSEEB dMUS dNQIG dNTUJ dTAU dTHIRD-STAGE: eHLI dTXHEEJ: eCEEV dVOS: eFEEM eLUB eNRUA",
   "eSEEV eTHIAB eTHOM eTSHAB: fCEEB dXAUS dXIAB dXYEEM: eFAIB eNTXIV eRHO eTOV dXYOO dZWJ: eTHAJ",
   "cVOWEL: dKAAB dKAAV dKAB dKAIB dKAIV dKAUB dKAUV dKAV dKAWB dKAWV dKEB dKEEB dKEEV dKEV dKIAB",
   "dKIAV dKIB dKIV dKOB dKOOB dKOOV dKOV dKUAB dKUAV dKUB dKUV dKWB dKWV aPALLAS aPALM: bBRANCH",
   "bDOWN: cHAND bTREE bUP: cHAND aPALMS: bUP: cTOGETHER aPALMYRENE: bLEFT-POINTING: cFLEURON",
   "bLETTER: cALEPH cAYIN cBETH cDALETH cFINAL: dNUN cGIMEL cHE cHETH cKAPH cLAMEDH cMEM cNUN cPE",
   "cQOPH cRESH cSADHE cSAMEKH cSHIN cTAW cTETH cWAW cYODH cZAYIN bNUMBER: cFIVE cFOUR cONE cTEN",
   "cTHREE cTWENTY cTWO bRIGHT-POINTING: cFLEURON aPANCAKES aPANDA: bFACE aPAPERCLIP aPARACHUTE",
   "aPARAGRAPH: bSEPARATOR aPARAGRAPHOS aPARAGRAPHUS: bMARK aPARALLEL: bTO bWITH: cHORIZONTAL:",
   "dSTROKE cTILDE: dOPERATOR aPARENTHESIZED: bDIGIT: cEIGHT cFIVE cFOUR cNINE cONE cSEVEN cSIX",
   "cTHREE cTWO bHANGUL: cCHIEUCH dA cCIEUC dA dU cHIEUH dA cIEUNG dA cKHIEUKH dA cKIYEOK dA",
   "cMIEUM dA cNIEUN dA cPHIEUPH dA cPIEUP dA cRIEUL dA cSIOS dA cTHIEUTH dA cTIKEUT dA",
   "bIDEOGRAPH: cALLIANCE cCALL cCONGRATULATION cEARTH cEIGHT cENTERPRISE cFESTIVAL cFINANCIAL",
   "cFIRE cFIVE cFOUR cHAVE cLABOR cMETAL cMOON cNAME cNINE cONE cREACH cREPRESENT cRESOURCE cREST",
   "cSELF cSEVEN cSIX cSOCIETY cSPECIAL cSTOCK cSTUDY cSUN cSUPERVISE cTEN cTHREE cTWO cWATER",
   "cWOOD bKOREAN: cCHARACTER: dO: eHU dOJEON bLATIN: cCAPITAL: dLETTER: eA eB eC eD eE eF eG eH",
   "eI eJ eK eL eM eN eO eP eQ eR eS eT eU eV eW eX eY eZ cSMALL: dLETTER: eA eB eC eD eE eF eG eH",
   "eI eJ eK eL eM eN eO eP eQ eR eS eT eU eV eW eX eY eZ bNUMBER: cEIGHTEEN cELEVEN cFIFTEEN",
   "cFOURTEEN cNINETEEN cSEVENTEEN cSIXTEEN cTEN cTHIRTEEN cTWELVE cTWENTY aPARROT aPART:",
   "bALTERNATION: cMARK aPARTIAL: bDIFFERENTIAL bLINE: cBACKWARD cDOWN cFORWARD cUP",
   "aPARTIALLY-RECYCLED: bPAPER: cSYMBOL aPARTNERSHIP: bSIGN aPARTY: bPOPPER aPASSED: bSYMBOL",
   "aPASSENGER: bSHIP aPASSIVE-PULL-DOWN-OUTPUT: bSYMBOL aPASSIVE-PULL-UP-OUTPUT: bSYMBOL",
   "aPASSPORT: bCONTROL aPAU: bCIN: cHAU: dGLOTTAL: eSTOP fFINAL fVARIANT dLETTER: eA eBA eCA eCHA",
   "eDA eE eFA eFINAL: fK fL fM fN fNG fP fT fW fY eGA eHA eI eIA eKA eKHA eLA eMA eNA eNGA eO ePA",
   "ePHA eRA eSA eTA eTHA eU eUA eVA eZA dLOW-FALLING: eTONE fFINAL fLONG gFINAL dMID-LEVEL: eTONE",
   "fFINAL fLONG: gFINAL dRISING: eTONE fFINAL fLONG gFINAL dSANDHI: eGLOTTAL: fSTOP gFINAL eTONE",
   "fFINAL fLONG gFINAL aPAW: bPRINTS aPDF aPDI aPEACE: bSYMBOL aPEACH aPEACOCK aPEANUTS aPEAR",
   "aPEDESTRIAN aPEN: bOVER: cSTAMPED: dENVELOPE aPENCIL aPENGUIN aPENSIVE: bFACE aPENTAGRAM",
   "aPEOPLE: bHUGGING aPER: bMILLE: cSIGN bSIGN bTEN: cTHOUSAND: dSIGN aPERCENT: bSIGN",
   "aPERFORMING: bARTS aPERMANENT: bPAPER: cSIGN aPERPENDICULAR bWITH: cS aPERSEVERING: bFACE",
   "aPERSON: bBOWING: cDEEPLY bCLIMBING bDOING: cCARTWHEEL bFROWNING bIN: cLOTUS: dPOSITION",
   "cSTEAMY: dROOM bRAISING: cBOTH: dHANDS: eIN: fCELEBRATION bWITH: cBALL cBLOND: dHAIR cCROWN",
   "cFOLDED: dHANDS cHEADSCARF cPOUTING: dFACE aPERSONAL: bCOMPUTER aPERSPECTIVE aPESETA: bSIGN",
   "aPESO: bSIGN aPETRI: bDISH aPHAGS-PA: bDOUBLE: cHEAD: dMARK bLETTER: cA cALTERNATE: dYA",
   "cASPIRATED: dFA cBA cCA cCANDRABINDU cCHA cDA cDDA cDZA cE cEE cFA cGA cGGA cHA cI cJA cKA",
   "cKHA cLA cMA cNA cNGA cNNA cNYA cO cPA cPHA cQA cRA cSA cSHA cSMALL: dA cTA cTHA cTSA cTSHA",
   "cTTA cTTHA cU cVOICED: dHA cVOICELESS: dSHA cWA cXA cYA cZA cZHA bMARK: cDOUBLE: dSHAD cSHAD",
   "bSINGLE: cHEAD: dMARK bSUBJOINED: cLETTER: dRA dWA dYA bSUPERFIXED: cLETTER: dRA aPHAISTOS:",
   "bDISC: cSIGN: dARROW dBEE dBEEHIVE dBOOMERANG dBOW dBULLS: eLEG dCAPTIVE dCARPENTRY: ePLANE",
   "dCAT dCHILD dCLUB dCOLUMN dCOMB dCOMBINING: eOBLIQUE: fSTROKE dDOLIUM dDOVE dEAGLE dFLUTE",
   "dGAUNTLET dGRATER dHELMET dHIDE dHORN dLID dLILY dMANACLES dMATTOCK dOX: eBACK dPAPYRUS",
   "dPEDESTRIAN dPLANE: eTREE dPLUMED: eHEAD dRAM dROSETTE dSAW dSHIELD dSHIP dSLING dSMALL: eAXE",
   "dSTRAINER dTATTOOED: eHEAD dTIARA dTUNNY dVINE dWAVY: eBAND dWOMAN aPHILIPPINE: bDOUBLE:",
   "cPUNCTUATION bSINGLE: cPUNCTUATION aPHOENICIAN: bLETTER: cAIN cALF cBET cDELT cGAML cHE cHET",
   "cKAF cLAMD cMEM cNUN cPE cQOF cROSH cSADE cSEMK cSHIN cTAU cTET cWAU cYOD cZAI bNUMBER: cONE",
   "dHUNDRED cTEN cTHREE cTWENTY cTWO bWORD: cSEPARATOR aPHOLUS aPICK aPICKUP: bTRUCK aPIE aPIG",
   "bFACE bNOSE aPILCROW: bSIGN aPILE: bOF: cPOO aPILL aPINATA aPINCHED: bFINGERS aPINCHING: bHAND",
   "aPINE: bDECORATION aPINEAPPLE aPINWHEEL: bSTAR aPISCES aPISTOL aPITCHFORK bWITH: cTEE: dTOP",
   "aPLACARD aPLACE: bOF: cINTEREST: dSIGN cWORSHIP aPLANCK: bCONSTANT cOVER: dTWO: ePI",
   "aPLAYGROUND: bSLIDE aPLAYING: bCARD: cACE: dOF: eCLUBS eDIAMONDS eHEARTS eSPADES cBACK cBLACK:",
   "dJOKER cEIGHT: dOF: eCLUBS eDIAMONDS eHEARTS eSPADES cFIVE: dOF: eCLUBS eDIAMONDS eHEARTS",
   "eSPADES cFOOL cFOUR: dOF: eCLUBS eDIAMONDS eHEARTS eSPADES cJACK: dOF: eCLUBS eDIAMONDS",
   "eHEARTS eSPADES cKING: dOF: eCLUBS eDIAMONDS eHEARTS eSPADES cKNIGHT: dOF: eCLUBS eDIAMONDS",
   "eHEARTS eSPADES cNINE: dOF: eCLUBS eDIAMONDS eHEARTS eSPADES cQUEEN: dOF: eCLUBS eDIAMONDS",
   "eHEARTS eSPADES cRED: dJOKER cSEVEN: dOF: eCLUBS eDIAMONDS eHEARTS eSPADES cSIX: dOF: eCLUBS",
   "eDIAMONDS eHEARTS eSPADES cTEN: dOF: eCLUBS eDIAMONDS eHEARTS eSPADES cTHREE: dOF: eCLUBS",
   "eDIAMONDS eHEARTS eSPADES cTRUMP-1 cTRUMP-10 cTRUMP-11 cTRUMP-12 cTRUMP-13 cTRUMP-14 cTRUMP-15",
   "cTRUMP-16 cTRUMP-17 cTRUMP-18 cTRUMP-19 cTRUMP-2 cTRUMP-20 cTRUMP-21 cTRUMP-3 cTRUMP-4",
   "cTRUMP-5 cTRUMP-6 cTRUMP-7 cTRUMP-8 cTRUMP-9 cTWO: dOF: eCLUBS eDIAMONDS eHEARTS eSPADES",
   "cWHITE: dJOKER aPLD aPLU aPLUNGER aPLUS: bSIGN cABOVE: dEQUALS: eSIGN cIN: dLEFT: eHALF:",
   "fCIRCLE dRIGHT: eHALF: fCIRCLE dTRIANGLE cWITH: dBLACK: eTRIANGLE dCIRCUMFLEX: eACCENT: fABOVE",
   "dDOT: eBELOW dSMALL: eCIRCLE: fABOVE dSUBSCRIPT: eTWO dTILDE: eABOVE eBELOW aPLUS-MINUS: bSIGN",
   "aPLUTO bFORM: cFIVE cFOUR cTHREE cTWO aPM aPOCKET: bCALCULATOR aPOLICE: bCAR bCARS:",
   "cREVOLVING: dLIGHT bOFFICER aPOODLE aPOP: bDIRECTIONAL: cFORMATTING cISOLATE aPOPCORN",
   "aPORTABLE: bSTEREO aPOSEIDON aPOSITION: bINDICATOR aPOSTAL: bHORN bMARK cFACE aPOSTBOX aPOT:",
   "bOF: cFOOD aPOTABLE: bWATER: cSYMBOL aPOTATO aPOTTED: bPLANT aPOUCH aPOULTRY: bLEG aPOUND:",
   "bSIGN aPOURING: bLIQUID aPOUTING: bCAT: cFACE bFACE aPOWER: bON: cSYMBOL bON-OFF: cSYMBOL",
   "bSLEEP: cSYMBOL bSYMBOL aPRAYER: bBEADS aPRECEDES bABOVE: cALMOST: dEQUAL: eTO cEQUALS: dSIGN",
   "cNOT: dALMOST: eEQUAL: fTO dEQUAL: eTO cSINGLE-LINE: dEQUALS: eSIGN dNOT: eEQUAL: fTO bBUT:",
   "cNOT: dEQUIVALENT: eTO bOR: cEQUAL: dTO cEQUIVALENT: dTO bUNDER: cRELATION aPREGNANT: bMAN",
   "bPERSON bWOMAN aPRESCRIPTION: bTAKE aPRESENTATION: bFORM: cFOR: dVERTICAL: eCOLON eCOMMA eEM:",
   "fDASH eEN: fDASH eEXCLAMATION: fMARK eHORIZONTAL: fELLIPSIS eIDEOGRAPHIC: fCOMMA fFULL: gSTOP",
   "eLEFT: fANGLE: gBRACKET fBLACK: gLENTICULAR: hBRACKET fCORNER: gBRACKET fCURLY: gBRACKET",
   "fDOUBLE: gANGLE: hBRACKET fPARENTHESIS fSQUARE: gBRACKET fTORTOISE: gSHELL: hBRACKET fWHITE:",
   "gCORNER: hBRACKET gLENTICULAR: hBRACKET eLOW: fLINE eQUESTION: fMARK eRIGHT: fANGLE: gBRACKET",
   "fBLACK: gLENTICULAR: hBRACKET fCORNER: gBRACKET fCURLY: gBRACKET fDOUBLE: gANGLE: hBRACKET",
   "fPARENTHESIS fSQUARE: gBRACKET fTORTOISE: gSHELL: hBRACKET fWHITE: gCORNER: hBRACKET",
   "gLENTICULAR: hBRACKET hBRAKCET eSEMICOLON eTWO: fDOT: gLEADER eWAVY: fLOW: gLINE aPRETZEL",
   "aPREVIOUS: bPAGE aPRIME aPRINCE aPRINCESS aPRINT: bSCREEN: cSYMBOL aPRINTER bICON aPRIVACY:",
   "bMESSAGE aPRIVATE: bUSE: cONE cTWO bUSE-1 bUSE-2 aPROBING: bCANE aPROHIBITED: bSIGN",
   "aPROJECTIVE aPROPERTY: bLINE aPROPORTION aPROPORTIONAL: bTO aPROSERPINA aPSALTER: bPAHLAVI:",
   "cFOUR: dDOTS: eWITH: fCROSS fDOT cLETTER: dALEPH dBETH dDALETH dGIMEL dHE dHETH dKAPH dLAMEDH",
   "dMEM-QOPH dNUN dPE dSADHE dSAMEKH dSHIN dTAW dWAW-AYIN-RESH dYODH dZAYIN cNUMBER: dFOUR dONE",
   "eHUNDRED dTEN dTHREE dTWENTY dTWO cSECTION: dMARK cTURNED: dSECTION: eMARK aPU1 aPU2 aPUBLIC:",
   "bADDRESS: cLOUDSPEAKER aPUNCTUATION: bSPACE aPUNCTUS: bELEVATUS: cMARK aPURPLE: bHEART aPURSE",
   "aPUSHPIN aPUT: bLITTER: cIN: dITS: ePLACE: fSYMBOL aQUADRANT: bLOWER: cLEFT cRIGHT bUPPER:",
   "cLEFT dAND: eLOWER: fLEFT: gAND: hLOWER: iRIGHT fRIGHT eUPPER: fRIGHT: gAND: hLOWER: iLEFT",
   "iRIGHT cRIGHT dAND: eLOWER: fLEFT gAND: hLOWER: iRIGHT aQUADRUPLE: bINTEGRAL: cOPERATOR bPRIME",
   "aQUARTER: bNOTE aQUATERNION: bINTEGRAL: cOPERATOR aQUESTION: bEXCLAMATION: cMARK bMARK",
   "aQUESTIONED: bEQUAL: cTO aQUINCUNX aQUOTATION: bMARK aRABBIT bFACE aRACCOON aRACING: bCAR",
   "bMOTORCYCLE aRADICAL: bSYMBOL: cBOTTOM aRADIO bBUTTON aRADIOACTIVE: bSIGN aRAILWAY: bCAR",
   "bTRACK aRAIN aRAINBOW aRAISED: bBACK: cOF: dHAND bCOMMA bDOT bDOTTED: cINTERPOLATION: dMARKER",
   "bFIST bHAND cWITH: dFINGERS: eSPLAYED dPART: eBETWEEN: fMIDDLE: gAND: hRING: iFINGERS",
   "bINTERPOLATION: cMARKER bMC: cSIGN bMD: cSIGN bMR: cSIGN bSQUARE aRAM aRAT aRATIO aRAZOR",
   "aRECEIPT aRECORD: bSEPARATOR aRECREATIONAL: bVEHICLE aRECYCLED: bPAPER: cSYMBOL aRECYCLING:",
   "bSYMBOL: cFOR: dGENERIC: eMATERIALS dTYPE-1: ePLASTICS dTYPE-2: ePLASTICS dTYPE-3: ePLASTICS",
   "dTYPE-4: ePLASTICS dTYPE-5: ePLASTICS dTYPE-6: ePLASTICS dTYPE-7: ePLASTICS aRED: bAPPLE",
   "bGIFT: cENVELOPE aREFERENCE: bMARK aREGIONAL: bINDICATOR: cSYMBOL: dLETTER: eA eB eC eD eE eF",
   "eG eH eI eJ eK eL eM eN eO eP eQ eR eS eT eU eV eW eX eY eZ aREGISTERED: bSIGN aREJANG:",
   "bCONSONANT: cSIGN: dH dN dNG dR bLETTER: cA cBA cCA cDA cGA cHA cJA cKA cLA cMA cMBA cNA cNDA",
   "cNGA cNGGA cNYA cNYJA cPA cRA cSA cTA cWA cYA bSECTION: cMARK bVIRAMA bVOWEL: cSIGN: dAI dAU",
   "dE dEA dEU dI dO dU aRELIEVED: bFACE aREMINDER: bRIBBON aREPLACEMENT: bCHARACTER aRESPONSE",
   "aRESTRICTED: bLEFT: cENTRY-1 cENTRY-2 aRESTROOM aRETURN: bLEFT bRIGHT bSYMBOL aREVERSE:",
   "bCHECKER: cBOARD bINDEX bLIGHT: cFOUR: dPOINTED: ePINWHEEL: fSTAR bLINE: cFEED bSOLIDUS",
   "cOPERATOR cPRECEDING: dSUBSET cWITH: dHORIZONTAL: eSTROKE bTILDE: cOPERATOR: dABOVE:",
   "eLEFTWARDS: fARROW eRIGHTWARDS: fARROW aREVERSED: bANGLE cWITH: dUNDERBAR bCOMMA bDOUBLE:",
   "cPRIME dQUOTATION: eMARK cSTROKE: dNOT: eSIGN bEMPTY: cSET bFORKED: cPARAGRAPHOS bHAND: cWITH:",
   "dMIDDLE: eFINGER: fEXTENDED bNOT: cSIGN bPILCROW: cSIGN bPRIME bQUESTION: cMARK bRAISED:",
   "cHAND: dWITH: eFINGERS: fSPLAYED bRIGHT: cANGLE bROTATED: cFLORAL: dHEART: eBULLET",
   "bSANS-SERIF: cCAPITAL: dL bSEMICOLON bTHUMBS: cDOWN: dSIGN cUP: dSIGN bTILDE cEQUALS bTRIPLE:",
   "cPRIME bVICTORY: cHAND aREVOLVING: bHEARTS aRHINOCEROS aRI aRIAL: bSIGN aRIBBON bARROW: cDOWN:",
   "dLEFT dRIGHT cLEFT: dDOWN dUP cRIGHT: dDOWN dUP cUP: dLEFT dRIGHT aRICE: bBALL bCRACKER aRIFLE",
   "aRIGHT: bAND: cLOWER: dONE: eEIGHTH: fBLOCK cUPPER: dONE: eEIGHTH: fBLOCK bANGER: cBUBBLE",
   "bANGLE cBRACKET dWITH: eDOT cDOTTED: dSUBSTITUTION: eMARKER cSUBSTITUTION: dMARKER cVARIANT:",
   "dWITH: eSQUARE cWITH: dARC dDOWNWARDS: eZIGZAG: fARROW bARC: cGREATER-THAN: dBRACKET bARROW:",
   "cWITH: dCIRCLED: ePLUS dSMALL: eCIRCLE bBLACK: cLENTICULAR: dBRACKET cTORTOISE: dSHELL:",
   "eBRACKET bCEILING bCORNER: cBRACKET bCURLY: cBRACKET dLOWER: eHOOK dMIDDLE: ePIECE dUPPER:",
   "eHOOK bDOTTED: cSUBSTITUTION: dBRACKET bDOUBLE: cANGLE: dBRACKET cARROW: dWITH: eROUNDED:",
   "fHEAD cPARENTHESIS cQUOTATION: dMARK cWIGGLY: dFENCE bFISH: cTAIL bFIVE: cEIGHTHS: dBLOCK",
   "bFLOOR bHALF: cBLACK: dCIRCLE dSTAR cBLOCK cFOLDER cMEDIUM: dSHADE cRUNNING: dMAN bHAND:",
   "cTELEPHONE: dRECEIVER bLOW: cPARAPHRASE: dBRACKET bNORMAL: cFACTOR: dSEMIDIRECT: ePRODUCT",
   "bONE: cEIGHTH: dBLOCK cQUARTER: dBLOCK bOPEN: cSQUARED: dDOT bOUTER: cJOIN bPARENTHESIS",
   "cEXTENSION cLOWER: dHOOK cUPPER: dHOOK bRAISED: cOMISSION: dBRACKET bS-SHAPED: cBAG:",
   "dDELIMITER bSEMIDIRECT: cPRODUCT bSEVEN: cEIGHTHS: dBLOCK bSIDEWAYS: cU: dBRACKET bSINGLE:",
   "cQUOTATION: dMARK bSPEAKER cWITH: dONE: eSOUND: fWAVE dTHREE: eSOUND: fWAVES bSPEECH: cBUBBLE",
   "bSQUARE: cBRACKET dEXTENSION dLOWER: eCORNER dUPPER: eCORNER dWITH: eDOUBLE: fSTROKE eQUILL",
   "eSTROKE eTICK: fIN: gBOTTOM: hCORNER gTOP: hCORNER eUNDERBAR bSUBSTITUTION: cBRACKET bTACK",
   "bTHIRD: cWHITE: dRIGHT: ePOINTING: fINDEX bTHOUGHT: cBUBBLE bTHREE: cEIGHTHS: dBLOCK",
   "cQUARTERS: dBLOCK bTORTOISE: cSHELL: dBRACKET bTRANSPOSITION: cBRACKET bTRIANGLE cABOVE:",
   "dLEFT: eTRIANGLE bTRIANGULAR: cONE: dQUARTER: eBLOCK bVERTICAL: cBAR: dWITH: eQUILL cBOX:",
   "dLINE bWHITE: cCORNER: dBRACKET cCURLY: dBRACKET cLENTICULAR: dBRACKET cPARENTHESIS cSQUARE:",
   "dBRACKET cTORTOISE: dSHELL: eBRACKET bWIGGLY: cFENCE aRIGHT-FACING: bARMENIAN: cETERNITY:",
   "dSIGN bFIST bSVASTI: cSIGN dWITH: eDOTS aRIGHT-HANDED: bINTERLACED: cPENTAGRAM",
   "aRIGHT-POINTING: bANGLE: cBRACKET bCURVED: cANGLE: dBRACKET bDOUBLE: cANGLE: dQUOTATION: eMARK",
   "bMAGNIFYING: cGLASS aRIGHT-SHADED: bWHITE: cRIGHTWARDS: dARROW aRIGHT-SIDE: bARC: cCLOCKWISE:",
   "dARROW aRIGHT-TO-LEFT: bEMBEDDING bISOLATE bMARK bOVERRIDE aRIGHTHAND: bINTERIOR: cPRODUCT",
   "aRIGHTWARDS: bARROW cABOVE: dALMOST: eEQUAL: fTO dREVERSE: eALMOST: fEQUAL: gTO eTILDE:",
   "fOPERATOR dSHORT: eLEFTWARDS: fARROW dTILDE: eOPERATOR cAND: dUPPER: eAND: fLOWER: gONE:",
   "hEIGHTH: iBLOCK cFROM: dBAR eTO: fBLACK: gDIAMOND cOVER: dLEFTWARDS: eARROW cTHROUGH:",
   "dGREATER-THAN dSUPERSET dX cTO: dBAR dBLACK: eDIAMOND cWITH: dCORNER: eDOWNWARDS dDOTTED:",
   "eSTEM dDOUBLE: eVERTICAL: fSTROKE dEQUILATERAL: eARROWHEAD dHOOK dLARGE: eTRIANGLE: fARROWHEAD",
   "dLOOP dMEDIUM: eTRIANGLE: fARROWHEAD dNOTCHED: eTAIL dPLUS: eBELOW dSMALL: eEQUILATERAL:",
   "fARROWHEAD eTRIANGLE: fARROWHEAD dSTROKE dTAIL eWITH: fDOUBLE: gVERTICAL: hSTROKE fVERTICAL:",
   "gSTROKE dTIP: eDOWNWARDS eUPWARDS dVERTICAL: eSTROKE bARROW-TAIL bBACK-TILTED: cSHADOWED:",
   "dWHITE: eARROW bBLACK: cARROW cCIRCLED: dWHITE: eARROW bBOTTOM: cSHADED: dWHITE: eARROW",
   "bCOMPRESSED: cARROW bDASHED: cARROW bDOUBLE: cARROW dFROM: eBAR dWITH: eSTROKE eVERTICAL:",
   "fSTROKE cARROW-TAIL cDASH: dARROW bFINGER-POST: cARROW bFRONT-TILTED: cSHADOWED: dWHITE:",
   "eARROW bHAND bHARPOON: cOVER: dLEFTWARDS: eHARPOON cWITH: dBARB: eDOWN: fABOVE: gLEFTWARDS:",
   "hHARPOON: iWITH: jBARB: kDOWN fBELOW: gLONG: hDASH fFROM: gBAR fTO: gBAR eDOWNWARDS eUP:",
   "fABOVE: gLEFTWARDS: hHARPOON: iWITH: jBARB: kUP gLONG: hDASH gRIGHTWARDS: hHARPOON: iWITH:",
   "jBARB: kDOWN fFROM: gBAR fTO: gBAR eUPWARDS bHEAVY: cARROW cCOMPRESSED: dARROW bLEFT-SHADED:",
   "cWHITE: dARROW bOPEN-HEADED: cARROW bPAIRED: cARROWS bQUADRUPLE: cARROW bRIGHT-SHADED: cWHITE:",
   "dARROW bROCKET bSANS-SERIF: cARROW bSQUARED: cARROW bSQUIGGLE: cARROW bTOP: cSHADED: dWHITE:",
   "eARROW bTRIANGLE: cARROWHEAD bTRIANGLE-HEADED: cARROW dOVER: eLEFTWARDS: fTRIANGLE-HEADED:",
   "gARROW dTO: eBAR dWITH: eBOLD: fSHAFT eDOUBLE: fHORIZONTAL: gSTROKE fVERTICAL: gSTROKE eHEAVY:",
   "fSHAFT eLONG: fTIP: gDOWNWARDS gUPWARDS eMEDIUM: fSHAFT eNARROW: fSHAFT eVERY: fHEAVY: gSHAFT",
   "cDASHED: dARROW cPAIRED: dARROWS bTRIPLE: cARROW cDASH: dARROW bTWO: cHEADED: dARROW",
   "bTWO-HEADED: cARROW: dFROM: eBAR dWITH: eDOUBLE: fVERTICAL: gSTROKE eTAIL fWITH: gDOUBLE:",
   "hVERTICAL: iSTROKE gVERTICAL: hSTROKE eTRIANGLE: fARROWHEADS eVERTICAL: fSTROKE cTRIPLE:",
   "dDASH: eARROW bWAVE: cARROW bWHITE: cARROW dFROM: eWALL dWITHIN: eTRIANGLE: fARROWHEAD aRING",
   "bABOVE bBUOY bEQUAL: cTO bIN: cEQUAL: dTO bOPERATOR bPOINT aRINGED: bPLANET aRINGING: bBELL",
   "aRISING: bDIAGONAL: cCROSSING: dFALLING: eDIAGONAL dSOUTH: eEAST: fARROW aRLE aRLI aRLM aRLO",
   "aROASTED: bSWEET: cPOTATO aROBOT: bFACE aROCK aROCKET aROLL: bOF: cPAPER aROLLED-UP:",
   "bNEWSPAPER aROLLER: bCOASTER bSKATE aROLLING: bON: cTHE: dFLOOR: eLAUGHING aROMAN: bAS: cSIGN",
   "bCENTURIAL: cSIGN bDENARIUS: cSIGN bDIMIDIA: cSEXTULA: dSIGN bDUPONDIUS: cSIGN bNUMERAL:",
   "cEIGHT cELEVEN cFIFTY dEARLY: eFORM dTHOUSAND cFIVE dHUNDRED dTHOUSAND cFOUR cNINE cONE",
   "dHUNDRED eTHOUSAND dTHOUSAND eC: fD cREVERSED: dONE: eHUNDRED cSEVEN cSIX dLATE: eFORM cTEN",
   "dTHOUSAND cTHREE cTWELVE cTWO bQUINARIUS: cSIGN bSEMUNCIA: cSIGN bSESTERTIUS: cSIGN bSEXTANS:",
   "cSIGN bSEXTULA: cSIGN bSILIQUA: cSIGN bUNCIA: cSIGN aROOSTER aROSE aROSETTE aROTATED:",
   "bCAPITAL: cQ bFLORAL: cHEART: dBULLET bHEAVY: cBLACK: dHEART: eBULLET bLIGHT: cFOUR: dPOINTED:",
   "eBLACK: fCUSP bWHITE: cFOUR: dPOINTED: eCUSP aROUND: bPUSHPIN bTARGET aROUNDED: bSYMBOL: cFOR:",
   "dCAI dFU dLU dSHOU dSHUANGXI dXI aROWBOAT aRS aRUBLE: bSIGN aRUGBY: bFOOTBALL aRULE-DELAYED",
   "aRUMI: bDIGIT: cEIGHT cFIVE cFOUR cNINE cONE cSEVEN cSIX cTHREE cTWO bFRACTION: cONE: dHALF",
   "dQUARTER dTHIRD cTWO: dTHIRDS bNUMBER: cEIGHT: dHUNDRED cEIGHTY cFIFTY cFIVE: dHUNDRED cFORTY",
   "cFOUR: dHUNDRED cNINE: dHUNDRED cNINETY cONE: dHUNDRED cSEVEN: dHUNDRED cSEVENTY cSIX:",
   "dHUNDRED cSIXTY cTEN cTHIRTY cTHREE: dHUNDRED cTWENTY cTWO: dHUNDRED aRUNIC: bARLAUG: cSYMBOL",
   "bBELGTHOR: cSYMBOL bCROSS: cPUNCTUATION bLETTER: cAC: dA cAESC cALGIZ: dEOLHX cANSUZ: dA",
   "cBERKANAN: dBEORC: eBJARKAN: fB cC cCALC cCEALC cCEN cCWEORTH cD cDAGAZ: dDAEG: eD cDOTTED-L",
   "cDOTTED-N cDOTTED-P cE cEAR cEHWAZ: dEH: eE cENG cETH cFEHU: dFEOH: eFE: fF cFRANKS: dCASKET:",
   "eAC eAESC eEH eIS eOS cG cGAR cGEBO: dGYFU: eG cGER cHAEGL: dH cHAGLAZ: dH cICELANDIC-YR cING",
   "cINGWAZ cIOR cISAZ: dIS: eISS: fI cIWAZ: dEOH cJERAN: dJ cK cKAUN: dK cKAUNA cLAUKAZ: dLAGU:",
   "eLOGR: fL cLONG-BRANCH-AR: dAE cLONG-BRANCH-HAGALL: dH cLONG-BRANCH-MADR: dM cLONG-BRANCH-OSS:",
   "dO cLONG-BRANCH-YR cMANNAZ: dMAN: eM cNAUDIZ: dNYD: eNAUD: fN cO cOE cON cOO cOPEN-P cOS: dO",
   "cOTHALAN: dETHEL: eO cPERTHO: dPEORTH: eP cQ cRAIDO: dRAD: eREID: fR cSH cSHORT-TWIG-AR: dA",
   "cSHORT-TWIG-BJARKAN: dB cSHORT-TWIG-HAGALL: dH cSHORT-TWIG-MADR: dM cSHORT-TWIG-NAUD: dN",
   "cSHORT-TWIG-OSS: dO cSHORT-TWIG-SOL: dS cSHORT-TWIG-TYR: dT cSHORT-TWIG-YR cSIGEL:",
   "dLONG-BRANCH-SOL: eS cSOWILO: dS cSTAN cTHURISAZ: dTHURS: eTHORN cTIWAZ: dTIR: eTYR: fT cURUZ:",
   "dUR: eU cV cW cWUNJO: dWYNN: eW cX cY cYR cZ bMULTIPLE: cPUNCTUATION bSINGLE: cPUNCTUATION",
   "bTVIMADUR: cSYMBOL aRUNNER aRUNNING: bSHIRT: cWITH: dSASH aRUPEE: bSIGN aRUSSIAN:",
   "bASTROLOGICAL: cSYMBOL: dBINOVILE dNOVILE dQUINTILE dSENTAGON dTREDECILE dVIGINTILE aS: bIN:",
   "cTRIANGLE aSAFETY: bPIN bVEST aSAGITTARIUS aSAILBOAT aSAKE: bBOTTLE: cAND: dCUP aSALT: bSHAKER",
   "aSALTIRE aSALUTING: bFACE aSAMARITAN: bABBREVIATION: cMARK bLETTER: cALAF cBAA cBIT cDALAT cFI",
   "cGAMAN cIN cIT cIY cKAAF cLABAT cMIM cNUN cQUF cRISH cSHAN cSINGAAT cTAAF cTIT cTSAADIY cYUT",
   "cZEN bMARK: cDAGESH cEPENTHETIC: dYUT cIN cIN-ALAF cNEQUDAA cOCCLUSION bMODIFIER: cLETTER:",
   "dEPENTHETIC: eYUT dI dSHORT: eA bPUNCTUATION: cAFSAAQ cANGED cANNAAU cARKAANU cATMAAU cBAU",
   "cMELODIC: dQITSA cNEQUDAA cQITSA cSHIYYAALAA cSOF: dMASHFAAT cTURU cZAEF cZIQAA bVOWEL: cSIGN:",
   "dA dAA dE dI dLONG: eA eAA eE eI eU dO dOVERLONG: eA eAA dSHORT: eA dSUKUN dU aSANDWICH",
   "aSANS-SERIF: bHEAVY: cDOUBLE: dCOMMA: eQUOTATION: fMARK: gORNAMENT dTURNED: eCOMMA:",
   "fQUOTATION: gMARK: hORNAMENT cLOW: dDOUBLE: eCOMMA: fQUOTATION: gMARK: hORNAMENT bINTERROBANG:",
   "cORNAMENT aSARI aSATELLITE bANTENNA aSATURN aSAURASHTRA: bCONSONANT: cSIGN: dHAARU bDANDA",
   "bDIGIT: cEIGHT cFIVE cFOUR cNINE cONE cSEVEN cSIX cTHREE cTWO cZERO bDOUBLE: cDANDA bLETTER:",
   "cA cAA cAI cAU cBA cBHA cCA cCHA cDA cDDA cDDHA cDHA cE cEE cGA cGHA cHA cI cII cJA cJHA cKA",
   "cKHA cLA cLLA cMA cNA cNGA cNNA cNYA cO cOO cPA cPHA cRA cSA cSHA cSSA cTA cTHA cTTA cTTHA cU",
   "cUU cVA cVOCALIC: dL dLL dR dRR cYA bSIGN: cANUSVARA cCANDRABINDU cVIRAMA cVISARGA bVOWEL:",
   "cSIGN: dAA dAI dAU dE dEE dI dII dO dOO dU dUU dVOCALIC: eL eLL eR eRR aSAUROPOD aSAXOPHONE",
   "aSCALES aSCARF aSCHOOL bSATCHEL aSCI aSCOOTER aSCORPION aSCORPIUS aSCREEN aSCREWDRIVER",
   "aSCRIPT: bCAPITAL: cB cE cF cH cI cL cM cP cR bLIGATURE: cET: dORNAMENT bSMALL: cE cG cL cO",
   "aSCROLL aSCRUPLE aSEAL aSEAT aSECOND: bPLACE: cMEDAL aSECTION: bSIGN aSECTOR aSEDNA",
   "aSEE-NO-EVIL: bMONKEY aSEEDLING aSEGMENT aSEGMENTED: bDIGIT: cEIGHT cFIVE cFOUR cNINE cONE",
   "cSEVEN cSIX cTHREE cTWO cZERO aSELFIE aSEMICOLON aSEMIDIRECT: bPRODUCT: cWITH: dBOTTOM:",
   "eCLOSED aSEMISEXTILE aSEPARATED: bSYMBOL aSERIOUS: bFACE: cWITH: dSYMBOLS: eCOVERING: fMOUTH",
   "aSERVICE: bMARK aSESAME: bDOT aSESQUIQUADRATE aSET: bMINUS bTRANSMIT: cSTATE aSEWING: bNEEDLE",
   "aSEXTILE aSGC aSHADOWED: bWHITE: cCIRCLE cLATIN: dCROSS cSTAR aSHALLOW: bPAN: cOF: dFOOD",
   "aSHAMROCK aSHARADA: bABBREVIATION: cSIGN bCONTINUATION: cSIGN bDANDA bDIGIT: cEIGHT cFIVE",
   "cFOUR cNINE cONE cSEVEN cSIX cTHREE cTWO cZERO bDOUBLE: cDANDA bEKAM bEXTRA: cSHORT: dVOWEL:",
   "eMARK bHEADSTROKE bLETTER: cA cAA cAI cAU cBA cBHA cCA cCHA cDA cDDA cDDHA cDHA cE cGA cGHA",
   "cHA cI cII cJA cJHA cKA cKHA cLA cLLA cMA cNA cNGA cNNA cNYA cO cPA cPHA cRA cSA cSHA cSSA cTA",
   "cTHA cTTA cTTHA cU cUU cVA cVOCALIC: dL dLL dR dRR cYA bOM bSANDHI: cMARK bSECTION: cMARK-1",
   "cMARK-2 bSEPARATOR bSIGN: cANUSVARA cAVAGRAHA cCANDRABINDU cINVERTED: dCANDRABINDU",
   "cJIHVAMULIYA cNUKTA cSIDDHAM cUPADHMANIYA cVIRAMA cVISARGA bSUTRA: cMARK bVOWEL: cMODIFIER:",
   "dMARK cSIGN: dAA dAI dAU dE dI dII dO dPRISHTHAMATRA: eE dU dUU dVOCALIC: eL eLL eR eRR aSHARK",
   "aSHAVED: bICE aSHAVIAN: bLETTER: cADO cAGE cAH cAIR cARE cARRAY cASH cAWE cBIB cCHURCH cDEAD",
   "cEAR cEAT cEGG cERR cFEE cGAG cHA-HA cHUNG cIAN cICE cIF cJUDGE cKICK cLOLL cMEASURE cMIME",
   "cNUN cOAK cOIL cON cOOZE cOR cOUT cPEEP cROAR cSO cSURE cTHEY cTHIGH cTOT cUP cVOW cWOE cWOOL",
   "cYEA cYEW cZOO aSHEEP aSHIELD aSHIFT: bIN bOUT aSHINTO: bSHRINE aSHIP aSHOCKED: bFACE: cWITH:",
   "dEXPLODING: eHEAD aSHOOTING: bSTAR aSHOPPING: bBAGS bTROLLEY aSHORT: bBACKSLANTED: cSOUTH:",
   "dARROW bBENT: cARROW: dPOINTING: eDOWNWARDS: fTHEN: gNORTH: hEAST bDOWN: cTACK dWITH: eOVERBAR",
   "bLEFT: cTACK bRIGHTWARDS: cARROW: dABOVE: eLEFTWARDS: fARROW bSLANTED: cNORTH: dARROW bUP:",
   "cTACK dABOVE: eSHORT: fDOWN: gTACK dWITH: eUNDERBAR aSHORTCAKE aSHORTHAND: bFORMAT:",
   "cCONTINUING: dOVERLAP cDOWN: dSTEP cLETTER: dOVERLAP cUP: dSTEP aSHORTS aSHOULDERED: bOPEN:",
   "cBOX aSHOWER aSHRIMP aSHRUG aSHUFFLE: bPRODUCT aSHY aSI aSIDDHAM: bDANDA bDOUBLE: cDANDA bEND:",
   "cOF: dTEXT: eMARK bLETTER: cA cAA cAI cALTERNATE: dU cAU cBA cBHA cCA cCHA cDA cDDA cDDHA cDHA",
   "cE cGA cGHA cHA cI cII cJA cJHA cKA cKHA cLA cMA cNA cNGA cNNA cNYA cO cPA cPHA cRA cSA cSHA",
   "cSSA cTA cTHA cTHREE-CIRCLE: dALTERNATE: eI cTTA cTTHA cTWO-CIRCLE: dALTERNATE: eI eII cU cUU",
   "cVA cVOCALIC: dL dLL dR dRR cYA bREPETITION: cMARK-1 cMARK-2 cMARK-3 bSECTION: cMARK: dDOUBLE:",
   "eRING fWITH: gRAYS dWITH: eCIRCLES: fAND: gFOUR: hENCLOSURES gRAYS gTWO: hENCLOSURES eDOUBLE:",
   "fCRESCENTS eQUADRUPLE: fCRESCENTS eRAYS: fAND: gDOTTED: hCRESCENTS hDOUBLE: iCRESCENTS",
   "hTRIPLE: iCRESCENTS eSEPTUPLE: fCRESCENTS eTRIDENT: fAND: gDOTTED: hCRESCENTS gU-SHAPED:",
   "hORNAMENTS eTRIPLE: fCRESCENTS bSEPARATOR: cBAR cDOT bSIGN: cANUSVARA cCANDRABINDU cNUKTA",
   "cSIDDHAM cVIRAMA cVISARGA bVOWEL: cSIGN: dAA dAI dALTERNATE: eU eUU dAU dE dI dII dO dU dUU",
   "dVOCALIC: eR eRR aSIDEWAYS: bBLACK: cDOWN: dPOINTING: eINDEX cLEFT: dPOINTING: eINDEX cRIGHT:",
   "dPOINTING: eINDEX cUP: dPOINTING: eINDEX bWHITE: cDOWN: dPOINTING: eINDEX cLEFT: dPOINTING:",
   "eINDEX cRIGHT: dPOINTING: eINDEX cUP: dPOINTING: eINDEX aSIGN: bOF: cTHE: dHORNS aSIGNWRITING:",
   "bAIR: cBLOW: dSMALL: eROTATIONS cBLOWING: dOUT cSUCK: dSMALL: eROTATIONS cSUCKING: dIN",
   "bBREATH: cEXHALE cINHALE bBRUSH: cBETWEEN cMULTIPLE cSINGLE bCHEEKS: cNEUTRAL cPUFFED cSUCKED",
   "bCOLON bCOMMA bDREAMY: cEYEBROWS: dDOWN: eNEUTRAL dNEUTRAL: eDOWN eUP dUP: eNEUTRAL bDYNAMIC:",
   "cARROWHEAD: dLARGE dSMALL cEVERY: dOTHER: eTIME cFAST cGRADUAL cRELAXED cSIMULTANEOUS",
   "dALTERNATING cSLOW cTENSE bEARS bEXCITEMENT bEYE: cBLINK: dMULTIPLE dSINGLE cWINK bEYEBROWS:",
   "cSTRAIGHT: dDOWN dNEUTRAL dUP bEYEGAZE-FLOORPLANE: cCURVED cSTRAIGHT dALTERNATING dDOUBLE",
   "bEYEGAZE-WALLPLANE: cCIRCLING cCURVED cSTRAIGHT dALTERNATING dDOUBLE bEYELASHES: cDOWN",
   "cFLUTTERING cUP bEYES: cCLOSED cHALF: dCLOSED dOPEN cOPEN cSQUEEZED cWIDE: dOPEN cWIDENING:",
   "dMOVEMENT bFACE: cDIRECTION: dPOSITION: eNOSE: fFORWARD: gTILTING fUP: gOR: hDOWN iTILTING",
   "bFILL: cMODIFIER-2 cMODIFIER-3 cMODIFIER-4 cMODIFIER-5 cMODIFIER-6 bFINGER bFLICK: cLARGE:",
   "dMULTIPLE dSINGLE cSEQUENTIAL cSMALL: dMULTIPLE dSINGLE bFLOORPLANE: cSHOULDER: dHIP: eMOVE",
   "bFOREHEAD: cCONTACT cNEUTRAL cWRINKLED bFULL: cSTOP bGRASP: cBETWEEN cMULTIPLE cSINGLE bHAIR",
   "bHAND-ANGLE cINDEX dMIDDLE: eLITTLE eRING dRING: eLITTLE fOUT dTHUMB eIN eOUT cLITTLE: dINDEX",
   "eTHUMB: fINDEX: gTHUMB hOUT dUP cMIDDLE: dRING: eLITTLE fIN fOUT cRING: dDOWN: eMIDDLE:",
   "fTHUMB: gINDEX: hCROSS dLITTLE bHAND-CIRCLE cINDEX dBENT dHINGE dMIDDLE eCROSS: fLITTLE",
   "eCROSSED eLITTLE eRING eTHUMB dRING: eLITTLE cLITTLE: dINDEX dUP cMIDDLE: dRING: eLITTLE fBENT",
   "dUP cRING: dLITTLE bHAND-CLAW cFOUR: dFINGERS: eCONJOINED cINDEX: dTHUMB: eCURVE: fTHUMB:",
   "gINSIDE cMIDDLE: dRING: eLITTLE: fCONJOINED gSIDE cNO: dTHUMB cTHUMB: dFORWARD dSIDE bHAND-CUP",
   "cFIVE: dFINGERS: eSPREAD fOPEN cINDEX dRING: eLITTLE dTHUMB eOPEN cMIDDLE: dRING: eLITTLE cNO:",
   "dTHUMB cOPEN dNO: eTHUMB dTHUMB: eFORWARD eSIDE cTHUMB: dFORWARD dSIDE bHAND-CURLICUE cINDEX:",
   "dRING: eLITTLE: fON cMIDDLE: dRING: eLITTLE: fON cOPEN bHAND-FIST cFOUR: dFINGERS: eCONJOINED:",
   "fBENT cHEEL cINDEX dBENT eOVER: fMIDDLE dCUPPED dHINGED eLOW eMIDDLE: fUP gTHUMB: hSIDE",
   "dMIDDLE eBENT fTHUMB: gSTRAIGHT eCONJOINED fCUPPED gTHUMB: hFORWARD fHINGED gTHUMB: hSIDE",
   "fINDEX: gBENT fMIDDLE: gBENT fTHUMB: gFORWARD gSIDE hBENT hCONJOINED eCROSS: fLITTLE eCROSSED",
   "fTHUMB: gSIDE eHINGED fSPREAD: gTHUMB: hSIDE eLITTLE eRAISED: fKNUCKLES eRING fBENT fCONJOINED",
   "eSTRAIGHT: fTHUMB: gBENT eTHUMB fANGLED gOUT fBENT fCIRCLED fCONJOINED: gHINGED fCUPPED",
   "fHINGED fHOOKED eUP: fSPREAD: gTHUMB: hFORWARD dRAISED: eKNUCKLE dRING: eLITTLE dTHUMB:",
   "eANGLED: fIN: gMIDDLE: hUP fOUT: gMIDDLE: hUP eCIRCLE eCIRCLED: fMIDDLE: gUP eCUPPED: fMIDDLE:",
   "gUP eCURLICUE eCURVE: fTHUMB: gINSIDE gUNDER eFORWARD: fINDEX: gBENT gSTRAIGHT eHOOK eHOOKED:",
   "fMIDDLE: gHINGED gUP eSIDE fBOTH: gBENT fINDEX: gBENT gHINGE fTHUMB: gBENT gCONJOINED",
   "gDIAGONAL dUP: eMIDDLE: fHINGED gTHUMB: hCONJOINED hSIDE cLITTLE: dBENT dDOWN eOTHERS:",
   "fCIRCLED eRIPPLE: fCURVED fSTRAIGHT dINDEX eTHUMB dRAISED: eKNUCKLE dTHUMB dTOUCHES: eTHUMB",
   "dUP cMIDDLE: dBENT: eOVER: fINDEX dDOWN dLITTLE dRAISED: eKNUCKLE dRING: eLITTLE dTHUMB:",
   "eANGLED: fINDEX: gUP fOUT: gINDEX: hCROSSED hUP eCIRCLED: fINDEX: gHINGED gUP eCUPPED: fINDEX:",
   "gUP eHOOKED: fINDEX: gUP eLITTLE dUP eTHUMB: fSIDE cRING: dDOWN dINDEX dLITTLE dMIDDLE",
   "eCONJOINED eRAISED: fKNUCKLES dRAISED: eKNUCKLE dTHUMB dUP cTHUMB dBETWEEN: eINDEX: fMIDDLE",
   "gSTRAIGHT eMIDDLE: fRING eRING: fLITTLE dFORWARD dHEEL dOVER: eFOUR: fRAISED: gKNUCKLES eTWO:",
   "fFINGERS dSIDE: eBENT eCONJOINED eDIAGONAL dUNDER: eFOUR: fFINGERS eINDEX: fBENT eLITTLE: fUP",
   "eTHREE: fFINGERS eTWO: fFINGERS bHAND-FLAT cBETWEEN: dPALM: eFACINGS cFIVE: dFINGERS: eSPREAD",
   "fBENT fFOUR: gBENT fHINGED gNO: hTHUMB gTHUMB: hSIDE fTHUMB: gFORWARD cFOUR: dFINGERS eBENT",
   "eCONJOINED fSPLIT eHINGED cHEEL dFIVE: eFINGERS: fSPREAD gBENT gFOUR: hBENT dTHUMB: eSIDE",
   "cSPLIT: dCENTRE eTHUMB: fSIDE gBENT dINDEX: eTHUMB: fSIDE dLITTLE cTHUMB: dBENT dFORWARD dSIDE",
   "bHAND-HINGE cFIVE: dFINGERS: eSPREAD: fOPEN cFOUR: dFINGERS: eCONJOINED cINDEX dHINGED",
   "dMIDDLE: eLITTLE eRING fCONJOINED dRING: eLITTLE dTHUMB eLARGE eOPEN eSIDE eSMALL cLITTLE",
   "dINDEX eTHUMB dTHUMB cMIDDLE dRING: eLITTLE cNO: dTHUMB cOPEN dNO: eTHUMB dTHUMB: eFORWARD",
   "eSIDE cRING dDOWN: eINDEX: fTHUMB: gHOOK: hMIDDLE cSMALL cTHUMB: dBETWEEN: eMIDDLE: fRING",
   "dSIDE eTOUCHING: fINDEX bHAND-HOOK cCURLICUE cINDEX: dRING: eLITTLE: fIN fOUT fUNDER cMIDDLE:",
   "dRING: eLITTLE: fCONJOINED gIN gOUT dTHUMB cRING: dTHUMB bHAND-OVAL cFIVE: dFINGERS: eSPREAD",
   "cINDEX cLITTLE: dUP cNO: dTHUMB cRING: dLITTLE cTHUMB: dFORWARD dSIDE bHEAD cMOVEMENT: dCIRCLE",
   "cMOVEMENT-FLOORPLANE: dCURVE dSTRAIGHT cMOVEMENT-WALLPLANE: dCURVE dSTRAIGHT dTILT cRIM bLIMB:",
   "cCOMBINATION cLENGTH-1 cLENGTH-2 cLENGTH-3 cLENGTH-4 cLENGTH-5 cLENGTH-6 cLENGTH-7 bLIP:",
   "cLOWER: dOVER: eUPPER cUPPER: dOVER: eLOWER bLIPS: cPRESSED: dTOGETHER bLOCATION: cDEPTH",
   "cHEAD: dNECK cHEIGHT cLIMBS: dDIGITS cTORSO cWIDTH bLOCATION-FLOORPLANE: cSPACE",
   "bLOCATION-WALLPLANE: cSPACE bMOUTH: cCLOSED: dCONTACT dFORWARD dNEUTRAL cCORNERS cFROWN dOPEN",
   "dWRINKLED cKISS dFORWARD dWRINKLED cOPEN: dCIRCLE dFORWARD dOVAL eWRINKLED eYAWN dRECTANGLE",
   "eWRINKLED eYAWN dWRINKLED cSMILE dOPEN dWRINKLED cTENSE dFORWARD dSUCKED cWRINKLES: dDOUBLE",
   "dSINGLE bMOVEMENT-DIAGONAL: cAWAY: dLARGE dLARGEST dMEDIUM dSMALL cBETWEEN: dAWAY: eLARGE",
   "eLARGEST eMEDIUM eSMALL dTOWARDS: eLARGE eLARGEST eMEDIUM eSMALL cTOWARDS: dLARGE dLARGEST",
   "dMEDIUM dSMALL bMOVEMENT-FLOORPLANE: cARM: dCIRCLE: eHITTING: fWALL: gLARGE: hDOUBLE hSINGLE",
   "gMEDIUM: hDOUBLE hSINGLE gSMALL: hDOUBLE hSINGLE cBEND cBOX: dLARGE dMEDIUM dSMALL cCHECK",
   "cCORNER: dLARGE dMEDIUM dSMALL cCROSS cCURVE: dCOMBINED dHITTING: eCEILING: fLARGE fSMALL",
   "eFLOOR: fLARGE fSMALL dLARGE dLARGEST dMEDIUM dSMALL cDOUBLE: dALTERNATING eWRIST: fFLEX",
   "dSTRAIGHT dWRIST: eFLEX cFINGER: dCIRCLES: eHITTING: fWALL: gDOUBLE gSINGLE dCONTACT cHUMP:",
   "dHITTING: eCEILING: fLARGE: gDOUBLE gTRIPLE fSMALL: gDOUBLE gTRIPLE eFLOOR: fLARGE: gDOUBLE",
   "fSMALL: gDOUBLE fTRIPLE: gLARGE: hTRIPLE gSMALL: hTRIPLE dSMALL cJAW cLOOP: dHITTING:",
   "eCEILING: fLARGE: gDOUBLE gSINGLE fSMALL: gDOUBLE gSINGLE eFLOOR: fLARGE: gDOUBLE gSINGLE",
   "fSMALL: gDOUBLE gSINGLE dSMALL cPEAKS: dLARGE dMEDIUM dSMALL cSHAKING: dPARALLEL cSINGLE:",
   "dSTRAIGHT: eLARGE eLARGEST eMEDIUM eSMALL dWRIST: eFLEX cTRIPLE: dALTERNATING: eMOVEMENT",
   "eWRIST: fFLEX dSTRAIGHT: eMOVEMENT dWRIST: eFLEX cWAVE: dHITTING: eCEILING: fLARGE fSMALL",
   "eFLOOR: fLARGE fSMALL dLARGE dSMALL dSNAKE cWRIST: dCIRCLE: eHITTING: fWALL: gDOUBLE gSINGLE",
   "cZIGZAG: dLARGE dMEDIUM dSMALL bMOVEMENT-HINGE: cDOWN: dSEQUENTIAL cSIDE: dTO: eSIDE:",
   "fSCISSORS cUP: dDOWN: eALTERNATING: fLARGE fSMALL eLARGE eSMALL dSEQUENTIAL",
   "bMOVEMENT-WALLPLANE: cARM: dCIRCLE: eMEDIUM: fDOUBLE fSINGLE eSMALL: fDOUBLE fSINGLE cBEND:",
   "dLARGE dMEDIUM dSMALL cBOX: dLARGE dMEDIUM dSMALL cCHECK: dLARGE dMEDIUM dSMALL cCORNER:",
   "dLARGE dMEDIUM dROTATION dSMALL cCROSS cCURVE: dHALF-CIRCLE: eLARGE eLARGEST eMEDIUM eSMALL",
   "dHITTING: eCHEST eFRONT: fWALL dQUARTER: eLARGE eLARGEST eMEDIUM eSMALL dTHEN: eSTRAIGHT",
   "dTHREE-QUARTER: eCIRCLE: fMEDIUM fSMALL cCURVED: dCROSS: eMEDIUM eSMALL cDOUBLE: dALTERNATING",
   "eWRIST: fFLEX dSTRAIGHT dWRIST: eFLEX cFINGER: dCIRCLES: eDOUBLE eSINGLE dCONTACT cHUMP:",
   "dHITTING: eCHEST eFRONT: fWALL dLARGE dMEDIUM dSMALL cJAW cLOOP: dHITTING: eCHEST eFRONT:",
   "fWALL dLARGE dMEDIUM dSMALL eDOUBLE cPEAKS: dLARGE dMEDIUM dSMALL cSHAKING cSINGLE: dSTRAIGHT:",
   "eLARGE eLARGEST eMEDIUM eSMALL dWRIST: eFLEX cTRIPLE: dALTERNATING eWRIST: fFLEX dSTRAIGHT:",
   "eMOVEMENT dWRIST: eFLEX cWAVE: dCURVE: eDOUBLE: fLARGE fMEDIUM fSMALL eTRIPLE: fLARGE fMEDIUM",
   "fSMALL dDIAGONAL: ePATH: fLARGE fMEDIUM fSMALL dHITTING: eCHEST eFRONT: fWALL cWRIST: dCIRCLE:",
   "eFRONT: fDOUBLE fSINGLE cZIGZAG: dLARGE dMEDIUM dSMALL bNECK bNOSE: cCONTACT cNEUTRAL cWIGGLES",
   "cWRINKLES bPARENTHESIS bROTATION: cMODIFIER-10 cMODIFIER-11 cMODIFIER-12 cMODIFIER-13",
   "cMODIFIER-14 cMODIFIER-15 cMODIFIER-16 cMODIFIER-2 cMODIFIER-3 cMODIFIER-4 cMODIFIER-5",
   "cMODIFIER-6 cMODIFIER-7 cMODIFIER-8 cMODIFIER-9 bROTATION-FLOORPLANE: cALTERNATING dHITTING:",
   "eCEILING eFLOOR cDOUBLE dHITTING: eCEILING eFLOOR cSINGLE dHITTING: eCEILING eFLOOR",
   "bROTATION-WALLPLANE: cALTERNATE cALTERNATING: dHITTING: eCHEST eFRONT: fWALL cDOUBLE dHITTING:",
   "eCHEST eFRONT: fWALL cSINGLE dHITTING: eCHEST eFRONT: fWALL bRUB: cBETWEEN cMULTIPLE cSINGLE",
   "bSEMICOLON bSHOULDER: cHIP: dPOSITIONS dSPINE cTILTING: dFROM: eWAIST bSQUEEZE: cFLICK:",
   "dALTERNATING cLARGE: dMULTIPLE dSINGLE cSEQUENTIAL cSMALL: dMULTIPLE dSINGLE bSTRIKE: cBETWEEN",
   "cMULTIPLE cSINGLE bSURFACE: cBETWEEN cSYMBOLS bTEETH cBITE: dLIPS cMOVEMENT cON: dLIPS",
   "eMOVEMENT dTONGUE eMOVEMENT bTENSE: cCHEEKS: dHIGH dLOW dMIDDLE bTONGUE: cCENTRE: dINSIDE:",
   "eMOUTH dSTICKING: eOUT cINSIDE: dMOUTH: eRELAXED cLICKING: dLIPS cMOVES: dAGAINST: eCHEEK",
   "cSTICKING: dOUT: eFAR cTIP: dBETWEEN: eLIPS dTOUCHING: eINSIDE: fMOUTH bTORSO-FLOORPLANE:",
   "cTWISTING bTORSO-WALLPLANE: cCURVED: dBEND cSTRAIGHT: dSTRETCH bTOUCH: cBETWEEN cMULTIPLE",
   "cSINGLE bTRAVEL-FLOORPLANE: cROTATION-FLOORPLANE: dALTERNATING dDOUBLE dSINGLE",
   "cROTATION-WALLPLANE: dALTERNATING dDOUBLE dSINGLE cSHAKING bTRAVEL-WALLPLANE: cARM: dSPIRAL:",
   "eDOUBLE eSINGLE eTRIPLE cROTATION-FLOORPLANE: dALTERNATING dDOUBLE dSINGLE",
   "cROTATION-WALLPLANE: dALTERNATING dDOUBLE dSINGLE cSHAKING bUPPER: cBODY: dTILTING: eFROM:",
   "fHIP: gJOINTS bWALLPLANE: cSHOULDER: dHIP: eMOVE aSILHOUETTE: bOF: cJAPAN aSIMILAR: bABOVE:",
   "cGREATER-THAN: dABOVE: eEQUALS: fSIGN cLESS-THAN: dABOVE: eEQUALS: fSIGN bMINUS: cSIMILAR bOR:",
   "cGREATER-THAN cLESS-THAN aSINE: bWAVE aSINGLE: bCHARACTER: cINTRODUCER bGRAPHIC: cCHARACTER:",
   "dINTRODUCER bHIGH-REVERSED-9: cQUOTATION: dMARK bLEFT-POINTING: cANGLE: dQUOTATION: eMARK",
   "bLOW-9: cQUOTATION: dMARK bRIGHT-POINTING: cANGLE: dQUOTATION: eMARK bSHIFT: cTHREE cTWO",
   "aSINGLE-SHIFT-2 aSINGLE-SHIFT-3 aSINHALA: bARCHAIC: cDIGIT: dEIGHT dFIVE dFOUR dNINE dONE",
   "dSEVEN dSIX dTHREE dTWO cNUMBER: dEIGHTY dFIFTY dFORTY dNINETY dONE: eHUNDRED eTHOUSAND",
   "dSEVENTY dSIXTY dTEN dTHIRTY dTWENTY bLETTER: cAAYANNA cAEEYANNA cAEYANNA cAIYANNA",
   "cALPAPRAANA: dBAYANNA dCAYANNA dDAYANNA dDDAYANNA dGAYANNA dJAYANNA dKAYANNA dPAYANNA dTAYANNA",
   "dTTAYANNA cAMBA: dBAYANNA cAUYANNA cAYANNA cDANTAJA: dLAYANNA dNAYANNA dSAYANNA cEEYANNA",
   "cEYANNA cFAYANNA cHAYANNA cIIYANNA cILUUYANNA cILUYANNA cIRUUYANNA cIRUYANNA cIYANNA cKANTAJA:",
   "dNAASIKYAYA cMAHAAPRAANA: dBAYANNA dCAYANNA dDAYANNA dDDAYANNA dGAYANNA dJAYANNA dKAYANNA",
   "dPAYANNA dTAYANNA dTTAYANNA cMAYANNA cMUURDHAJA: dLAYANNA dNAYANNA dSAYANNA cOOYANNA cOYANNA",
   "cRAYANNA cSANYAKA: dDAYANNA dDDAYANNA dGAYANNA dJAYANNA cTAALUJA: dNAASIKYAYA dSANYOOGA:",
   "eNAAKSIKYAYA dSAYANNA cUUYANNA cUYANNA cVAYANNA cYAYANNA bLITH: cDIGIT: dEIGHT dFIVE dFOUR",
   "dNINE dONE dSEVEN dSIX dTHREE dTWO dZERO bPUNCTUATION: cKUNDDALIYA bSIGN: cAL-LAKUNA",
   "cANUSVARAYA cCANDRABINDU cVISARGAYA bVOWEL: cSIGN: dAELA-PILLA dDIGA: eAEDA-PILLA",
   "eGAETTA-PILLA eGAYANUKITTA eIS-PILLA eKOMBUVA ePAA-PILLA dGAETTA-PILLA dGAYANUKITTA dKETTI:",
   "eAEDA-PILLA eIS-PILLA ePAA-PILLA dKOMBU: eDEKA dKOMBUVA eHAA: fAELA-PILLA fDIGA: gAELA-PILLA",
   "fGAYANUKITTA aSIX: bPETALLED: cBLACK: dAND: eWHITE: fFLORETTE bPOINTED: cBLACK: dSTAR",
   "cPINWHEEL: dSTAR cSTAR: dWITH: eMIDDLE: fDOT aSIX-PER-EM: bSPACE aSIXTEEN: bPOINTED: cASTERISK",
   "aSKATEBOARD aSKI: bAND: cSKI: dBOOT aSKIER aSKULL bAND: cCROSSBONES aSKUNK aSLANTED: bEQUAL:",
   "cTO: dOR: eGREATER-THAN fWITH: gDOT: hINSIDE eLESS-THAN fWITH: gDOT: hINSIDE bNORTH: cARROW:",
   "dWITH: eHOOKED: fHEAD eHORIZONTAL: fTAIL aSLAVONIC: bASTERISK aSLED aSLEEPING: bACCOMMODATION",
   "bFACE bSYMBOL aSLEEPY: bFACE aSLEUTH: bOR: cSPY aSLICE: bOF: cPIZZA aSLIGHTLY: bFROWNING:",
   "cFACE bSMILING: cFACE aSLOPE aSLOPING: bLARGE: cAND cOR aSLOT: bMACHINE aSLOTH aSMALL:",
   "bAIRPLANE bAMPERSAND bASTERISK bBLUE: cDIAMOND bCOLON bCOMMA bCOMMERCIAL: cAT bCONTAINS: cAS:",
   "dMEMBER cWITH: dOVERBAR dVERTICAL: eBAR: fAT: gEND: hOF: iHORIZONTAL: jSTROKE bDOLLAR: cSIGN",
   "bELEMENT: cOF dWITH: eOVERBAR eVERTICAL: fBAR: gAT: hEND: iOF: jHORIZONTAL: kSTROKE bEM: cDASH",
   "bEQUALS: cSIGN bEXCLAMATION: cMARK bFULL: cSTOP bGREATER-THAN: cSIGN bHYPHEN-MINUS",
   "bIDEOGRAPHIC: cCOMMA bLEFT: cCURLY: dBRACKET cPARENTHESIS cTORTOISE: dSHELL: eBRACKET",
   "bLESS-THAN: cSIGN bNUMBER: cSIGN bORANGE: cDIAMOND bPERCENT: cSIGN bPLUS: cSIGN bQUESTION:",
   "cMARK bREVERSE: cSOLIDUS bRIGHT: cCURLY: dBRACKET cPARENTHESIS cTORTOISE: dSHELL: eBRACKET",
   "bROMAN: cNUMERAL: dEIGHT dELEVEN dFIFTY dFIVE eHUNDRED dFOUR dNINE dONE eHUNDRED eTHOUSAND",
   "dSEVEN dSIX dTEN dTHREE dTWELVE dTWO bSEMICOLON bTILDE bTWO: cDOTS: dOVER: eONE: fDOT:",
   "gPUNCTUATION bVEE: cWITH: dUNDERBAR aSMALLER: bTHAN cOR: dEQUAL: eTO aSMASH: bPRODUCT aSMILE",
   "aSMILING: bCAT: cFACE: dWITH: eHEART-SHAPED: fEYES eOPEN: fMOUTH bFACE: cWITH: dHALO",
   "dHEART-SHAPED: eEYES dHORNS dOPEN: eMOUTH fAND: gCOLD: hSWEAT gSMILING: hEYES gTIGHTLY-CLOSED:",
   "hEYES dSMILING: eEYES fAND: gHAND: hCOVERING: iMOUTH gTHREE: hHEARTS dSUNGLASSES dTEAR",
   "aSMIRKING: bFACE aSMOKING: bSYMBOL aSNAIL aSNAKE aSNEEZING: bFACE aSNOW: bCAPPED: cMOUNTAIN",
   "aSNOWBOARDER aSNOWFLAKE aSNOWMAN bWITHOUT: cSNOW aSO aSOCCER: bBALL aSOCKS aSOFT: bHYPHEN",
   "bICE: cCREAM bSHELL: cFLOPPY: dDISK aSOFTBALL aSOFTWARE-FUNCTION: bSYMBOL aSOGDIAN:",
   "bCOMBINING: cCURVE: dABOVE dBELOW cDOT: dABOVE dBELOW cHOOK: dABOVE dBELOW cLONG: dHOOK:",
   "eBELOW cRESH: dBELOW cSTROKE: dBELOW cTWO: dDOTS: eABOVE eBELOW bINDEPENDENT: cSHIN bLETTER:",
   "cALEPH cAYIN cBETH cFETH cGIMEL cHE cHETH cKAPH cLAMEDH cLESH cMEM cNUN cPE cRESH-AYIN cSADHE",
   "cSAMEKH cSHIN cTAW cWAW cYODH cZAYIN bNUMBER: cONE dHUNDRED cTEN cTWENTY bPUNCTUATION:",
   "cCIRCLE: dWITH: eDOT cHALF: dCIRCLE: eWITH: fDOT cTWO: dCIRCLES: eWITH: fDOTS dVERTICAL: eBARS",
   "fWITH: gDOTS aSOH aSOLID: bQUILT: cSQUARE: dORNAMENT eIN: fBLACK: gSQUARE aSOLIDUS bWITH:",
   "cOVERBAR aSOM: bSIGN aSOON: bWITH: cRIGHTWARDS: dARROW: eABOVE aSORA: bSOMPENG: cDIGIT: dEIGHT",
   "dFIVE dFOUR dNINE dONE dSEVEN dSIX dTHREE dTWO dZERO cLETTER: dAH dBAH dCAH dDAH dEEH dEH dGAH",
   "dHAH dIH dJAH dKAH dLAH dMAE dMAH dNAH dNGAH dNYAH dOH dPAH dRAH dSAH dTAH dUH dVAH dYAH aSOS",
   "aSOUND: bRECORDING: cCOPYRIGHT aSOUTH: bEAST: cARROW dAND: eSOUTH: fWEST: gARROW dCROSSING:",
   "eNORTH: fEAST: gARROW dTO: eCORNER dWITH: eHOOK cBLACK: dARROW cDOUBLE: dARROW cPOINTING: dBUD",
   "dLEAF dVINE: eLEAF cSANS-SERIF: dARROW cTRIANGLE-HEADED: dARROW eTO: fBAR cWHITE: dARROW",
   "bWEST: cARROW dAND: eNORTH: fWEST: gARROW dWITH: eHOOK cBLACK: dARROW cDOUBLE: dARROW",
   "cPOINTING: dBUD dLEAF dVINE: eLEAF cSANS-SERIF: dARROW cTRIANGLE-HEADED: dARROW eTO: fBAR",
   "cWHITE: dARROW aSOYOMBO: bCLUSTER-INITIAL: cLETTER: dLA dRA dSA dSHA bFINAL: cCONSONANT:",
   "dSIGN: e-A eB eD eG eK eL eM eN eNG eR eS eSH bGEMINATION: cMARK bHEAD: cMARK: dWITH: eMOON:",
   "fAND: gSUN hAND: iFLAME iTRIPLE: jFLAME bLETTER: c-A cA cBA cBHA cCA cCHA cDA cDDA cDDHA cDHA",
   "cDZA cGA cGHA cHA cJA cJHA cKA cKHA cKSSA cLA cMA cNA cNGA cNNA cNYA cPA cPHA cRA cSA cSHA",
   "cSSA cTA cTHA cTSA cTSHA cTTA cTTHA cVA cYA cZA cZHA bMARK: cDOUBLE: dSHAD cPLUTA cSHAD cTSHEG",
   "bSIGN: cANUSVARA cJIHVAMULIYA cUPADHMANIYA cVISARGA bSUBJOINER bTERMINAL: cMARK-1 cMARK-2",
   "bVOWEL: cLENGTH: dMARK cSIGN: dAI dAU dE dI dO dOE dU dUE dVOCALIC: eL eR aSP aSPA aSPACE",
   "aSPAGHETTI aSPARKLE aSPARKLES aSPARKLING: bHEART aSPEAK-NO-EVIL: bMONKEY aSPEAKER bWITH:",
   "cCANCELLATION: dSTROKE cONE: dSOUND: eWAVE cTHREE: dSOUND: eWAVES aSPEAKING: bHEAD: cIN:",
   "dSILHOUETTE aSPEECH: bBALLOON aSPEEDBOAT aSPESMILO: bSIGN aSPHERICAL: bANGLE cOPENING: dLEFT",
   "dUP aSPIDER bWEB aSPIRAL: bCALENDAR: cPAD bNOTE: cPAD bSHELL aSPLASHING: bSWEAT: cSYMBOL",
   "aSPONGE aSPOOL: bOF: cTHREAD aSPOON aSPORTS: bMEDAL aSPOUTING: bWHALE aSQUARE: bA: cOVER: dM",
   "bAARU bAM bANPEA bAPAATO bARUHUA bAU bBAARERU bBAR bBEETA bBIRU bBORUTO bBQ bBUSSYERU bC:",
   "cOVER: dKG bCAL bCAP bCC bCD bCM cCUBED cSQUARED bCO bCORPORATION bCUP bDA bDAASU bDB bDESI",
   "bDJ bDL bDM cCUBED cSQUARED bDORU bEEKAA bERA: cNAME: dHEISEI dMEIZI dREIWA dSYOUWA dTAISYOU",
   "bERG bESUKUUDO bEV bFM bFOOT bFOUR: cCORNERS bGAL bGANMA bGARON bGB bGHZ bGIGA bGINII bGIRUDAA",
   "bGPA bGURAMU bGURAMUTON bGY bHA bHAITU bHEKUTAARU bHERUTU bHG bHIRAGANA: cHOKA bHON bHOON",
   "bHOORU bHP bHPA bHUARADDO bHUIITO bHURAN bHZ bIMAGE: cOF dOR: eEQUAL: fTO eNOT: fEQUAL: gTO",
   "bIN bININGU bINTI bIU bK: cOHM bKA bKAIRI bKARATTO bKARORII bKB bKCAL bKEESU bKG bKHZ bKIRO",
   "bKIROGURAMU bKIROMEETORU bKIROWATTO bKK bKL bKM cCAPITAL cCUBED cSQUARED bKOOPO bKORUNA bKPA",
   "bKT bKUROONE bKURUZEIRO bKV bKW bKYURII bLEFT: cOPEN: dBOX: eOPERATOR bLM bLN bLOG bLOZENGE",
   "bLX bM: cCUBED cOHM cOVER: dS eSQUARED cSQUARED bMA bMAHHA bMAIKURO bMAIRU bMANSYON bMARUKU",
   "bMB cSMALL bMEETORU bMEGA bMEGATON bMG bMHZ bMIKURON bMIL bMIRI bMIRIBAARU bML bMM cCUBED",
   "cSQUARED bMOL bMPA bMS bMU: cA cF cG cL cM cS cV cW bMV cMEGA bMW cMEGA bNA bNANO bNF bNM",
   "bNOTTO bNS bNV bNW bONSU bOOMU bORIGINAL: cOF dOR: eEQUAL: fTO eNOT: fEQUAL: gTO bOV bPA cAMPS",
   "bPAASENTO bPAATU bPC bPEEZI bPENIHI bPENSU bPESO bPF bPH bPIASUTORU bPIKO bPIKURU bPM bPOINTO",
   "bPONDO bPOSITION: cINDICATOR bPPM bPR bPS bPV bPW bRAD cOVER: dS eSQUARED bREMU bRENTOGEN",
   "bRIGHT: cOPEN: dBOX: eOPERATOR bRIRA bRITTORU bROOT bRUPII bRUUBURU bSAIKURU bSANTIIMU bSENTI",
   "bSENTO bSIRINGU bSR bSV bTARGET bTHZ bTON bUON bV: cOVER: dM bWATTO bWB bWITH: cBOTTOM: dHALF:",
   "eBLACK cCONTOURED: dOUTLINE cDIAGONAL: dCROSSHATCH: eFILL cHORIZONTAL: dFILL cLEFT: dHALF:",
   "eBLACK cLOWER: dLEFT: eDIAGONAL: fHALF: gBLACK dRIGHT: eDIAGONAL: fHALF: gBLACK cORTHOGONAL:",
   "dCROSSHATCH: eFILL cRIGHT: dHALF: eBLACK cTOP: dHALF: eBLACK cUPPER: dLEFT: eDIAGONAL: fHALF:",
   "gBLACK eTO: fLOWER: gRIGHT: hFILL dRIGHT: eDIAGONAL: fHALF: gBLACK eTO: fLOWER: gLEFT: hFILL",
   "cVERTICAL: dFILL bYAADO bYAARU bYUAN aSQUARED: bASTERISK bCJK: cUNIFIED: dIDEOGRAPH-4E00",
   "dIDEOGRAPH-4E09 dIDEOGRAPH-4E2D dIDEOGRAPH-4E8C dIDEOGRAPH-4EA4 dIDEOGRAPH-518D",
   "dIDEOGRAPH-521D dIDEOGRAPH-524D dIDEOGRAPH-5272 dIDEOGRAPH-53CC dIDEOGRAPH-53F3",
   "dIDEOGRAPH-5408 dIDEOGRAPH-5439 dIDEOGRAPH-55B6 dIDEOGRAPH-58F0 dIDEOGRAPH-591A",
   "dIDEOGRAPH-5929 dIDEOGRAPH-5B57 dIDEOGRAPH-5DE6 dIDEOGRAPH-5F8C dIDEOGRAPH-624B",
   "dIDEOGRAPH-6253 dIDEOGRAPH-6295 dIDEOGRAPH-6307 dIDEOGRAPH-6355 dIDEOGRAPH-6599",
   "dIDEOGRAPH-65B0 dIDEOGRAPH-6620 dIDEOGRAPH-6708 dIDEOGRAPH-6709 dIDEOGRAPH-6E80",
   "dIDEOGRAPH-6F14 dIDEOGRAPH-7121 dIDEOGRAPH-751F dIDEOGRAPH-7533 dIDEOGRAPH-7981",
   "dIDEOGRAPH-7A7A dIDEOGRAPH-7D42 dIDEOGRAPH-89E3 dIDEOGRAPH-8CA9 dIDEOGRAPH-8D70",
   "dIDEOGRAPH-904A dIDEOGRAPH-914D bCL bCOOL bDOT: cOPERATOR bEIGHT: cK bFALLING: cDIAGONAL:",
   "dSLASH bFIVE: cPOINT: dONE bFOUR: cDOT: dPUNCTUATION cK bFREE bHC bHDR bHI-RES bHV bID",
   "bKATAKANA: cDE cKOKO cSA bKEY bLATIN: cCAPITAL: dLETTER: eA eB eC eD eE eF eG eH eI eJ eK eL",
   "eM eN eO eP eQ eR eS eT eU eV eW eX eY eZ cSMALL: dLETTER: eD bLOGICAL: cAND cOR bLOSSLESS",
   "bMINUS bMV bNEW bNG bOK bONE: cHUNDRED: dTWENTY: eP bPLUS bPPV bRISING: cDIAGONAL: dSLASH",
   "bSALTIRE bSD bSECOND: cSCREEN bSEVEN: cPOINT: dONE bSHV bSIXTY: cP bSMALL: cCIRCLE bSOS",
   "bSQUARE bSS bTHREE: cD bTIMES bTWENTY-TWO: cPOINT: dTWO bTWO: cK bUHD bUP: cWITH:",
   "dEXCLAMATION: eMARK bVOD bVS bWC aSQUAT: bBLACK: cRIGHTWARDS: dARROW aSQUID aSS2 aSS3 aSSA aST",
   "aSTADIUM aSTAFF: bOF: cAESCULAPIUS cHERMES aSTAMPED: bENVELOPE aSTANDING: bPERSON aSTAR: bAND:",
   "cCRESCENT bEQUALS bOF: cDAVID bOPERATOR bWITH: cLEFT: dHALF: eBLACK cRIGHT: dHALF: eBLACK",
   "aSTART: bOF: cGUARDED: dAREA cHEADING cPROTECTED: dAREA cSELECTED: dAREA cSTRING cTEXT",
   "aSTATION aSTATUE: bOF: cLIBERTY aSTEAM: bLOCOMOTIVE aSTEAMING: bBOWL aSTENOGRAPHIC: bFULL:",
   "cSTOP aSTETHOSCOPE aSTICK: bFIGURE cLEANING: dLEFT dRIGHT cWITH: dARMS: eRAISED dDRESS aSTOCK:",
   "bCHART aSTOPWATCH aSTRAIGHT: bRULER aSTRAIGHTNESS aSTRAWBERRY aSTRESS: bOUTLINED: cWHITE:",
   "dSTAR aSTRICTLY: bEQUIVALENT: cTO aSTRING: bTERMINATOR aSTS aSTUDIO: bMICROPHONE aSTUFFED:",
   "bFLATBREAD aSTUPA aSTX aSUB aSUBSCRIPT: bEIGHT bEQUALS: cSIGN bFIVE bFOUR bLEFT: cPARENTHESIS",
   "bMINUS bNINE bONE bPLUS: cSIGN bRIGHT: cPARENTHESIS bSEVEN bSIX bTHREE bTWO bZERO aSUBSET:",
   "bABOVE: cRIGHTWARDS: dARROW cSUBSET cSUPERSET bOF cABOVE: dALMOST: eEQUAL: fTO dEQUALS: eSIGN",
   "dNOT: eEQUAL: fTO dTILDE: eOPERATOR cOR: dEQUAL: eTO fWITH: gDOT: hABOVE cWITH: dNOT: eEQUAL:",
   "fTO bWITH: cDOT cMULTIPLICATION: dSIGN: eBELOW cPLUS: dSIGN: eBELOW aSUBSTITUTE aSUCCEEDS",
   "bABOVE: cALMOST: dEQUAL: eTO cEQUALS: dSIGN cNOT: dALMOST: eEQUAL: fTO dEQUAL: eTO",
   "cSINGLE-LINE: dEQUALS: eSIGN dNOT: eEQUAL: fTO bBUT: cNOT: dEQUIVALENT: eTO bOR: cEQUAL: dTO",
   "cEQUIVALENT: dTO bUNDER: cRELATION aSUMMATION: bBOTTOM bTOP bWITH: cINTEGRAL aSUN bBEHIND:",
   "cCLOUD bWITH: cFACE aSUNDANESE: bAVAGRAHA bCONSONANT: cSIGN: dPAMINGKAL dPANYAKRA dPANYIKU",
   "dPASANGAN: eMA eWA bDIGIT: cEIGHT cFIVE cFOUR cNINE cONE cSEVEN cSIX cTHREE cTWO cZERO",
   "bLETTER: cA cAE cBA cBHA cCA cDA cE cEU cFA cFINAL: dK dM cGA cHA cI cJA cKA cKHA cLA cLEU cMA",
   "cNA cNGA cNYA cO cPA cQA cRA cREU cSA cSYA cTA cU cVA cWA cXA cYA cZA bPUNCTUATION: cBINDU:",
   "dBA: eSATANGA dCAKRA dDA: eSATANGA dKA: eSATANGA dLEU: eSATANGA dPANGLONG dPURNAMA dSURYA",
   "bSIGN: cPAMAAEH cPANGLAYAR cPANGWISAD cPANYECEK cVIRAMA bVOWEL: cSIGN: dPAMEPET dPANAELAENG",
   "dPANEULEUNG dPANGHULU dPANOLONG dPANYUKU aSUNFLOWER aSUNRISE bOVER: cMOUNTAINS aSUNSET: bOVER:",
   "cBUILDINGS aSUPERHERO aSUPERSCRIPT: bEIGHT bEQUALS: cSIGN bFIVE bFOUR bLATIN: cSMALL: dLETTER:",
   "eI eN bLEFT: cPARENTHESIS bMINUS bNINE bONE bPLUS: cSIGN bRIGHT: cPARENTHESIS bSEVEN bSIX",
   "bTHREE bTWO bZERO aSUPERSET: bABOVE: cLEFTWARDS: dARROW cSUBSET cSUPERSET bBESIDE: cAND:",
   "dJOINED: eBY: fDASH: gWITH: hSUBSET cSUBSET bOF cABOVE: dALMOST: eEQUAL: fTO dEQUALS: eSIGN",
   "dNOT: eEQUAL: fTO dTILDE: eOPERATOR cOR: dEQUAL: eTO fWITH: gDOT: hABOVE cWITH: dNOT: eEQUAL:",
   "fTO bPRECEDING: cSOLIDUS bWITH: cDOT cMULTIPLICATION: dSIGN: eBELOW cPLUS: dSIGN: eBELOW",
   "aSUPERVILLAIN aSURFACE: bINTEGRAL aSURFER aSUSHI aSUSPENSION: bRAILWAY aSWAN aSWASH:",
   "bAMPERSAND: cORNAMENT aSWIMMER aSWUNG: bDASH aSYLOTI: bNAGRI: cLETTER: dA dBHO dBO dCHO dCO",
   "dDDHO dDDO dDHO dDO dE dGHO dGO dHO dI dJHO dJO dKHO dKO dLO dMO dNO dO dPHO dPO dRO dRRO dSO",
   "dTHO dTO dTTHO dTTO dU cPOETRY: dMARK-1 dMARK-2 dMARK-3 dMARK-4 cSIGN: dALTERNATE: eHASANTA",
   "dANUSVARA dDVISVARA dHASANTA cVOWEL: dSIGN: eA eE eI eOO eU aSYMBOL: bFOR: cACKNOWLEDGE",
   "cBACKSPACE cBELL cCANCEL cCARRIAGE: dRETURN cDATA: dLINK: eESCAPE cDELETE dFORM: eTWO cDEVICE:",
   "dCONTROL: eFOUR eONE eTHREE eTWO cEND: dOF: eMEDIUM eTEXT eTRANSMISSION fBLOCK cENQUIRY",
   "cESCAPE cFILE: dSEPARATOR cFORM: dFEED cGROUP: dSEPARATOR cHORIZONTAL: dTABULATION cLINE:",
   "dFEED cMARKS: dCHAPTER cNEGATIVE: dACKNOWLEDGE cNEWLINE cNULL cRECORD: dSEPARATOR cSAMARITAN:",
   "dSOURCE cSHIFT: dIN dOUT cSPACE cSTART: dOF: eHEADING eTEXT cSUBSTITUTE dFORM: eTWO",
   "cSYNCHRONOUS: dIDLE cTYPE: dA: eELECTRONICS cUNIT: dSEPARATOR cVERTICAL: dTABULATION aSYMMETRY",
   "aSYN aSYNAGOGUE aSYNCHRONOUS: bIDLE aSYRIAC: bABBREVIATION: cMARK bBARREKH bCOLON: cSKEWED:",
   "dLEFT dRIGHT bCONTRACTION bDOTTED: cZLAMA: dANGULAR dHORIZONTAL bEND: cOF: dPARAGRAPH bESASA:",
   "cABOVE cBELOW bFEMININE: cDOT bHARKLEAN: cASTERISCUS cMETOBELUS cOBELUS bHBASA: cABOVE cBELOW",
   "bHBASA-ESASA: cDOTTED bHORIZONTAL: cCOLON bLETTER: cALAPH cBETH cDALATH cDOTLESS: dDALATH:",
   "eRISH cE cFINAL: dSEMKATH cGAMAL dGARSHUNI cHE cHETH cKAPH cLAMADH cMALAYALAM: dBHA dJA dLLA",
   "dLLLA dNGA dNNA dNNNA dNYA dRA dSSA dTTA cMIM cNUN cPE cPERSIAN: dBHETH dDHALATH dGHAMAL cQAPH",
   "cREVERSED: dPE cRISH cSADHE cSEMKATH cSHIN cSOGDIAN: dFE dKHAPH dZHAIN cSUPERSCRIPT: dALAPH",
   "cTAW cTETH dGARSHUNI cWAW cYUDH dHE cZAIN bMUSIC bOBLIQUE: cLINE: dABOVE dBELOW bPTHAHA:",
   "cABOVE cBELOW cDOTTED bQUSHSHAYA bRBASA: cABOVE cBELOW bRUKKAKHA bRWAHA bSUBLINEAR: cCOLON",
   "dSKEWED: eLEFT eRIGHT cFULL: dSTOP bSUPRALINEAR: cCOLON dSKEWED: eLEFT cFULL: dSTOP bTHREE:",
   "cDOTS: dABOVE dBELOW bTWO: cVERTICAL: dDOTS: eABOVE eBELOW bZQAPHA: cABOVE cBELOW cDOTTED",
   "aSYRINGE aT-REX aT-SHIRT aTAB aTABLE: bTENNIS: cPADDLE: dAND: eBALL aTACO aTAG: bAMPERSAND",
   "bAPOSTROPHE bASTERISK bCIRCUMFLEX: cACCENT bCOLON bCOMMA bCOMMERCIAL: cAT bDIGIT: cEIGHT cFIVE",
   "cFOUR cNINE cONE cSEVEN cSIX cTHREE cTWO cZERO bDOLLAR: cSIGN bEQUALS: cSIGN bEXCLAMATION:",
   "cMARK bFULL: cSTOP bGRAVE: cACCENT bGREATER-THAN: cSIGN bHYPHEN-MINUS bLATIN: cCAPITAL:",
   "dLETTER: eA eB eC eD eE eF eG eH eI eJ eK eL eM eN eO eP eQ eR eS eT eU eV eW eX eY eZ cSMALL:",
   "dLETTER: eA eB eC eD eE eF eG eH eI eJ eK eL eM eN eO eP eQ eR eS eT eU eV eW eX eY eZ bLEFT:",
   "cCURLY: dBRACKET cPARENTHESIS cSQUARE: dBRACKET bLESS-THAN: cSIGN bLOW: cLINE bNUMBER: cSIGN",
   "bPERCENT: cSIGN bPLUS: cSIGN bQUESTION: cMARK bQUOTATION: cMARK bREVERSE: cSOLIDUS bRIGHT:",
   "cCURLY: dBRACKET cPARENTHESIS cSQUARE: dBRACKET bSEMICOLON bSOLIDUS bSPACE bTILDE bVERTICAL:",
   "cLINE aTAGALOG: bLETTER: cA cARCHAIC: dRA cBA cDA cGA cHA cI cKA cLA cMA cNA cNGA cPA cRA cSA",
   "cTA cU cWA cYA bSIGN: cPAMUDPOD cVIRAMA bVOWEL: cSIGN: dI dU aTAGBANWA: bLETTER: cA cBA cDA",
   "cGA cI cKA cLA cMA cNA cNGA cPA cSA cTA cU cWA cYA bVOWEL: cSIGN: dI dU aTAI: bLE: cLETTER: dA",
   "dAI dAUE dE dEE dEH dFA dHA dI dKA dKHA dLA dMA dNA dNGA dO dOO dPA dPHA dQA dSA dTA dTHA",
   "dTONE-2 dTONE-3 dTONE-4 dTONE-5 dTONE-6 dTSA dTSHA dU dUE dVA dXA dYA bTHAM: cCOMBINING:",
   "dCRYPTOGRAMMIC: eDOT cCONSONANT: dSIGN: eBA eFINAL: fNGA eHIGH: fRATHA: gOR: hLOW: iPA eLA:",
   "fTANG: gLAI eLOW: fPA eMA eMEDIAL: fLA fRA eSA cHORA: dDIGIT: eEIGHT eFIVE eFOUR eNINE eONE",
   "eSEVEN eSIX eTHREE eTWO eZERO cLETTER: dA dBA dDA dEE dGREAT: eSA dHIGH: eCA eCHA eFA eHA eKA",
   "eKHA eKXA ePA ePHA eRATHA eSA eSHA eSSA eTA eTHA eYA dI dII dLA dLAE dLLA dLOW: eCA eCHA eFA",
   "eHA eKA eKHA eKXA ePA ePHA eRATHA eSA eTA eTHA eYA dLUE dMA dNA dNGA dNYA dOO dRA dRANA dRATA",
   "dRUE dU dUU dWA cSIGN: dCAANG dDOKMAI dHANG dHOY dKAAN dKAANKUU dKEOW dKHUEN: eTONE-3 eTONE-4",
   "eTONE-5 dKHUEN-LUE: eKARAN dMAI: eKANG fLAI eSAM eYAMOK dRA: eHAAM dREVERSED: eROTATED: fRANA",
   "dSAKOT dSATKAAN dSATKAANKUU dSAWAN dTONE-1 dTONE-2 dWIANG dWIANGWAAK cTHAM: dDIGIT: eEIGHT",
   "eFIVE eFOUR eNINE eONE eSEVEN eSIX eTHREE eTWO eZERO cVOWEL: dSIGN: eA eAA eAE eAI eE eI eII",
   "eMAI: fSAT eO eOA: fABOVE fBELOW eOO eOY eTALL: fAA eTHAM: fAI eU eUE eUU eUUE bVIET: cLETTER:",
   "dHIGH: eBO eCHO eCO eDO eFO eGO eHO eKHHO eKHO eKO eLO eMO eNGO eNO eNYO eO ePHO ePO eRO eSO",
   "eTHO eTO eVO eYO dLOW: eBO eCHO eCO eDO eFO eGO eHO eKHHO eKHO eKO eLO eMO eNGO eNO eNYO eO",
   "ePHO ePO eRO eSO eTHO eTO eVO eYO cMAI: dKANG dKHIT cSYMBOL: dHO: eHOI dKOI: eKOI dKON dNUENG",
   "dSAM cTONE: dMAI: eEK eNUENG eSONG eTHO cVOWEL: dAA dAM dAN dAUE dAY dE dI dIA dO dU dUA dUE",
   "dUEA aTAKEOUT: bBOX aTAKRI: bABBREVIATION: cSIGN bDIGIT: cEIGHT cFIVE cFOUR cNINE cONE cSEVEN",
   "cSIX cTHREE cTWO cZERO bLETTER: cA cAA cAI cARCHAIC: dKHA cAU cBA cBHA cCA cCHA cDA cDDA cDDHA",
   "cDHA cE cGA cGHA cHA cI cII cJA cJHA cKA cKHA cLA cMA cNA cNGA cNNA cNYA cO cPA cPHA cRA cRRA",
   "cSA cSHA cTA cTHA cTTA cTTHA cU cUU cVA cYA bSIGN: cANUSVARA cNUKTA cVIRAMA cVISARGA bVOWEL:",
   "cSIGN: dAA dAI dAU dE dI dII dO dU dUU aTALLY: bMARK: cFIVE cONE aTAMALE aTAMIL: bAND: cODD:",
   "dSIGN bAS: cABOVE: dSIGN bAU: cLENGTH: dMARK bCREDIT: cSIGN bCURRENT: cSIGN bDAY: cSIGN",
   "bDEBIT: cSIGN bDIGIT: cEIGHT cFIVE cFOUR cNINE cONE cSEVEN cSIX cTHREE cTWO cZERO bDRY:",
   "cCULTIVATION: dSIGN bFRACTION: cDOWNSCALING: dFACTOR: eKIIZH cONE: dEIGHTH dEIGHTIETH dFIFTH",
   "dFORTIETH dHALF-1 dHALF-2 dONE-HUNDRED-AND-SIXTIETH dQUARTER dSIXTEENTH-1 dSIXTEENTH-2",
   "dSIXTY-FOURTH dTENTH dTHIRTY-SECOND dTHREE-HUNDRED-AND-TWENTIETH dTWENTIETH cTHREE:",
   "dEIGHTIETHS dQUARTERS dSIXTEENTHS dSIXTY-FOURTHS dTWENTIETHS bIN: cPOSSESSION: dSIGN bLAND:",
   "cSIGN bLETTER: cA cAA cAI cAU cCA cE cEE cHA cI cII cJA cKA cLA cLLA cLLLA cMA cNA cNGA cNNA",
   "cNNNA cNYA cO cOO cPA cRA cRRA cSA cSHA cSSA cTA cTTA cU cUU cVA cYA bMONTH: cSIGN bNUMBER:",
   "cONE: dHUNDRED dTHOUSAND cSIGN cTEN bOM bPUNCTUATION: cEND: dOF: eTEXT bRUPEE: cSIGN bSALT:",
   "cPAN: dSIGN bSIGN: cAAZHAAKKU cANUSVARA cCEVITU cKAACU cKURUNI cKUZHI cMUKKURUNI cMUTHALIYA",
   "cMUUVUZHAKKU cNEL cPAARAM cPANAM cPATHAKKU cPON cUZHAKKU cVAKAIYARAA cVARAAKAN cVELI cVIRAMA",
   "cVISARGA bSPENT: cSIGN bSTARTING: cFROM: dSIGN bTOTAL: cSIGN bTRADITIONAL: cCREDIT: dSIGN",
   "cNUMBER: dSIGN bVOWEL: cSIGN: dAA dAI dAU dE dEE dI dII dO dOO dU dUU bWET: cCULTIVATION:",
   "dSIGN bYEAR: cSIGN aTANABATA: bTREE aTANGERINE aTANGSA: bDIGIT: cEIGHT cFIVE cFOUR cNINE cONE",
   "cSEVEN cSIX cTHREE cTWO cZERO bLETTER: cAC cAQ cAWC cAWQ cAWX cAWZ cAX cAZ cBA cCA cCHA cDA",
   "cDHA cEC cEQ cEX cEZ cFA cFINAL: dNG cGA cGHA cHA cHTA cHTTA cIC cIQ cIX cIZ cKA cKHA cLA",
   "cLONG: dUEX cMA cMC cMQ cMX cMZ cNA cNGA cNHA cNYA cOC cOQ cOX cOZ cPA cPHA cRA cSA cSHA",
   "cSHORT: dAWX dUEZ cTA cTHA cTSA cUC cUEC cUEQ cUEX cUEZ cUIC cUIQ cUIUC cUIUQ cUIUX cUIUZ cUIX",
   "cUIZ cUQ cUX cUZ cVC cVQ cVX cVZ cWA cXA cYA cZA aTANGUT: bCOMPONENT-001 bCOMPONENT-002",
   "bCOMPONENT-003 bCOMPONENT-004 bCOMPONENT-005 bCOMPONENT-006 bCOMPONENT-007 bCOMPONENT-008",
   "bCOMPONENT-009 bCOMPONENT-010 bCOMPONENT-011 bCOMPONENT-012 bCOMPONENT-013 bCOMPONENT-014",
   "bCOMPONENT-015 bCOMPONENT-016 bCOMPONENT-017 bCOMPONENT-018 bCOMPONENT-019 bCOMPONENT-020",
   "bCOMPONENT-021 bCOMPONENT-022 bCOMPONENT-023 bCOMPONENT-024 bCOMPONENT-025 bCOMPONENT-026",
   "bCOMPONENT-027 bCOMPONENT-028 bCOMPONENT-029 bCOMPONENT-030 bCOMPONENT-031 bCOMPONENT-032",
   "bCOMPONENT-033 bCOMPONENT-034 bCOMPONENT-035 bCOMPONENT-036 bCOMPONENT-037 bCOMPONENT-038",
   "bCOMPONENT-039 bCOMPONENT-040 bCOMPONENT-041 bCOMPONENT-042 bCOMPONENT-043 bCOMPONENT-044",
   "bCOMPONENT-045 bCOMPONENT-046 bCOMPONENT-047 bCOMPONENT-048 bCOMPONENT-049 bCOMPONENT-050",
   "bCOMPONENT-051 bCOMPONENT-052 bCOMPONENT-053 bCOMPONENT-054 bCOMPONENT-055 bCOMPONENT-056",
   "bCOMPONENT-057 bCOMPONENT-058 bCOMPONENT-059 bCOMPONENT-060 bCOMPONENT-061 bCOMPONENT-062",
   "bCOMPONENT-063 bCOMPONENT-064 bCOMPONENT-065 bCOMPONENT-066 bCOMPONENT-067 bCOMPONENT-068",
   "bCOMPONENT-069 bCOMPONENT-070 bCOMPONENT-071 bCOMPONENT-072 bCOMPONENT-073 bCOMPONENT-074",
   "bCOMPONENT-075 bCOMPONENT-076 bCOMPONENT-077 bCOMPONENT-078 bCOMPONENT-079 bCOMPONENT-080",
   "bCOMPONENT-081 bCOMPONENT-082 bCOMPONENT-083 bCOMPONENT-084 bCOMPONENT-085 bCOMPONENT-086",
   "bCOMPONENT-087 bCOMPONENT-088 bCOMPONENT-089 bCOMPONENT-090 bCOMPONENT-091 bCOMPONENT-092",
   "bCOMPONENT-093 bCOMPONENT-094 bCOMPONENT-095 bCOMPONENT-096 bCOMPONENT-097 bCOMPONENT-098",
   "bCOMPONENT-099 bCOMPONENT-100 bCOMPONENT-101 bCOMPONENT-102 bCOMPONENT-103 bCOMPONENT-104",
   "bCOMPONENT-105 bCOMPONENT-106 bCOMPONENT-107 bCOMPONENT-108 bCOMPONENT-109 bCOMPONENT-110",
   "bCOMPONENT-111 bCOMPONENT-112 bCOMPONENT-113 bCOMPONENT-114 bCOMPONENT-115 bCOMPONENT-116",
   "bCOMPONENT-117 bCOMPONENT-118 bCOMPONENT-119 bCOMPONENT-120 bCOMPONENT-121 bCOMPONENT-122",
   "bCOMPONENT-123 bCOMPONENT-124 bCOMPONENT-125 bCOMPONENT-126 bCOMPONENT-127 bCOMPONENT-128",
   "bCOMPONENT-129 bCOMPONENT-130 bCOMPONENT-131 bCOMPONENT-132 bCOMPONENT-133 bCOMPONENT-134",
   "bCOMPONENT-135 bCOMPONENT-136 bCOMPONENT-137 bCOMPONENT-138 bCOMPONENT-139 bCOMPONENT-140",
   "bCOMPONENT-141 bCOMPONENT-142 bCOMPONENT-143 bCOMPONENT-144 bCOMPONENT-145 bCOMPONENT-146",
   "bCOMPONENT-147 bCOMPONENT-148 bCOMPONENT-149 bCOMPONENT-150 bCOMPONENT-151 bCOMPONENT-152",
   "bCOMPONENT-153 bCOMPONENT-154 bCOMPONENT-155 bCOMPONENT-156 bCOMPONENT-157 bCOMPONENT-158",
   "bCOMPONENT-159 bCOMPONENT-160 bCOMPONENT-161 bCOMPONENT-162 bCOMPONENT-163 bCOMPONENT-164",
   "bCOMPONENT-165 bCOMPONENT-166 bCOMPONENT-167 bCOMPONENT-168 bCOMPONENT-169 bCOMPONENT-170",
   "bCOMPONENT-171 bCOMPONENT-172 bCOMPONENT-173 bCOMPONENT-174 bCOMPONENT-175 bCOMPONENT-176",
   "bCOMPONENT-177 bCOMPONENT-178 bCOMPONENT-179 bCOMPONENT-180 bCOMPONENT-181 bCOMPONENT-182",
   "bCOMPONENT-183 bCOMPONENT-184 bCOMPONENT-185 bCOMPONENT-186 bCOMPONENT-187 bCOMPONENT-188",
   "bCOMPONENT-189 bCOMPONENT-190 bCOMPONENT-191 bCOMPONENT-192 bCOMPONENT-193 bCOMPONENT-194",
   "bCOMPONENT-195 bCOMPONENT-196 bCOMPONENT-197 bCOMPONENT-198 bCOMPONENT-199 bCOMPONENT-200",
   "bCOMPONENT-201 bCOMPONENT-202 bCOMPONENT-203 bCOMPONENT-204 bCOMPONENT-205 bCOMPONENT-206",
   "bCOMPONENT-207 bCOMPONENT-208 bCOMPONENT-209 bCOMPONENT-210 bCOMPONENT-211 bCOMPONENT-212",
   "bCOMPONENT-213 bCOMPONENT-214 bCOMPONENT-215 bCOMPONENT-216 bCOMPONENT-217 bCOMPONENT-218",
   "bCOMPONENT-219 bCOMPONENT-220 bCOMPONENT-221 bCOMPONENT-222 bCOMPONENT-223 bCOMPONENT-224",
   "bCOMPONENT-225 bCOMPONENT-226 bCOMPONENT-227 bCOMPONENT-228 bCOMPONENT-229 bCOMPONENT-230",
   "bCOMPONENT-231 bCOMPONENT-232 bCOMPONENT-233 bCOMPONENT-234 bCOMPONENT-235 bCOMPONENT-236",
   "bCOMPONENT-237 bCOMPONENT-238 bCOMPONENT-239 bCOMPONENT-240 bCOMPONENT-241 bCOMPONENT-242",
   "bCOMPONENT-243 bCOMPONENT-244 bCOMPONENT-245 bCOMPONENT-246 bCOMPONENT-247 bCOMPONENT-248",
   "bCOMPONENT-249 bCOMPONENT-250 bCOMPONENT-251 bCOMPONENT-252 bCOMPONENT-253 bCOMPONENT-254",
   "bCOMPONENT-255 bCOMPONENT-256 bCOMPONENT-257 bCOMPONENT-258 bCOMPONENT-259 bCOMPONENT-260",
   "bCOMPONENT-261 bCOMPONENT-262 bCOMPONENT-263 bCOMPONENT-264 bCOMPONENT-265 bCOMPONENT-266",
   "bCOMPONENT-267 bCOMPONENT-268 bCOMPONENT-269 bCOMPONENT-270 bCOMPONENT-271 bCOMPONENT-272",
   "bCOMPONENT-273 bCOMPONENT-274 bCOMPONENT-275 bCOMPONENT-276 bCOMPONENT-277 bCOMPONENT-278",
   "bCOMPONENT-279 bCOMPONENT-280 bCOMPONENT-281 bCOMPONENT-282 bCOMPONENT-283 bCOMPONENT-284",
   "bCOMPONENT-285 bCOMPONENT-286 bCOMPONENT-287 bCOMPONENT-288 bCOMPONENT-289 bCOMPONENT-290",
   "bCOMPONENT-291 bCOMPONENT-292 bCOMPONENT-293 bCOMPONENT-294 bCOMPONENT-295 bCOMPONENT-296",
   "bCOMPONENT-297 bCOMPONENT-298 bCOMPONENT-299 bCOMPONENT-300 bCOMPONENT-301 bCOMPONENT-302",
   "bCOMPONENT-303 bCOMPONENT-304 bCOMPONENT-305 bCOMPONENT-306 bCOMPONENT-307 bCOMPONENT-308",
   "bCOMPONENT-309 bCOMPONENT-310 bCOMPONENT-311 bCOMPONENT-312 bCOMPONENT-313 bCOMPONENT-314",
   "bCOMPONENT-315 bCOMPONENT-316 bCOMPONENT-317 bCOMPONENT-318 bCOMPONENT-319 bCOMPONENT-320",
   "bCOMPONENT-321 bCOMPONENT-322 bCOMPONENT-323 bCOMPONENT-324 bCOMPONENT-325 bCOMPONENT-326",
   "bCOMPONENT-327 bCOMPONENT-328 bCOMPONENT-329 bCOMPONENT-330 bCOMPONENT-331 bCOMPONENT-332",
   "bCOMPONENT-333 bCOMPONENT-334 bCOMPONENT-335 bCOMPONENT-336 bCOMPONENT-337 bCOMPONENT-338",
   "bCOMPONENT-339 bCOMPONENT-340 bCOMPONENT-341 bCOMPONENT-342 bCOMPONENT-343 bCOMPONENT-344",
   "bCOMPONENT-345 bCOMPONENT-346 bCOMPONENT-347 bCOMPONENT-348 bCOMPONENT-349 bCOMPONENT-350",
   "bCOMPONENT-351 bCOMPONENT-352 bCOMPONENT-353 bCOMPONENT-354 bCOMPONENT-355 bCOMPONENT-356",
   "bCOMPONENT-357 bCOMPONENT-358 bCOMPONENT-359 bCOMPONENT-360 bCOMPONENT-361 bCOMPONENT-362",
   "bCOMPONENT-363 bCOMPONENT-364 bCOMPONENT-365 bCOMPONENT-366 bCOMPONENT-367 bCOMPONENT-368",
   "bCOMPONENT-369 bCOMPONENT-370 bCOMPONENT-371 bCOMPONENT-372 bCOMPONENT-373 bCOMPONENT-374",
   "bCOMPONENT-375 bCOMPONENT-376 bCOMPONENT-377 bCOMPONENT-378 bCOMPONENT-379 bCOMPONENT-380",
   "bCOMPONENT-381 bCOMPONENT-382 bCOMPONENT-383 bCOMPONENT-384 bCOMPONENT-385 bCOMPONENT-386",
   "bCOMPONENT-387 bCOMPONENT-388 bCOMPONENT-389 bCOMPONENT-390 bCOMPONENT-391 bCOMPONENT-392",
   "bCOMPONENT-393 bCOMPONENT-394 bCOMPONENT-395 bCOMPONENT-396 bCOMPONENT-397 bCOMPONENT-398",
   "bCOMPONENT-399 bCOMPONENT-400 bCOMPONENT-401 bCOMPONENT-402 bCOMPONENT-403 bCOMPONENT-404",
   "bCOMPONENT-405 bCOMPONENT-406 bCOMPONENT-407 bCOMPONENT-408 bCOMPONENT-409 bCOMPONENT-410",
   "bCOMPONENT-411 bCOMPONENT-412 bCOMPONENT-413 bCOMPONENT-414 bCOMPONENT-415 bCOMPONENT-416",
   "bCOMPONENT-417 bCOMPONENT-418 bCOMPONENT-419 bCOMPONENT-420 bCOMPONENT-421 bCOMPONENT-422",
   "bCOMPONENT-423 bCOMPONENT-424 bCOMPONENT-425 bCOMPONENT-426 bCOMPONENT-427 bCOMPONENT-428",
   "bCOMPONENT-429 bCOMPONENT-430 bCOMPONENT-431 bCOMPONENT-432 bCOMPONENT-433 bCOMPONENT-434",
   "bCOMPONENT-435 bCOMPONENT-436 bCOMPONENT-437 bCOMPONENT-438 bCOMPONENT-439 bCOMPONENT-440",
   "bCOMPONENT-441 bCOMPONENT-442 bCOMPONENT-443 bCOMPONENT-444 bCOMPONENT-445 bCOMPONENT-446",
   "bCOMPONENT-447 bCOMPONENT-448 bCOMPONENT-449 bCOMPONENT-450 bCOMPONENT-451 bCOMPONENT-452",
   "bCOMPONENT-453 bCOMPONENT-454 bCOMPONENT-455 bCOMPONENT-456 bCOMPONENT-457 bCOMPONENT-458",
   "bCOMPONENT-459 bCOMPONENT-460 bCOMPONENT-461 bCOMPONENT-462 bCOMPONENT-463 bCOMPONENT-464",
   "bCOMPONENT-465 bCOMPONENT-466 bCOMPONENT-467 bCOMPONENT-468 bCOMPONENT-469 bCOMPONENT-470",
   "bCOMPONENT-471 bCOMPONENT-472 bCOMPONENT-473 bCOMPONENT-474 bCOMPONENT-475 bCOMPONENT-476",
   "bCOMPONENT-477 bCOMPONENT-478 bCOMPONENT-479 bCOMPONENT-480 bCOMPONENT-481 bCOMPONENT-482",
   "bCOMPONENT-483 bCOMPONENT-484 bCOMPONENT-485 bCOMPONENT-486 bCOMPONENT-487 bCOMPONENT-488",
   "bCOMPONENT-489 bCOMPONENT-490 bCOMPONENT-491 bCOMPONENT-492 bCOMPONENT-493 bCOMPONENT-494",
   "bCOMPONENT-495 bCOMPONENT-496 bCOMPONENT-497 bCOMPONENT-498 bCOMPONENT-499 bCOMPONENT-500",
   "bCOMPONENT-501 bCOMPONENT-502 bCOMPONENT-503 bCOMPONENT-504 bCOMPONENT-505 bCOMPONENT-506",
   "bCOMPONENT-507 bCOMPONENT-508 bCOMPONENT-509 bCOMPONENT-510 bCOMPONENT-511 bCOMPONENT-512",
   "bCOMPONENT-513 bCOMPONENT-514 bCOMPONENT-515 bCOMPONENT-516 bCOMPONENT-517 bCOMPONENT-518",
   "bCOMPONENT-519 bCOMPONENT-520 bCOMPONENT-521 bCOMPONENT-522 bCOMPONENT-523 bCOMPONENT-524",
   "bCOMPONENT-525 bCOMPONENT-526 bCOMPONENT-527 bCOMPONENT-528 bCOMPONENT-529 bCOMPONENT-530",
   "bCOMPONENT-531 bCOMPONENT-532 bCOMPONENT-533 bCOMPONENT-534 bCOMPONENT-535 bCOMPONENT-536",
   "bCOMPONENT-537 bCOMPONENT-538 bCOMPONENT-539 bCOMPONENT-540 bCOMPONENT-541 bCOMPONENT-542",
   "bCOMPONENT-543 bCOMPONENT-544 bCOMPONENT-545 bCOMPONENT-546 bCOMPONENT-547 bCOMPONENT-548",
   "bCOMPONENT-549 bCOMPONENT-550 bCOMPONENT-551 bCOMPONENT-552 bCOMPONENT-553 bCOMPONENT-554",
   "bCOMPONENT-555 bCOMPONENT-556 bCOMPONENT-557 bCOMPONENT-558 bCOMPONENT-559 bCOMPONENT-560",
   "bCOMPONENT-561 bCOMPONENT-562 bCOMPONENT-563 bCOMPONENT-564 bCOMPONENT-565 bCOMPONENT-566",
   "bCOMPONENT-567 bCOMPONENT-568 bCOMPONENT-569 bCOMPONENT-570 bCOMPONENT-571 bCOMPONENT-572",
   "bCOMPONENT-573 bCOMPONENT-574 bCOMPONENT-575 bCOMPONENT-576 bCOMPONENT-577 bCOMPONENT-578",
   "bCOMPONENT-579 bCOMPONENT-580 bCOMPONENT-581 bCOMPONENT-582 bCOMPONENT-583 bCOMPONENT-584",
   "bCOMPONENT-585 bCOMPONENT-586 bCOMPONENT-587 bCOMPONENT-588 bCOMPONENT-589 bCOMPONENT-590",
   "bCOMPONENT-591 bCOMPONENT-592 bCOMPONENT-593 bCOMPONENT-594 bCOMPONENT-595 bCOMPONENT-596",
   "bCOMPONENT-597 bCOMPONENT-598 bCOMPONENT-599 bCOMPONENT-600 bCOMPONENT-601 bCOMPONENT-602",
   "bCOMPONENT-603 bCOMPONENT-604 bCOMPONENT-605 bCOMPONENT-606 bCOMPONENT-607 bCOMPONENT-608",
   "bCOMPONENT-609 bCOMPONENT-610 bCOMPONENT-611 bCOMPONENT-612 bCOMPONENT-613 bCOMPONENT-614",
   "bCOMPONENT-615 bCOMPONENT-616 bCOMPONENT-617 bCOMPONENT-618 bCOMPONENT-619 bCOMPONENT-620",
   "bCOMPONENT-621 bCOMPONENT-622 bCOMPONENT-623 bCOMPONENT-624 bCOMPONENT-625 bCOMPONENT-626",
   "bCOMPONENT-627 bCOMPONENT-628 bCOMPONENT-629 bCOMPONENT-630 bCOMPONENT-631 bCOMPONENT-632",
   "bCOMPONENT-633 bCOMPONENT-634 bCOMPONENT-635 bCOMPONENT-636 bCOMPONENT-637 bCOMPONENT-638",
   "bCOMPONENT-639 bCOMPONENT-640 bCOMPONENT-641 bCOMPONENT-642 bCOMPONENT-643 bCOMPONENT-644",
   "bCOMPONENT-645 bCOMPONENT-646 bCOMPONENT-647 bCOMPONENT-648 bCOMPONENT-649 bCOMPONENT-650",
   "bCOMPONENT-651 bCOMPONENT-652 bCOMPONENT-653 bCOMPONENT-654 bCOMPONENT-655 bCOMPONENT-656",
   "bCOMPONENT-657 bCOMPONENT-658 bCOMPONENT-659 bCOMPONENT-660 bCOMPONENT-661 bCOMPONENT-662",
   "bCOMPONENT-663 bCOMPONENT-664 bCOMPONENT-665 bCOMPONENT-666 bCOMPONENT-667 bCOMPONENT-668",
   "bCOMPONENT-669 bCOMPONENT-670 bCOMPONENT-671 bCOMPONENT-672 bCOMPONENT-673 bCOMPONENT-674",
   "bCOMPONENT-675 bCOMPONENT-676 bCOMPONENT-677 bCOMPONENT-678 bCOMPONENT-679 bCOMPONENT-680",
   "bCOMPONENT-681 bCOMPONENT-682 bCOMPONENT-683 bCOMPONENT-684 bCOMPONENT-685 bCOMPONENT-686",
   "bCOMPONENT-687 bCOMPONENT-688 bCOMPONENT-689 bCOMPONENT-690 bCOMPONENT-691 bCOMPONENT-692",
   "bCOMPONENT-693 bCOMPONENT-694 bCOMPONENT-695 bCOMPONENT-696 bCOMPONENT-697 bCOMPONENT-698",
   "bCOMPONENT-699 bCOMPONENT-700 bCOMPONENT-701 bCOMPONENT-702 bCOMPONENT-703 bCOMPONENT-704",
   "bCOMPONENT-705 bCOMPONENT-706 bCOMPONENT-707 bCOMPONENT-708 bCOMPONENT-709 bCOMPONENT-710",
   "bCOMPONENT-711 bCOMPONENT-712 bCOMPONENT-713 bCOMPONENT-714 bCOMPONENT-715 bCOMPONENT-716",
   "bCOMPONENT-717 bCOMPONENT-718 bCOMPONENT-719 bCOMPONENT-720 bCOMPONENT-721 bCOMPONENT-722",
   "bCOMPONENT-723 bCOMPONENT-724 bCOMPONENT-725 bCOMPONENT-726 bCOMPONENT-727 bCOMPONENT-728",
   "bCOMPONENT-729 bCOMPONENT-730 bCOMPONENT-731 bCOMPONENT-732 bCOMPONENT-733 bCOMPONENT-734",
   "bCOMPONENT-735 bCOMPONENT-736 bCOMPONENT-737 bCOMPONENT-738 bCOMPONENT-739 bCOMPONENT-740",
   "bCOMPONENT-741 bCOMPONENT-742 bCOMPONENT-743 bCOMPONENT-744 bCOMPONENT-745 bCOMPONENT-746",
   "bCOMPONENT-747 bCOMPONENT-748 bCOMPONENT-749 bCOMPONENT-750 bCOMPONENT-751 bCOMPONENT-752",
   "bCOMPONENT-753 bCOMPONENT-754 bCOMPONENT-755 bCOMPONENT-756 bCOMPONENT-757 bCOMPONENT-758",
   "bCOMPONENT-759 bCOMPONENT-760 bCOMPONENT-761 bCOMPONENT-762 bCOMPONENT-763 bCOMPONENT-764",
   "bCOMPONENT-765 bCOMPONENT-766 bCOMPONENT-767 bCOMPONENT-768 bITERATION: cMARK aTAPE:",
   "bCARTRIDGE bDRIVE aTAURUS aTAXI aTEACUP: bWITHOUT: cHANDLE aTEAPOT aTEAR-OFF: bCALENDAR",
   "aTEARDROP-BARBED: bRIGHTWARDS: cARROW aTEARDROP-SPOKED: bASTERISK aTEDDY: bBEAR aTELEPHONE:",
   "bLOCATION: cSIGN bON: cTOP: dOF: eMODEM bRECEIVER cWITH: dPAGE bRECORDER bSIGN aTELESCOPE",
   "aTELEVISION aTELUGU: bAI: cLENGTH: dMARK bDIGIT: cEIGHT cFIVE cFOUR cNINE cONE cSEVEN cSIX",
   "cTHREE cTWO cZERO bFRACTION: cDIGIT: dONE: eFOR: fEVEN: gPOWERS: hOF: iFOUR fODD: gPOWERS:",
   "hOF: iFOUR dTHREE: eFOR: fEVEN: gPOWERS: hOF: iFOUR fODD: gPOWERS: hOF: iFOUR dTWO: eFOR:",
   "fEVEN: gPOWERS: hOF: iFOUR fODD: gPOWERS: hOF: iFOUR dZERO: eFOR: fODD: gPOWERS: hOF: iFOUR",
   "bLENGTH: cMARK bLETTER: cA cAA cAI cAU cBA cBHA cCA cCHA cDA cDDA cDDHA cDHA cDZA cE cEE cGA",
   "cGHA cHA cI cII cJA cJHA cKA cKHA cLA cLLA cLLLA cMA cNA cNAKAARA: dPOLLU cNGA cNNA cNYA cO",
   "cOO cPA cPHA cRA cRRA cRRRA cSA cSHA cSSA cTA cTHA cTSA cTTA cTTHA cU cUU cVA cVOCALIC: dL dLL",
   "dR dRR cYA bSIGN: cANUSVARA cAVAGRAHA cCANDRABINDU cCOMBINING: dANUSVARA: eABOVE dCANDRABINDU:",
   "eABOVE cNUKTA cSIDDHAM cTUUMU cVIRAMA cVISARGA bVOWEL: cSIGN: dAA dAI dAU dE dEE dI dII dO dOO",
   "dU dUU dVOCALIC: eL eLL eR eRR aTENGE: bSIGN aTENNIS: bRACQUET: cAND: dBALL aTENT aTEST: bTUBE",
   "aTETRAGRAM: bFOR: cACCUMULATION cADVANCE cAGGRAVATION cASCENT cBARRIER cBOLD: dRESOLUTION",
   "cBRANCHING: dOUT cCENTRE cCHANGE cCLOSED: dMOUTH cCLOSENESS cCLOSURE cCOMPLETION cCOMPLIANCE",
   "cCONSTANCY cCONTACT cCONTENTION cCONTRARIETY cDARKENING cDECISIVENESS cDEFECTIVENESS: dOR:",
   "eDISTORTION cDEPARTURE cDIFFICULTIES cDIMINISHMENT cDIMMING cDIVERGENCE cDOUBT cDUTIES cEASE",
   "cEMBELLISHMENT cENCOUNTERS cENDEAVOUR cENLARGEMENT cETERNITY cEXHAUSTION cFAILURE cFLIGHT",
   "cFOLLOWING cFOSTERING cFULL: dCIRCLE cFULLNESS cGATHERING dIN cGOING: dTO: eMEET cGREATNESS",
   "cGUARDEDNESS cHARDNESS cHOLDING: dBACK cINCREASE cINNER cJOY cKEEPING: dSMALL cKINSHIP",
   "cLABOURING cLAW: dOR: eMODEL cLEGION cMASSING cMEASURE cMIRED cON: dTHE: eVERGE cOPPOSITION",
   "cPACKING cPATTERN cPENETRATION cPURITY cREACH cRELEASE cRESIDENCE cRESISTANCE cRESPONSE",
   "cRITUAL cSEVERANCE cSINKING cSTOPPAGE cSTOVE cSTRENGTH cUNITY cVASTNESS: dOR: eWASTING",
   "cWAITING cWATCH cYOUTHFULNESS aTHAANA: bAABAAFILI bABAFILI bEBEFILI bEEBEEFILI bEYBEYFILI",
   "bIBIFILI bLETTER: cAINU cALIFU cBAA cCHAVIYANI cDAADHU cDAVIYANI cDHAALU cFAAFU cGAAFU cGHAINU",
   "cGNAVIYANI cHAA cHHAA cJAVIYANI cKAAFU cKHAA cLAAMU cLHAVIYANI cMEEMU cNAA cNOONU cPAVIYANI",
   "cQAAFU cRAA cSAADHU cSEENU cSHAVIYANI cSHEENU cTAVIYANI cTHAA cTHAALU cTO cTTAA cVAAVU cWAAVU",
   "cYAA cZAA cZAVIYANI cZO bOABOAFILI bOBOFILI bOOBOOFILI bSUKUN bUBUFILI aTHAI: bCHARACTER:",
   "cANGKHANKHU cBO: dBAIMAI cCHO: dCHAN dCHANG dCHING dCHOE cDO: dCHADA dDEK cFO: dFA dFAN",
   "cFONGMAN cHO: dHIP dNOKHUK cKHO: dKHAI dKHON dKHUAT dKHWAI dRAKHANG cKHOMUT cKO: dKAI",
   "cLAKKHANGYAO cLO: dCHULA dLING cLU cMAI: dCHATTAWA dEK dHAN-AKAT dTHO dTRI cMAITAIKHU",
   "cMAIYAMOK cMO: dMA cNGO: dNGU cNIKHAHIT cNO: dNEN dNU cO: dANG cPAIYANNOI cPHINTHU cPHO: dPHAN",
   "dPHUNG dSAMPHAO cPO: dPLA cRO: dRUA cRU cSARA: dA dAA dAE dAI: eMAIMALAI eMAIMUAN dAM dE dI",
   "dII dO dU dUE dUEE dUU cSO: dRUSI dSALA dSO dSUA cTHANTHAKHAT cTHO: dNANGMONTHO dPHUTHAO",
   "dTHAHAN dTHAN dTHONG dTHUNG cTO: dPATAK dTAO cWO: dWAEN cYAMAKKAN cYO: dYAK dYING bCURRENCY:",
   "cSYMBOL: dBAHT bDIGIT: cEIGHT cFIVE cFOUR cNINE cONE cSEVEN cSIX cTHREE cTWO cZERO aTHERE:",
   "bDOES: cNOT: dEXIST bEXISTS aTHEREFORE aTHERMODYNAMIC aTHERMOMETER aTHIN: bGREEK: cCROSS",
   "bSALTIRE bSPACE aTHINKING: bFACE aTHIRD: bPLACE: cMEDAL aTHONG: bSANDAL aTHOUGHT: bBALLOON",
   "aTHREE: bBUTTON: cMOUSE bCONSECUTIVE: cEQUALS: dSIGNS bDIMENSIONAL: cANGLE bDOT: cPUNCTUATION",
   "bLEFTWARDS: cARROWS bLINES: cCONVERGING: dLEFT dRIGHT bNETWORKED: cCOMPUTERS bPOINTED: cBLACK:",
   "dSTAR bRAYS: cABOVE cBELOW cLEFT cRIGHT bRIGHTWARDS: cARROWS bSPEECH: cBUBBLES aTHREE-D:",
   "bBOTTOM-LIGHTED: cRIGHTWARDS: dARROWHEAD bLEFT-LIGHTED: cDOWNWARDS: dEQUILATERAL: eARROWHEAD",
   "bRIGHT-LIGHTED: cUPWARDS: dEQUILATERAL: eARROWHEAD bTOP-LIGHTED: cLEFTWARDS: dEQUILATERAL:",
   "eARROWHEAD cRIGHTWARDS: dARROWHEAD dEQUILATERAL: eARROWHEAD aTHREE-EM: bDASH aTHREE-PER-EM:",
   "bSPACE aTHUMBS: bDOWN: cSIGN bUP: cSIGN aTHUNDER: bCLOUD: cAND: dRAIN aTHUNDERSTORM aTIBETAN:",
   "bASTROLOGICAL: cSIGN: d-KHYUD: ePA dSDONG: eTSHUGS dSGRA: eGCAN: f-CHAR: gRTAGS bCANTILLATION:",
   "cSIGN: dCANG: eTE-U dHEAVY: eBEAT dLIGHT: eBEAT dSBUB: e-CHAL bDIGIT: cEIGHT cFIVE cFOUR",
   "cHALF: dEIGHT dFIVE dFOUR dNINE dONE dSEVEN dSIX dTHREE dTWO dZERO cNINE cONE cSEVEN cSIX",
   "cTHREE cTWO cZERO bKU: cRU: dKHA eBZHI: fMIG: gCAN bLETTER: c-A cA cBA cBHA cCA cCHA cDA cDDA",
   "cDDHA cDHA cDZA cDZHA cFIXED-FORM: dRA cGA cGHA cHA cJA cKA cKHA cKKA cKSSA cLA cMA cNA cNGA",
   "cNNA cNYA cPA cPHA cRA cRRA cSA cSHA cSSA cTA cTHA cTSA cTSHA cTTA cTTHA cWA cYA cZA cZHA",
   "bLOGOTYPE: cSIGN: dCHAD: eRTAGS dLHAG: eRTAGS bMARK: cANG: dKHANG: eGYAS eGYON cBKA-: dSHOG:",
   "eGI: fMGO: gRGYAN eYIG: fMGO cBSDUS: dRTAGS cBSKA-: dSHOG: eGI: fMGO: gRGYAN cBSKUR: dYIG:",
   "eMGO cCARET: d-DZUD: eRTAGS: fBZHI: gMIG: hCAN fME: gLONG: hCAN dYIG: eMGO: fPHUR: gSHAD: hMA",
   "cCHE: dMGO cCLOSING: dBRDA: eRNYING: fYIG: gMGO: hSGAB: iMA dYIG: eMGO: fSGAB: gMA cDELIMITER:",
   "dTSHEG: eBSTAR cGTER: dTSHEG dYIG: eMGO: f-UM: gGTER: hTSHEG: iMA gRNAM: hBCAD: iMA",
   "fTRUNCATED: gA cGUG: dRTAGS: eGYAS eGYON cHALANTA cINITIAL: dBRDA: eRNYING: fYIG: gMGO: hMDUN:",
   "iMA dYIG: eMGO: fMDUN: gMA cINTERSYLLABIC: dTSHEG cLEADING: dMCHAN: eRTAGS cMNYAM: dYIG: eGI:",
   "fMGO: gRGYAN cNGAS: dBZUNG: eNYI: fZLA eSGOR: fRTAGS cNYIS: dSHAD dTSHEG eSHAD cPALUTA cRGYA:",
   "dGRAM: eSHAD cRIN: dCHEN: eSPUNGS: fSHAD cSBRUL: dSHAD cSHAD cTRAILING: dMCHAN: eRTAGS cTSA:",
   "d-PHRU cTSHEG: dSHAD cYIG: dMGO: eTSHEG: fSHAD: gMA bSIGN: cGRU: dCAN: eRGYINGS dMED: eRGYINGS",
   "cINVERTED: dMCHU: eCAN cLCE: dTSA: eCAN cLCI: dRTAGS cMAR: dTSHES cMCHU: dCAN cNYI: dZLA:",
   "eNAA: fDA cRDEL: dDKAR: eGCIG eGNYIS eGSUM eRDEL: fNAG dNAG: eGCIG eGNYIS eGSUM eRDEL: fDKAR",
   "cRJES: dSU: eNGA: fRO cRNAM: dBCAD cSNA: dLDAN cYANG: dRTAGS cYAR: dTSHES bSUBJOINED: cLETTER:",
   "d-A dA dBA dBHA dCA dCHA dDA dDDA dDDHA dDHA dDZA dDZHA dFIXED-FORM: eRA eWA eYA dGA dGHA dHA",
   "dJA dKA dKHA dKSSA dLA dMA dNA dNGA dNNA dNYA dPA dPHA dRA dSA dSHA dSSA dTA dTHA dTSA dTSHA",
   "dTTA dTTHA dWA dYA dZA dZHA cSIGN: dINVERTED: eMCHU: fCAN dLCE: eTSA: fCAN dMCHU: eCAN",
   "bSYLLABLE: cOM bSYMBOL: cDRIL: dBU cNOR: dBU eBZHI: f-KHYIL eGSUM: f-KHYIL eNYIS: f-KHYIL",
   "cPADMA: dGDAN cPHUR: dPA cRDO: dRJE eRGYA: fGRAM bVOWEL: cSIGN: dAA dE dEE dI dII dO dOO",
   "dREVERSED: eI eII dU dUU dVOCALIC: eL eLL eR eRR aTICKET aTIE: bOVER: cINFINITY aTIFINAGH:",
   "bCONSONANT: cJOINER bLETTER: cAHAGGAR: dYAZH cAYER: dYAGH cBERBER: dACADEMY: eYAH eYAJ",
   "cTAWELLEMET: dYAZ cTUAREG: dYAGH dYAGN dYAH dYAK dYAKH dYANG dYAQ dYAZH cYA cYAA cYAB cYABH",
   "cYACH cYAD cYADD cYADDH cYADH cYAF cYAG cYAGH cYAGHH cYAH cYAHH cYAJ cYAK cYAKH cYAKHH cYAL",
   "cYAM cYAN cYAP cYAQ cYAR cYARR cYAS cYASH cYASS cYAT cYATH cYATT cYAV cYAW cYAY cYAZ cYAZH",
   "cYAZZ cYE cYEY cYI cYO cYU bMODIFIER: cLETTER: dLABIALIZATION: eMARK bSEPARATOR: cMARK aTIGER",
   "bFACE aTIGHT: bTRIFOLIATE: cSNOWFLAKE aTILDE bOPERATOR cABOVE: dLEFTWARDS: eARROW dRIGHTWARDS:",
   "eARROW cWITH: dDOT: eABOVE dRISING: eDOTS bWITH: cDOT: dABOVE dBELOW cRING: dABOVE aTIMER:",
   "bCLOCK aTIMES: bWITH: cLEFT: dHALF: eBLACK cRIGHT: dHALF: eBLACK aTINY bTWO: cDOTS: dOVER:",
   "eONE: fDOT: gPUNCTUATION aTIRED: bFACE aTIRHUTA: bABBREVIATION: cSIGN bANJI bDIGIT: cEIGHT",
   "cFIVE cFOUR cNINE cONE cSEVEN cSIX cTHREE cTWO cZERO bGVANG bLETTER: cA cAA cAI cAU cBA cBHA",
   "cCA cCHA cDA cDDA cDDHA cDHA cE cGA cGHA cHA cI cII cJA cJHA cKA cKHA cLA cMA cNA cNGA cNNA",
   "cNYA cO cPA cPHA cRA cSA cSHA cSSA cTA cTHA cTTA cTTHA cU cUU cVA cVOCALIC: dL dLL dR dRR cYA",
   "bOM bSIGN: cANUSVARA cAVAGRAHA cCANDRABINDU cNUKTA cVIRAMA cVISARGA bVOWEL: cSIGN: dAA dAI dAU",
   "dE dI dII dO dSHORT: eE eO dU dUU dVOCALIC: eL eLL eR eRR aTIRONIAN: bSIGN: cCAPITAL: dET cET",
   "aTOILET aTOKYO: bTOWER aTOMATO aTONGUE aTOOLBOX aTOOTH aTOOTHBRUSH aTOP: bARC: cANTICLOCKWISE:",
   "dARROW eWITH: fPLUS cCLOCKWISE: dARROW: eWITH: fMINUS bCURLY: cBRACKET bHALF: cBLACK: dCIRCLE",
   "cINTEGRAL cLEFT: dPARENTHESIS cRIGHT: dPARENTHESIS cSECTION: dSIGN bHAT bLEFT: cCORNER cCROP",
   "cHALF: dBRACKET bPARENTHESIS bRIGHT: cCORNER cCROP cHALF: dBRACKET bSQUARE: cBRACKET",
   "bTORTOISE: cSHELL: dBRACKET bWITH: cUPWARDS: dARROW: eABOVE aTORTOISE: bSHELL: cBRACKETED:",
   "dCJK: eUNIFIED: fIDEOGRAPH-4E09 fIDEOGRAPH-4E8C fIDEOGRAPH-52DD fIDEOGRAPH-5B89",
   "fIDEOGRAPH-6253 fIDEOGRAPH-6557 fIDEOGRAPH-672C fIDEOGRAPH-70B9 fIDEOGRAPH-76D7 dLATIN:",
   "eCAPITAL: fLETTER: gS aTOTAL: bRUNOUT aTOTO: bLETTER: cA cAE cBA cBREATHY: dAE dE dEO dI dIU",
   "cCHA cDA cE cEO cGA cHA cI cIU cJA cKA cLA cMA cNA cNGA cO cPA cRA cSA cTA cU cWA cYA bSIGN:",
   "cRISING: dTONE aTRACKBALL aTRACTOR aTRADE: bMARK: cSIGN aTRAIN aTRAM bCAR aTRANSPLUTO",
   "aTRANSVERSAL: bINTERSECTION aTRIANGLE: bWITH: cDOT: dABOVE cROUNDED: dCORNERS cSERIFS: dAT:",
   "eBOTTOM cUNDERBAR aTRIANGLE-HEADED: bRIGHTWARDS: cARROW aTRIANGULAR: bBULLET bFLAG: cON: dPOST",
   "bRULER aTRICOLON aTRIDENT: bEMBLEM aTRIGRAM: bFOR: cEARTH cFIRE cHEAVEN cLAKE cMOUNTAIN",
   "cTHUNDER cWATER cWIND aTRIPLE: bCOLON: cOPERATOR bDAGGER bHORIZONTAL: cBAR: dWITH: eDOUBLE:",
   "fVERTICAL: gSTROKE eTRIPLE: fVERTICAL: gSTROKE bINTEGRAL bNESTED: cGREATER-THAN cLESS-THAN",
   "bPLUS bPRIME bSOLIDUS: cBINARY: dRELATION bTILDE bVERTICAL: cBAR: dBINARY: eRELATION",
   "dDELIMITER dRIGHT: eTURNSTILE dWITH: eHORIZONTAL: fSTROKE aTROLL aTROLLEYBUS aTROPHY",
   "aTROPICAL: bDRINK bFISH aTRUE bLIGHT: cMOON: dARTA aTRUMPET aTUGRIK: bSIGN aTULIP aTUMBLER:",
   "bGLASS aTURKEY aTURKISH: bLIRA: cSIGN aTURNED: bAMPERSAND bANGLE bBLACK: cPENTAGON cSHOGI:",
   "dPIECE bCAPITAL: cF bCOMMA bDAGGER bDIGIT: cTHREE cTWO bGREEK: cSMALL: dLETTER: eIOTA bNORTH:",
   "cEAST: dPOINTING: eLEAF cWEST: dPOINTING: eLEAF bNOT: cSIGN bOK: cHAND: dSIGN bSANS-SERIF:",
   "cCAPITAL: dG dL dY bSEMICOLON bSMALL: cF bSOUTH: cEAST: dPOINTING: eLEAF cWEST: dPOINTING:",
   "eLEAF bWHITE: cSHOGI: dPIECE aTURTLE aTWELVE: bPOINTED: cBLACK: dSTAR aTWISTED: bRIGHTWARDS:",
   "cARROWS aTWO: bASTERISKS: cALIGNED: dVERTICALLY bBUTTON: cMOUSE bCONSECUTIVE: cEQUALS: dSIGNS",
   "bDOT: cLEADER cPUNCTUATION bDOTS: cOVER: dONE: eDOT: fPUNCTUATION bHEARTS bINTERSECTING:",
   "cLOGICAL: dAND dOR bJOINED: cSQUARES bLOGICAL: cAND: dOPERATOR cOR: dOPERATOR bMEN: cHOLDING:",
   "dHANDS bSPEECH: cBUBBLES bWOMEN: cHOLDING: dHANDS aTWO-EM: bDASH aUGARITIC: bLETTER: cAIN",
   "cALPA cBETA cDELTA cDHAL cGAMLA cGHAIN cHO cHOTA cI cKAF cKHA cLAMDA cMEM cNUN cPU cQOPA",
   "cRASHA cSADE cSAMKA cSHIN cSSU cTET cTHANNA cTO cU cWO cYOD cZETA cZU bWORD: cDIVIDER",
   "aUMBRELLA bON: cGROUND bWITH: cRAIN: dDROPS aUNAMUSED: bFACE aUNCERTAINTY: bSIGN aUNDERTIE",
   "aUNDO: bSYMBOL aUNICORN: bFACE aUNION bABOVE: cBAR: dABOVE: eINTERSECTION cINTERSECTION",
   "bBESIDE: cAND: dJOINED: eWITH: fUNION bWITH: cLOGICAL: dOR cMINUS: dSIGN cOVERBAR aUNIT:",
   "bSEPARATOR aUNITED: bSYMBOL aUNIVERSAL: bRECYCLING: cSYMBOL aUNMARRIED: bPARTNERSHIP: cSYMBOL",
   "aUP: bARROW: cTHROUGH: dCIRCLE bARROWHEAD cBETWEEN: dTWO: eHORIZONTAL: fBARS cIN: dA:",
   "eRECTANGLE: fBOX bBARB: cLEFT: dDOWN: eBARB: fLEFT: gHARPOON fRIGHT: gHARPOON cRIGHT: dDOWN:",
   "eBARB: fLEFT: gHARPOON fRIGHT: gHARPOON bDOWN: cARROW dWITH: eBASE cBLACK: dARROW cDOUBLE:",
   "dARROW cSANS-SERIF: dARROW cTRIANGLE-HEADED: dARROW cWHITE: dARROW bFISH: cTAIL bRIGHT:",
   "cDIAGONAL: dELLIPSIS bTACK cWITH: dCIRCLE: eABOVE aUP-POINTING: bAIRPLANE bMILITARY: cAIRPLANE",
   "bRED: cTRIANGLE bSMALL: cAIRPLANE cRED: dTRIANGLE bTRIANGLE: cWITH: dLEFT: eHALF: fBLACK",
   "dRIGHT: eHALF: fBLACK aUPPER: bAND: cLEFT: dAND: eLOWER: fTRIANGULAR: gTHREE: hQUARTERS:",
   "iBLOCK cLOWER: dONE: eEIGHTH: fBLOCK dTRIANGULAR: eHALF: fBLOCK cRIGHT: dAND: eLOWER:",
   "fTRIANGULAR: gTHREE: hQUARTERS: iBLOCK bBLADE: cSCISSORS bFIVE: cEIGHTHS: dBLOCK bHALF: cBLOCK",
   "dAND: eLOWER: fHALF: gINVERSE: hMEDIUM: iSHADE cCIRCLE cINVERSE: dMEDIUM: eSHADE: fAND:",
   "gLOWER: hHALF: iBLOCK dWHITE: eCIRCLE cMEDIUM: dSHADE bLEFT: cBLOCK: dDIAGONAL: eLOWER:",
   "fCENTRE: gTO: hLOWER: iMIDDLE: jRIGHT hUPPER: iMIDDLE: jRIGHT iRIGHT fLEFT: gTO: hLOWER:",
   "iMIDDLE: jRIGHT hUPPER: iCENTRE iMIDDLE: jRIGHT fMIDDLE: gLEFT: hTO: iUPPER: jCENTRE jMIDDLE:",
   "kRIGHT jRIGHT eUPPER: fMIDDLE: gLEFT: hTO: iUPPER: jCENTRE jRIGHT cCORNER: dWITH: eDOT cOR:",
   "dLOWER: eRIGHT: fCURLY: gBRACKET: hSECTION cQUADRANT: dCIRCULAR: eARC cTO: dLOWER: eRIGHT:",
   "fFILL cTRIANGLE cTRIANGULAR: dMEDIUM: eSHADE bONE: cEIGHTH: dBLOCK cQUARTER: dBLOCK bRIGHT:",
   "cBLOCK: dDIAGONAL: eLOWER: fMIDDLE: gLEFT: hTO: iLOWER: jCENTRE jRIGHT eUPPER: fCENTRE: gTO:",
   "hLOWER: iMIDDLE: jRIGHT iRIGHT hUPPER: iMIDDLE: jRIGHT fLEFT: gTO: hLOWER: iCENTRE iMIDDLE:",
   "jRIGHT hUPPER: iMIDDLE: jRIGHT fMIDDLE: gLEFT: hTO: iLOWER: jCENTRE jMIDDLE: kRIGHT jRIGHT",
   "cDROP-SHADOWED: dWHITE: eSQUARE cOR: dLOWER: eLEFT: fCURLY: gBRACKET: hSECTION cPENCIL",
   "cQUADRANT: dCIRCULAR: eARC cSHADOWED: dWHITE: eCIRCLE eSQUARE cTO: dLOWER: eLEFT: fFILL",
   "cTRIANGLE cTRIANGULAR: dMEDIUM: eSHADE bSEVEN: cEIGHTHS: dBLOCK bTHREE: cEIGHTHS: dBLOCK",
   "cQUARTERS: dBLOCK bTRIANGULAR: cONE: dQUARTER: eBLOCK aUPSIDE-DOWN: bFACE aUPWARDS: bANCORA",
   "bARROW cAND: dRIGHT: eONE: fEIGHTH: gBLOCK cFROM: dBAR cLEFTWARDS: dOF: eDOWNWARDS: fARROW",
   "cTO: dBAR cWITH: dDOUBLE: eSTROKE dEQUILATERAL: eARROWHEAD dHORIZONTAL: eSTROKE dLARGE:",
   "eTRIANGLE: fARROWHEAD dMEDIUM: eTRIANGLE: fARROWHEAD dNOTCHED: eTAIL dSMALL: eEQUILATERAL:",
   "fARROWHEAD eTRIANGLE: fARROWHEAD dTIP: eLEFTWARDS eRIGHTWARDS bBLACK: cARROW cCIRCLED: dWHITE:",
   "eARROW bCOMPRESSED: cARROW bDASHED: cARROW bDOUBLE: cARROW bFINGER-POST: cARROW bHARPOON:",
   "cWITH: dBARB: eLEFT: fBESIDE: gDOWNWARDS: hHARPOON: iWITH: jBARB: kRIGHT gUPWARDS: hHARPOON:",
   "iWITH: jBARB: kRIGHT fFROM: gBAR fTO: gBAR eLEFTWARDS eRIGHT: fFROM: gBAR fTO: gBAR",
   "eRIGHTWARDS bHEAVY: cARROW cCOMPRESSED: dARROW bPAIRED: cARROWS bQUADRUPLE: cARROW bROCKET",
   "bSANS-SERIF: cARROW bSQUARED: cARROW bTRIANGLE: cARROWHEAD bTRIANGLE-HEADED: cARROW",
   "dLEFTWARDS: eOF: fDOWNWARDS: gTRIANGLE-HEADED: hARROW dTO: eBAR dWITH: eBOLD: fSHAFT eDOUBLE:",
   "fHORIZONTAL: gSTROKE eHEAVY: fSHAFT eLONG: fTIP: gLEFTWARDS gRIGHTWARDS eMEDIUM: fSHAFT",
   "eNARROW: fSHAFT eVERY: fHEAVY: gSHAFT cDASHED: dARROW cPAIRED: dARROWS bTRIPLE: cARROW bTWO:",
   "cHEADED: dARROW bTWO-HEADED: cARROW: dFROM: eSMALL: fCIRCLE dWITH: eTRIANGLE: fARROWHEADS",
   "bWHITE: cARROW dFROM: eBAR fWITH: gHORIZONTAL: hBAR dON: ePEDESTAL fWITH: gHORIZONTAL: hBAR",
   "gVERTICAL: hBAR dWITHIN: eTRIANGLE: fARROWHEAD cDOUBLE: dARROW eON: fPEDESTAL aURANUS aUS",
   "aVAI: bCOMMA bDIGIT: cEIGHT cFIVE cFOUR cNINE cONE cSEVEN cSIX cTHREE cTWO cZERO bFULL: cSTOP",
   "bQUESTION: cMARK bSYLLABLE: cA cAN cBA cBE cBEE cBHA cBHE cBHEE cBHI cBHO cBHOO cBHU cBI cBO",
   "cBOO cBU cCA cCE cCEE cCI cCO cCOO cCU cDA cDE cDEE cDHA cDHE cDHEE cDHHA cDHHE cDHHEE cDHHI",
   "cDHHO cDHHOO cDHHU cDHI cDHO cDHOO cDHU cDI cDO cDOO cDU cE cEE cEEN cEN cFA cFE cFEE cFI cFO",
   "cFOO cFU cGA cGBA cGBE cGBEE cGBEN cGBI cGBO cGBON cGBOO cGBU cGE cGEE cGEN cGI cGO cGOO cGU",
   "cHA cHAN cHE cHEE cHEN cHI cHIN cHO cHON cHOO cHU cHUN cI cIN cJA cJE cJEE cJI cJO cJOO cJU",
   "cKA cKAN cKE cKEE cKI cKO cKOO cKPA cKPAN cKPE cKPEE cKPEN cKPI cKPO cKPOO cKPU cKU cLA cLE",
   "cLEE cLENGTHENER cLI cLO cLOO cLU cMA cMBA cMBE cMBEE cMBI cMBO cMBOO cMBU cME cMEE cMGBA",
   "cMGBE cMGBEE cMGBI cMGBO cMGBOO cMGBU cMI cMO cMOO cMU cNA cNDA cNDE cNDEE cNDI cNDO cNDOLE:",
   "dDO dFA dKA dMA dSOO cNDOO cNDU cNE cNEE cNG cNGAN cNGEN cNGGA cNGGE cNGGEE cNGGEN cNGGI cNGGO",
   "cNGGOO cNGGU cNGON cNI cNJA cNJE cNJEE cNJI cNJO cNJOO cNJU cNO cNOO cNU cNYA cNYE cNYEE cNYI",
   "cNYO cNYOO cNYU cO cON cOO cOON cPA cPE cPEE cPI cPO cPOO cPU cRA cRE cREE cRI cRO cROO cRU",
   "cSA cSE cSEE cSHA cSHE cSHEE cSHI cSHO cSHOO cSHU cSI cSO cSOO cSU cTA cTE cTEE cTHA cTHE",
   "cTHEE cTHI cTHO cTHOO cTHU cTI cTO cTOO cTU cU cUN cVA cVE cVEE cVI cVO cVOO cVU cWA cWAN cWE",
   "cWEE cWEEN cWEN cWI cWIN cWO cWON cWOO cWOON cWU cWUN cYA cYE cYEE cYI cYO cYOO cYU cZA cZE",
   "cZEE cZHA cZHE cZHEE cZHI cZHO cZHOO cZHU cZI cZO cZOO cZU bSYMBOL: cBANG cDANG cDO-O cDOONG",
   "cFAA cFEENG cJONG cKEENG cKUNG cNII cTAA cTING cTONG aVAMPIRE aVARIATION: bSELECTOR-1",
   "bSELECTOR-10 bSELECTOR-100 bSELECTOR-101 bSELECTOR-102 bSELECTOR-103 bSELECTOR-104",
   "bSELECTOR-105 bSELECTOR-106 bSELECTOR-107 bSELECTOR-108 bSELECTOR-109 bSELECTOR-11",
   "bSELECTOR-110 bSELECTOR-111 bSELECTOR-112 bSELECTOR-113 bSELECTOR-114 bSELECTOR-115",
   "bSELECTOR-116 bSELECTOR-117 bSELECTOR-118 bSELECTOR-119 bSELECTOR-12 bSELECTOR-120",
   "bSELECTOR-121 bSELECTOR-122 bSELECTOR-123 bSELECTOR-124 bSELECTOR-125 bSELECTOR-126",
   "bSELECTOR-127 bSELECTOR-128 bSELECTOR-129 bSELECTOR-13 bSELECTOR-130 bSELECTOR-131",
   "bSELECTOR-132 bSELECTOR-133 bSELECTOR-134 bSELECTOR-135 bSELECTOR-136 bSELECTOR-137",
   "bSELECTOR-138 bSELECTOR-139 bSELECTOR-14 bSELECTOR-140 bSELECTOR-141 bSELECTOR-142",
   "bSELECTOR-143 bSELECTOR-144 bSELECTOR-145 bSELECTOR-146 bSELECTOR-147 bSELECTOR-148",
   "bSELECTOR-149 bSELECTOR-15 bSELECTOR-150 bSELECTOR-151 bSELECTOR-152 bSELECTOR-153",
   "bSELECTOR-154 bSELECTOR-155 bSELECTOR-156 bSELECTOR-157 bSELECTOR-158 bSELECTOR-159",
   "bSELECTOR-16 bSELECTOR-160 bSELECTOR-161 bSELECTOR-162 bSELECTOR-163 bSELECTOR-164",
   "bSELECTOR-165 bSELECTOR-166 bSELECTOR-167 bSELECTOR-168 bSELECTOR-169 bSELECTOR-17",
   "bSELECTOR-170 bSELECTOR-171 bSELECTOR-172 bSELECTOR-173 bSELECTOR-174 bSELECTOR-175",
   "bSELECTOR-176 bSELECTOR-177 bSELECTOR-178 bSELECTOR-179 bSELECTOR-18 bSELECTOR-180",
   "bSELECTOR-181 bSELECTOR-182 bSELECTOR-183 bSELECTOR-184 bSELECTOR-185 bSELECTOR-186",
   "bSELECTOR-187 bSELECTOR-188 bSELECTOR-189 bSELECTOR-19 bSELECTOR-190 bSELECTOR-191",
   "bSELECTOR-192 bSELECTOR-193 bSELECTOR-194 bSELECTOR-195 bSELECTOR-196 bSELECTOR-197",
   "bSELECTOR-198 bSELECTOR-199 bSELECTOR-2 bSELECTOR-20 bSELECTOR-200 bSELECTOR-201 bSELECTOR-202",
   "bSELECTOR-203 bSELECTOR-204 bSELECTOR-205 bSELECTOR-206 bSELECTOR-207 bSELECTOR-208",
   "bSELECTOR-209 bSELECTOR-21 bSELECTOR-210 bSELECTOR-211 bSELECTOR-212 bSELECTOR-213",
   "bSELECTOR-214 bSELECTOR-215 bSELECTOR-216 bSELECTOR-217 bSELECTOR-218 bSELECTOR-219",
   "bSELECTOR-22 bSELECTOR-220 bSELECTOR-221 bSELECTOR-222 bSELECTOR-223 bSELECTOR-224",
   "bSELECTOR-225 bSELECTOR-226 bSELECTOR-227 bSELECTOR-228 bSELECTOR-229 bSELECTOR-23",
   "bSELECTOR-230 bSELECTOR-231 bSELECTOR-232 bSELECTOR-233 bSELECTOR-234 bSELECTOR-235",
   "bSELECTOR-236 bSELECTOR-237 bSELECTOR-238 bSELECTOR-239 bSELECTOR-24 bSELECTOR-240",
   "bSELECTOR-241 bSELECTOR-242 bSELECTOR-243 bSELECTOR-244 bSELECTOR-245 bSELECTOR-246",
   "bSELECTOR-247 bSELECTOR-248 bSELECTOR-249 bSELECTOR-25 bSELECTOR-250 bSELECTOR-251",
   "bSELECTOR-252 bSELECTOR-253 bSELECTOR-254 bSELECTOR-255 bSELECTOR-256 bSELECTOR-26",
   "bSELECTOR-27 bSELECTOR-28 bSELECTOR-29 bSELECTOR-3 bSELECTOR-30 bSELECTOR-31 bSELECTOR-32",
   "bSELECTOR-33 bSELECTOR-34 bSELECTOR-35 bSELECTOR-36 bSELECTOR-37 bSELECTOR-38 bSELECTOR-39",
   "bSELECTOR-4 bSELECTOR-40 bSELECTOR-41 bSELECTOR-42 bSELECTOR-43 bSELECTOR-44 bSELECTOR-45",
   "bSELECTOR-46 bSELECTOR-47 bSELECTOR-48 bSELECTOR-49 bSELECTOR-5 bSELECTOR-50 bSELECTOR-51",
   "bSELECTOR-52 bSELECTOR-53 bSELECTOR-54 bSELECTOR-55 bSELECTOR-56 bSELECTOR-57 bSELECTOR-58",
   "bSELECTOR-59 bSELECTOR-6 bSELECTOR-60 bSELECTOR-61 bSELECTOR-62 bSELECTOR-63 bSELECTOR-64",
   "bSELECTOR-65 bSELECTOR-66 bSELECTOR-67 bSELECTOR-68 bSELECTOR-69 bSELECTOR-7 bSELECTOR-70",
   "bSELECTOR-71 bSELECTOR-72 bSELECTOR-73 bSELECTOR-74 bSELECTOR-75 bSELECTOR-76 bSELECTOR-77",
   "bSELECTOR-78 bSELECTOR-79 bSELECTOR-8 bSELECTOR-80 bSELECTOR-81 bSELECTOR-82 bSELECTOR-83",
   "bSELECTOR-84 bSELECTOR-85 bSELECTOR-86 bSELECTOR-87 bSELECTOR-88 bSELECTOR-89 bSELECTOR-9",
   "bSELECTOR-90 bSELECTOR-91 bSELECTOR-92 bSELECTOR-93 bSELECTOR-94 bSELECTOR-95 bSELECTOR-96",
   "bSELECTOR-97 bSELECTOR-98 bSELECTOR-99 aVECTOR: bOR: cCROSS: dPRODUCT aVEDIC: bSIGN:",
   "cANUSVARA: dANTARGOMUKHA dBAHIRGOMUKHA dUBHAYATO: eMUKHA dVAMAGOMUKHA eWITH: fTAIL",
   "cARDHAVISARGA cATIKRAMA cDOUBLE: dANUSVARA: eANTARGOMUKHA cHEXIFORM: dLONG: eANUSVARA",
   "cJIHVAMULIYA cLONG: dANUSVARA cNIHSHVASA cREVERSED: dVISARGA: eANUDATTA eUDATTA cROTATED:",
   "dARDHAVISARGA cRTHANG: dLONG: eANUSVARA cTIRYAK cUPADHMANIYA cVISARGA: dANUDATTA eWITH: fTAIL",
   "dSVARITA dUDATTA eWITH: fTAIL cYAJURVEDIC: dMIDLINE: eSVARITA bTONE: cATHARVAVEDIC:",
   "dINDEPENDENT: eSVARITA cCANDRA: dABOVE dBELOW cDOT: dBELOW cDOUBLE: dRING: eABOVE dSVARITA",
   "cKARSHANA cKATHAKA: dANUDATTA cPRENKHA cRIGVEDIC: dKASHMIRI: eINDEPENDENT: fSVARITA cRING:",
   "dABOVE cSHARA cTHREE: dDOTS: eBELOW cTRIPLE: dSVARITA cTWO: dDOTS: eBELOW cYAJURVEDIC:",
   "dAGGRAVATED: eINDEPENDENT: fSVARITA dINDEPENDENT: eSVARITA dKATHAKA: eINDEPENDENT: fSVARITA",
   "gSCHROEDER aVERSICLE aVERTICAL: bBAR: cBESIDE: dRIGHT: eTRIANGLE cDOUBLE: dLEFT: eTURNSTILE",
   "cTRIPLE: dRIGHT: eTURNSTILE cWITH: dHORIZONTAL: eSTROKE bELLIPSIS bFOUR: cDOTS bIDEOGRAPHIC:",
   "cITERATION: dMARK bKANA: cREPEAT: dMARK eLOWER: fHALF eUPPER: fHALF dWITH: eVOICED: fSOUND:",
   "gMARK hUPPER: iHALF bLINE cEXTENSION cWITH: dCIRCLE: eABOVE eBELOW dMIDDLE: eDOT bMALE: cWITH:",
   "dSTROKE: eSIGN bONE: cEIGHTH: dBLOCK-2 dBLOCK-3 dBLOCK-4 dBLOCK-5 dBLOCK-6 dBLOCK-7 bSIX:",
   "cDOTS bTAB: cKEY bTABULATION cSET bTILDE bTRAFFIC: cLIGHT bZIGZAG: cLINE aVERY: bBOLD: cGREEK:",
   "dCROSS bHEAVY: cEIGHT: dPOINTED: eBLACK: fSTAR dSPOKED: eASTERISK cFIVE: dSPOKED: eASTERISK",
   "cGREEK: dCROSS cREVERSE: dSOLIDUS cSALTIRE cSIX: dSPOKED: eASTERISK cSOLIDUS cWHITE: dCIRCLE",
   "dSQUARE bMUCH: cGREATER-THAN cLESS-THAN aVESTA aVIBRATION: bMODE aVICTORY: bHAND aVIDEO:",
   "bCAMERA bGAME aVIDEOCASSETTE aVIETNAMESE: bALTERNATE: cREADING: dMARK: eCA eNHAY aVIEWDATA:",
   "bSQUARE aVIOLIN aVIRGO aVITHKUQI: bCAPITAL: cLETTER: dA dBBE dBE dCE dCHE dDE dDHE dE dEI dFE",
   "dGA dHA dHHA dI dIJE dJE dKA dLA dLLA dME dNE dNJE dO dPE dQA dRE dSE dSHE dTE dTHE dU dVE dXE",
   "dY dZE bSMALL: cLETTER: dA dBBE dBE dCE dCHE dDE dDHE dE dEI dFE dGA dHA dHHA dI dIJE dJE dKA",
   "dLA dLLA dME dNE dNJE dO dPE dQA dRE dSE dSHE dTE dTHE dU dVE dXE dY dZE aVOIDED: bGREEK:",
   "cCROSS aVOLCANO aVOLLEYBALL aVOLUME: bINTEGRAL aVS1 aVS10 aVS100 aVS101 aVS102 aVS103 aVS104",
   "aVS105 aVS106 aVS107 aVS108 aVS109 aVS11 aVS110 aVS111 aVS112 aVS113 aVS114 aVS115 aVS116",
   "aVS117 aVS118 aVS119 aVS12 aVS120 aVS121 aVS122 aVS123 aVS124 aVS125 aVS126 aVS127 aVS128",
   "aVS129 aVS13 aVS130 aVS131 aVS132 aVS133 aVS134 aVS135 aVS136 aVS137 aVS138 aVS139 aVS14",
   "aVS140 aVS141 aVS142 aVS143 aVS144 aVS145 aVS146 aVS147 aVS148 aVS149 aVS15 aVS150 aVS151",
   "aVS152 aVS153 aVS154 aVS155 aVS156 aVS157 aVS158 aVS159 aVS16 aVS160 aVS161 aVS162 aVS163",
   "aVS164 aVS165 aVS166 aVS167 aVS168 aVS169 aVS17 aVS170 aVS171 aVS172 aVS173 aVS174 aVS175",
   "aVS176 aVS177 aVS178 aVS179 aVS18 aVS180 aVS181 aVS182 aVS183 aVS184 aVS185 aVS186 aVS187",
   "aVS188 aVS189 aVS19 aVS190 aVS191 aVS192 aVS193 aVS194 aVS195 aVS196 aVS197 aVS198 aVS199 aVS2",
   "aVS20 aVS200 aVS201 aVS202 aVS203 aVS204 aVS205 aVS206 aVS207 aVS208 aVS209 aVS21 aVS210",
   "aVS211 aVS212 aVS213 aVS214 aVS215 aVS216 aVS217 aVS218 aVS219 aVS22 aVS220 aVS221 aVS222",
   "aVS223 aVS224 aVS225 aVS226 aVS227 aVS228 aVS229 aVS23 aVS230 aVS231 aVS232 aVS233 aVS234",
   "aVS235 aVS236 aVS237 aVS238 aVS239 aVS24 aVS240 aVS241 aVS242 aVS243 aVS244 aVS245 aVS246",
   "aVS247 aVS248 aVS249 aVS25 aVS250 aVS251 aVS252 aVS253 aVS254 aVS255 aVS256 aVS26 aVS27 aVS28",
   "aVS29 aVS3 aVS30 aVS31 aVS32 aVS33 aVS34 aVS35 aVS36 aVS37 aVS38 aVS39 aVS4 aVS40 aVS41 aVS42",
   "aVS43 aVS44 aVS45 aVS46 aVS47 aVS48 aVS49 aVS5 aVS50 aVS51 aVS52 aVS53 aVS54 aVS55 aVS56 aVS57",
   "aVS58 aVS59 aVS6 aVS60 aVS61 aVS62 aVS63 aVS64 aVS65 aVS66 aVS67 aVS68 aVS69 aVS7 aVS70 aVS71",
   "aVS72 aVS73 aVS74 aVS75 aVS76 aVS77 aVS78 aVS79 aVS8 aVS80 aVS81 aVS82 aVS83 aVS84 aVS85 aVS86",
   "aVS87 aVS88 aVS89 aVS9 aVS90 aVS91 aVS92 aVS93 aVS94 aVS95 aVS96 aVS97 aVS98 aVS99 aVT aVTS",
   "aVULCANUS aVULGAR: bFRACTION: cFIVE: dEIGHTHS dSIXTHS cFOUR: dFIFTHS cONE: dEIGHTH dFIFTH",
   "dHALF dNINTH dQUARTER dSEVENTH dSIXTH dTENTH dTHIRD cSEVEN: dEIGHTHS cTHREE: dEIGHTHS dFIFTHS",
   "dQUARTERS cTWO: dFIFTHS dTHIRDS cZERO: dTHIRDS aWAFFLE aWANCHO: bDIGIT: cEIGHT cFIVE cFOUR",
   "cNINE cONE cSEVEN cSIX cTHREE cTWO cZERO bLETTER: cA cAA cAAN cAANG cANG cAU cBA cCA cDA cE",
   "cEN cFA cGA cHA cI cING cJA cKA cKHA cLA cLLHA cMA cNA cNGA cNYA cO cON cONG cPA cPHA cRA cSA",
   "cSHA cTA cTHA cTRA cTSA cU cUEN cVA cWA cYA cYIH cZA bNGUN: cSIGN bTONE: cKOI cKOINI cTUP",
   "cTUPNI aWANING: bCRESCENT: cMOON: dSYMBOL bGIBBOUS: cMOON: dSYMBOL aWARANG: bCITI: cCAPITAL:",
   "dLETTER: eA eAM eANG eAT eBU eDA eE eENN eENY eGA eHAR eHIYO eHOLO eHORR eII eKO eNGAA eNUNG",
   "eO eODD ePU eSII eSSUU eTTE eUC eUU eVIYO eWI eYA eYO eYU eYUJ cDIGIT: dEIGHT dFIVE dFOUR",
   "dNINE dONE dSEVEN dSIX dTHREE dTWO dZERO cNUMBER: dEIGHTY dFIFTY dFORTY dNINETY dSEVENTY",
   "dSIXTY dTEN dTHIRTY dTWENTY cOM cSMALL: dLETTER: eA eAM eANG eAT eBU eDA eE eENN eENY eGA eHAR",
   "eHIYO eHOLO eHORR eII eKO eNGAA eNUNG eO eODD ePU eSII eSSUU eTTE eUC eUU eVIYO eWI eYA eYO",
   "eYU eYUJ aWARNING: bSIGN aWASTEBASKET aWATCH aWATER: bBUFFALO bCLOSET bPOLO bWAVE aWATERMELON",
   "aWAVE: bARROW: cPOINTING: dDIRECTLY: eLEFT eRIGHT bDASH aWAVING: bBLACK: cFLAG bHAND: cSIGN",
   "bWHITE: cFLAG aWAVY: bDASH bLINE bLOW: cLINE bOVERLINE aWAXING: bCRESCENT: cMOON: dSYMBOL",
   "bGIBBOUS: cMOON: dSYMBOL aWEARY: bCAT: cFACE bFACE aWEDDING aWEDGE-TAILED: bRIGHTWARDS: cARROW",
   "aWEIERSTRASS: bELLIPTIC: cFUNCTION aWEIGHT: bLIFTER aWEST: bSYRIAC: cCROSS aWHALE aWHEEL bOF:",
   "cDHARMA aWHEELCHAIR: bSYMBOL aWHITE: bARROW: cSHAFT: dWIDTH: eONE eTWO: fTHIRDS bBULLET",
   "bCHESS: cBISHOP dROTATED: eNINETY: fDEGREES eTWO: fHUNDRED: gSEVENTY: hDEGREES cEQUIHOPPER",
   "dROTATED: eNINETY: fDEGREES cKING dROTATED: eNINETY: fDEGREES eTWO: fHUNDRED: gSEVENTY:",
   "hDEGREES cKNIGHT dROTATED: eFORTY-FIVE: fDEGREES eNINETY: fDEGREES eONE: fHUNDRED:",
   "gTHIRTY-FIVE: hDEGREES eTHREE: fHUNDRED: gFIFTEEN: hDEGREES eTWO: fHUNDRED: gSEVENTY: hDEGREES",
   "gTWENTY-FIVE: hDEGREES cKNIGHT-BISHOP cKNIGHT-QUEEN cKNIGHT-ROOK cPAWN dROTATED: eNINETY:",
   "fDEGREES eTWO: fHUNDRED: gSEVENTY: hDEGREES cQUEEN dROTATED: eNINETY: fDEGREES eTWO: fHUNDRED:",
   "gSEVENTY: hDEGREES cROOK dROTATED: eNINETY: fDEGREES eTWO: fHUNDRED: gSEVENTY: hDEGREES",
   "cTURNED: dBISHOP dKING dKNIGHT dPAWN dQUEEN dROOK bCIRCLE cCONTAINING: dBLACK: eSMALL: fCIRCLE",
   "cWITH: dDOT: eRIGHT dDOWN: eARROW dLOWER: eLEFT: fQUADRANT eRIGHT: fQUADRANT dTWO: eDOTS",
   "dUPPER: eLEFT: fQUADRANT eRIGHT: fQUADRANT bCLUB: cSUIT bCONCAVE-SIDED: cDIAMOND dWITH:",
   "eLEFTWARDS: fTICK eRIGHTWARDS: fTICK bDIAMOND cCONTAINING: dBLACK: eMEDIUM: fDIAMOND eSMALL:",
   "fDIAMOND eVERY: fSMALL: gDIAMOND cIN: dSQUARE cSUIT cWITH: dCENTRED: eDOT bDOWN: cPOINTING:",
   "dBACKHAND: eINDEX dINDEX dLEFT: eHAND: fINDEX bDOWN-POINTING: cSMALL: dTRIANGLE cTRIANGLE",
   "bDRAUGHTS: cKING cMAN bEXCLAMATION: cMARK: dORNAMENT bFLAG cWITH: dHORIZONTAL: eMIDDLE:",
   "fBLACK: gSTRIPE bFLORETTE bFLOWER bFOUR: cPOINTED: dCUSP dSTAR bFROWNING: cFACE bHARD: cSHELL:",
   "dFLOPPY: eDISK bHEART cSUIT bHEAVY: cCHECK: dMARK cSALTIRE: dWITH: eROUNDED: fCORNERS bHEXAGON",
   "bHORIZONTAL: cELLIPSE bHOURGLASS bLARGE: cSQUARE bLATIN: cCROSS bLEFT: cLANE: dMERGE",
   "cPOINTING: dBACKHAND: eINDEX dINDEX bLEFT-POINTING: cPOINTER cSMALL: dTRIANGLE cTRIANGLE",
   "bLOZENGE: cCONTAINING: dBLACK: eSMALL: fLOZENGE bMEDIUM: cDIAMOND cLOZENGE cSMALL: dSQUARE",
   "cSQUARE cSTAR bMOON: cSELENA bNIB bPARALLELOGRAM bPENNANT bPENTAGON bQUESTION: cMARK:",
   "dORNAMENT bRECTANGLE bRIGHT: cPOINTING: dBACKHAND: eINDEX dINDEX bRIGHT-POINTING: cPENTAGON",
   "cPOINTER cSMALL: dTRIANGLE cTRIANGLE bSCISSORS bSESAME: cDOT bSHOGI: cPIECE bSMALL: cLOZENGE",
   "cSQUARE cSTAR bSMILING: cFACE bSPADE: cSUIT bSQUARE cBUTTON cCONTAINING: dBLACK: eMEDIUM:",
   "fSQUARE eSMALL: fSQUARE eVERY: fSMALL: gSQUARE cWITH: dCENTRE: eVERTICAL: fLINE dLEFTWARDS:",
   "eTICK dLOWER: eLEFT: fQUADRANT eRIGHT: fQUADRANT dRIGHTWARDS: eTICK dROUNDED: eCORNERS dUPPER:",
   "eLEFT: fQUADRANT eRIGHT: fQUADRANT dVERTICAL: eBISECTING: fLINE bSTAR bSUN cBEHIND: dCLOUD",
   "eWITH: fRAIN cWITH: dRAYS dSMALL: eCLOUD bTELEPHONE bTOUCHTONE: cTELEPHONE bTRAPEZIUM",
   "bTRIANGLE: cCONTAINING: dSMALL: eWHITE: fTRIANGLE bTWO-WAY: cLEFT: dWAY: eTRAFFIC bUP:",
   "cPOINTING: dBACKHAND: eINDEX dINDEX bUP-POINTING: cCHEVRON cSMALL: dTRIANGLE cTRIANGLE dWITH:",
   "eDOT bVERTICAL: cBAR cELLIPSE cRECTANGLE bVERY: cSMALL: dSQUARE aWHITE-FEATHERED: bRIGHTWARDS:",
   "cARROW aWIDE-HEADED: bDOWNWARDS: cBARB: dARROW cHEAVY: dBARB: eARROW cLIGHT: dBARB: eARROW",
   "cMEDIUM: dBARB: eARROW cVERY: dHEAVY: eBARB: fARROW bLEFTWARDS: cBARB: dARROW cHEAVY: dBARB:",
   "eARROW cLIGHT: dBARB: eARROW cMEDIUM: dBARB: eARROW cVERY: dHEAVY: eBARB: fARROW bNORTH:",
   "cEAST: dBARB: eARROW dHEAVY: eBARB: fARROW dLIGHT: eBARB: fARROW dMEDIUM: eBARB: fARROW dVERY:",
   "eHEAVY: fBARB: gARROW cWEST: dBARB: eARROW dHEAVY: eBARB: fARROW dLIGHT: eBARB: fARROW",
   "dMEDIUM: eBARB: fARROW dVERY: eHEAVY: fBARB: gARROW bRIGHTWARDS: cBARB: dARROW cHEAVY: dBARB:",
   "eARROW cLIGHT: dBARB: eARROW cMEDIUM: dBARB: eARROW cVERY: dHEAVY: eBARB: fARROW bSOUTH:",
   "cEAST: dBARB: eARROW dHEAVY: eBARB: fARROW dLIGHT: eBARB: fARROW dMEDIUM: eBARB: fARROW dVERY:",
   "eHEAVY: fBARB: gARROW cWEST: dBARB: eARROW dHEAVY: eBARB: fARROW dLIGHT: eBARB: fARROW",
   "dMEDIUM: eBARB: fARROW dVERY: eHEAVY: fBARB: gARROW bUPWARDS: cBARB: dARROW cHEAVY: dBARB:",
   "eARROW cLIGHT: dBARB: eARROW cMEDIUM: dBARB: eARROW cVERY: dHEAVY: eBARB: fARROW aWIGGLY:",
   "bVERTICAL: cLINE aWILTED: bFLOWER aWIND: bBLOWING: cFACE bCHIME aWINDOW aWINE: bGLASS",
   "aWINKING: bFACE aWIRED: bKEYBOARD aWJ aWOLF: bFACE aWOMAN bWITH: cBUNNY: dEARS aWOMANS: bBOOTS",
   "bCLOTHES bHAT bSANDAL aWOMENS: bSYMBOL aWON: bSIGN aWOOD aWORD: bJOINER bSEPARATOR: cMIDDLE:",
   "dDOT aWORLD: bMAP aWORM aWORRIED: bFACE aWRAPPED: bPRESENT aWREATH: bPRODUCT aWRENCH",
   "aWRESTLERS aWRITING: bHAND aX: bIN: cA: dRECTANGLE: eBOX aX-RAY aXIANGQI: bBLACK: cCANNON",
   "cCHARIOT cELEPHANT cGENERAL cHORSE cMANDARIN cSOLDIER bRED: cCANNON cCHARIOT cELEPHANT",
   "cGENERAL cHORSE cMANDARIN cSOLDIER aXOR aYAWNING: bFACE aYELLOW: bHEART aYEN: bSIGN aYEZIDI:",
   "bCOMBINING: cHAMZA: dMARK cMADDA: dMARK bHYPHENATION: cMARK bLETTER: cBE cCHHIM cCHIM cCIM",
   "cDAD cDAL cELIF cET cEW cEYN cFA cGAF cHAY cHHA cJA cKAF cKHAF cLAM dWITH: eDOT: fABOVE cMIM",
   "cNUN cOW cPE cPHE cQAF cRA cRHA cSAD cSE cSHIN cSIN cTA cTHE cUM cVA dALTERNATE: eFORM cWAW",
   "cXA cXHEYN cYOT dWITH: eCIRCUMFLEX: fABOVE cZA cZAL cZE aYI: bRADICAL: cBBUT cBUR cCHE cCIP",
   "cCUOP cCY cCYP cCYT cDDUR cDU cGA cGEP cGGOP cGGUO cGOT cHMO cHXIT cHXOP cHXUO cJJIE cJJUT",
   "cJJY cJO cKE cKIT cLI cLIE cLYR cMI cMOP cNBIE cNYIP cNYOP cNZUP cOP cPUT cPYT cQOT cSHAT",
   "cSHOP cSHUR cSHY cSSI cTAT cTU cVEP cVUR cWO cYIT cYO cZA cZOT cZUP cZUR cZZIET bSYLLABLE: cA",
   "cAP cAT cAX cBA cBAP cBAT cBAX cBBA cBBAP cBBAT cBBAX cBBE cBBEP cBBEX cBBI cBBIE cBBIEP",
   "cBBIET cBBIEX cBBIP cBBIT cBBIX cBBO cBBOP cBBOT cBBOX cBBU cBBUO cBBUOP cBBUOX cBBUP cBBUR",
   "cBBURX cBBUT cBBUX cBBY cBBYP cBBYT cBBYX cBE cBEP cBEX cBI cBIE cBIEP cBIET cBIEX cBIP cBIT",
   "cBIX cBO cBOP cBOT cBOX cBU cBUO cBUOP cBUOX cBUP cBUR cBURX cBUT cBUX cBY cBYP cBYR cBYRX",
   "cBYT cBYX cCA cCAP cCAT cCAX cCE cCEP cCEX cCHA cCHAP cCHAT cCHAX cCHE cCHEP cCHET cCHEX cCHO",
   "cCHOP cCHOT cCHOX cCHU cCHUO cCHUOP cCHUOT cCHUOX cCHUP cCHUR cCHURX cCHUX cCHY cCHYP cCHYR",
   "cCHYRX cCHYT cCHYX cCI cCIE cCIEP cCIET cCIEX cCIP cCIT cCIX cCO cCOP cCOT cCOX cCU cCUO cCUOP",
   "cCUOX cCUP cCUR cCURX cCUT cCUX cCY cCYP cCYR cCYRX cCYT cCYX cDA cDAP cDAT cDAX cDDA cDDAP",
   "cDDAT cDDAX cDDE cDDEP cDDEX cDDI cDDIE cDDIEP cDDIEX cDDIP cDDIT cDDIX cDDO cDDOP cDDOT cDDOX",
   "cDDU cDDUO cDDUOP cDDUOX cDDUP cDDUR cDDURX cDDUT cDDUX cDE cDEP cDEX cDI cDIE cDIEP cDIEX",
   "cDIP cDIT cDIX cDO cDOP cDOT cDOX cDU cDUO cDUOX cDUP cDUR cDURX cDUT cDUX cE cEX cFA cFAP",
   "cFAT cFAX cFI cFIP cFIT cFIX cFO cFOP cFOX cFU cFUP cFUR cFURX cFUT cFUX cFY cFYP cFYT cFYX",
   "cGA cGAP cGAT cGAX cGE cGEP cGET cGEX cGGA cGGAP cGGAT cGGAX cGGE cGGEP cGGET cGGEX cGGI cGGIE",
   "cGGIEP cGGIEX cGGIT cGGIX cGGO cGGOP cGGOT cGGOX cGGU cGGUO cGGUOP cGGUOT cGGUOX cGGUP cGGUR",
   "cGGURX cGGUT cGGUX cGI cGIE cGIEP cGIET cGIEX cGIP cGIT cGIX cGO cGOP cGOT cGOX cGU cGUO cGUOP",
   "cGUOT cGUOX cGUP cGUR cGURX cGUT cGUX cHA cHAP cHAT cHAX cHE cHEP cHEX cHIE cHIEX cHIT cHLA",
   "cHLAP cHLAT cHLAX cHLE cHLEP cHLEX cHLI cHLIE cHLIEP cHLIEX cHLIP cHLIT cHLIX cHLO cHLOP cHLOX",
   "cHLU cHLUO cHLUOP cHLUOX cHLUP cHLUR cHLURX cHLUT cHLUX cHLY cHLYP cHLYR cHLYRX cHLYT cHLYX",
   "cHMA cHMAP cHMAT cHMAX cHMI cHMIE cHMIEP cHMIEX cHMIP cHMIT cHMIX cHMO cHMOP cHMOT cHMOX cHMU",
   "cHMUO cHMUOP cHMUOX cHMUP cHMUR cHMURX cHMUT cHMUX cHMY cHMYP cHMYR cHMYRX cHMYX cHNA cHNAP",
   "cHNAT cHNAX cHNE cHNEP cHNEX cHNI cHNIE cHNIEP cHNIET cHNIEX cHNIP cHNIT cHNIX cHNOP cHNOT",
   "cHNOX cHNUO cHNUOX cHNUT cHO cHOP cHOT cHOX cHUO cHUOP cHUOT cHUOX cHXA cHXAP cHXAT cHXAX cHXE",
   "cHXEP cHXEX cHXI cHXIE cHXIEP cHXIET cHXIEX cHXIP cHXIT cHXIX cHXO cHXOP cHXOT cHXOX cHXUO",
   "cHXUOP cHXUOT cHXUOX cI cIE cIEP cIET cIEX cIP cIT cITERATION: dMARK cIX cJI cJIE cJIEP cJIET",
   "cJIEX cJIP cJIT cJIX cJJI cJJIE cJJIEP cJJIET cJJIEX cJJIP cJJIT cJJIX cJJO cJJOP cJJOT cJJOX",
   "cJJU cJJUO cJJUOP cJJUOX cJJUP cJJUR cJJURX cJJUT cJJUX cJJY cJJYP cJJYT cJJYX cJO cJOP cJOT",
   "cJOX cJU cJUO cJUOP cJUOT cJUOX cJUP cJUR cJURX cJUT cJUX cJY cJYP cJYR cJYRX cJYT cJYX cKA",
   "cKAP cKAT cKAX cKE cKEP cKET cKEX cKI cKIE cKIEP cKIEX cKIP cKIT cKIX cKO cKOP cKOT cKOX cKU",
   "cKUO cKUOP cKUOX cKUP cKUR cKURX cKUT cKUX cLA cLAP cLAT cLAX cLE cLEP cLEX cLI cLIE cLIEP",
   "cLIET cLIEX cLIP cLIT cLIX cLO cLOP cLOT cLOX cLU cLUO cLUOP cLUOT cLUOX cLUP cLUR cLURX cLUT",
   "cLUX cLY cLYP cLYR cLYRX cLYT cLYX cMA cMAP cMAT cMAX cME cMEX cMGA cMGAP cMGAT cMGAX cMGE",
   "cMGEP cMGEX cMGIE cMGIEX cMGO cMGOP cMGOT cMGOX cMGU cMGUO cMGUOP cMGUOX cMGUP cMGUR cMGURX",
   "cMGUT cMGUX cMI cMIE cMIEP cMIEX cMIP cMIT cMIX cMO cMOP cMOT cMOX cMU cMUO cMUOP cMUOT cMUOX",
   "cMUP cMUR cMURX cMUT cMUX cMY cMYP cMYT cMYX cNA cNAP cNAX cNBA cNBAP cNBAT cNBAX cNBI cNBIE",
   "cNBIEP cNBIEX cNBIP cNBIT cNBIX cNBO cNBOP cNBOT cNBOX cNBU cNBUP cNBUR cNBURX cNBUT cNBUX",
   "cNBY cNBYP cNBYR cNBYRX cNBYT cNBYX cNDA cNDAP cNDAT cNDAX cNDE cNDEP cNDEX cNDI cNDIE cNDIEX",
   "cNDIP cNDIT cNDIX cNDO cNDOP cNDOT cNDOX cNDU cNDUP cNDUR cNDURX cNDUT cNDUX cNE cNEP cNEX",
   "cNGA cNGAP cNGAT cNGAX cNGE cNGEP cNGEX cNGIE cNGIEP cNGIEX cNGO cNGOP cNGOT cNGOX cNGUO",
   "cNGUOT cNGUOX cNI cNIE cNIEP cNIEX cNIP cNIT cNIX cNJI cNJIE cNJIEP cNJIET cNJIEX cNJIP cNJIT",
   "cNJIX cNJO cNJOP cNJOT cNJOX cNJU cNJUO cNJUOX cNJUP cNJUR cNJURX cNJUX cNJY cNJYP cNJYR",
   "cNJYRX cNJYT cNJYX cNO cNOP cNOT cNOX cNRA cNRAP cNRAT cNRAX cNRE cNREP cNRET cNREX cNRO cNROP",
   "cNROX cNRU cNRUP cNRUR cNRURX cNRUT cNRUX cNRY cNRYP cNRYR cNRYRX cNRYT cNRYX cNU cNUO cNUOP",
   "cNUOX cNUP cNUR cNURX cNUT cNUX cNYI cNYIE cNYIEP cNYIET cNYIEX cNYIP cNYIT cNYIX cNYO cNYOP",
   "cNYOT cNYOX cNYU cNYUO cNYUOP cNYUOX cNYUP cNYUT cNYUX cNZA cNZAP cNZAT cNZAX cNZE cNZEX cNZI",
   "cNZIE cNZIEP cNZIEX cNZIP cNZIT cNZIX cNZOP cNZOX cNZU cNZUO cNZUOX cNZUP cNZUR cNZURX cNZUX",
   "cNZY cNZYP cNZYR cNZYRX cNZYT cNZYX cO cOP cOT cOX cPA cPAP cPAT cPAX cPI cPIE cPIEP cPIEX",
   "cPIP cPIT cPIX cPO cPOP cPOT cPOX cPU cPUO cPUOP cPUOX cPUP cPUR cPURX cPUT cPUX cPY cPYP cPYR",
   "cPYRX cPYT cPYX cQI cQIE cQIEP cQIET cQIEX cQIP cQIT cQIX cQO cQOP cQOT cQOX cQU cQUO cQUOP",
   "cQUOT cQUOX cQUP cQUR cQURX cQUT cQUX cQY cQYP cQYR cQYRX cQYT cQYX cRA cRAP cRAT cRAX cRE",
   "cREP cREX cRO cROP cROT cROX cRRA cRRAX cRRE cRREP cRRET cRREX cRRO cRROP cRROT cRROX cRRU",
   "cRRUO cRRUOX cRRUP cRRUR cRRURX cRRUT cRRUX cRRY cRRYP cRRYR cRRYRX cRRYT cRRYX cRU cRUO cRUOP",
   "cRUOX cRUP cRUR cRURX cRUT cRUX cRY cRYP cRYR cRYRX cRYT cRYX cSA cSAP cSAT cSAX cSE cSEP cSEX",
   "cSHA cSHAP cSHAT cSHAX cSHE cSHEP cSHET cSHEX cSHO cSHOP cSHOT cSHOX cSHU cSHUO cSHUOP cSHUOX",
   "cSHUP cSHUR cSHURX cSHUT cSHUX cSHY cSHYP cSHYR cSHYRX cSHYT cSHYX cSI cSIE cSIEP cSIEX cSIP",
   "cSIT cSIX cSO cSOP cSOT cSOX cSSA cSSAP cSSAT cSSAX cSSE cSSEP cSSEX cSSI cSSIE cSSIEP cSSIEX",
   "cSSIP cSSIT cSSIX cSSO cSSOP cSSOT cSSOX cSSU cSSUP cSSUT cSSUX cSSY cSSYP cSSYR cSSYRX cSSYT",
   "cSSYX cSU cSUO cSUOP cSUOX cSUP cSUR cSURX cSUT cSUX cSY cSYP cSYR cSYRX cSYT cSYX cTA cTAP",
   "cTAT cTAX cTE cTEP cTEX cTI cTIE cTIEP cTIEX cTIP cTIT cTIX cTO cTOP cTOT cTOX cTU cTUO cTUOP",
   "cTUOT cTUOX cTUP cTUR cTURX cTUT cTUX cUO cUOP cUOX cVA cVAP cVAT cVAX cVEP cVEX cVI cVIE",
   "cVIEP cVIET cVIEX cVIP cVIT cVIX cVO cVOP cVOT cVOX cVU cVUP cVUR cVURX cVUT cVUX cVY cVYP",
   "cVYR cVYRX cVYT cVYX cWA cWAP cWAT cWAX cWE cWEP cWEX cWO cWOP cWOX cWU cWUO cWUOP cWUOX cXI",
   "cXIE cXIEP cXIET cXIEX cXIP cXIT cXIX cXO cXOP cXOT cXOX cXUO cXUOX cXY cXYP cXYR cXYRX cXYT",
   "cXYX cYI cYIE cYIEP cYIET cYIEX cYIP cYIT cYIX cYO cYOP cYOT cYOX cYU cYUO cYUOP cYUOT cYUOX",
   "cYUP cYUR cYURX cYUT cYUX cYY cYYP cYYR cYYRX cYYT cYYX cZA cZAP cZAT cZAX cZE cZEP cZEX cZHA",
   "cZHAP cZHAT cZHAX cZHE cZHEP cZHET cZHEX cZHO cZHOP cZHOT cZHOX cZHU cZHUO cZHUOP cZHUOX cZHUP",
   "cZHUR cZHURX cZHUT cZHUX cZHY cZHYP cZHYR cZHYRX cZHYT cZHYX cZI cZIE cZIEP cZIEX cZIP cZIT",
   "cZIX cZO cZOP cZOT cZOX cZU cZUO cZUOP cZUOX cZUP cZUR cZURX cZUT cZUX cZY cZYP cZYR cZYRX",
   "cZYT cZYX cZZA cZZAP cZZAT cZZAX cZZE cZZEP cZZEX cZZI cZZIE cZZIEP cZZIET cZZIEX cZZIP cZZIT",
   "cZZIX cZZO cZZOP cZZOX cZZU cZZUP cZZUR cZZURX cZZUX cZZY cZZYP cZZYR cZZYRX cZZYT cZZYX aYIN:",
   "bYANG aYO-YO aZ: bNOTATION: cBAG: dMEMBERSHIP cDOMAIN: dANTIRESTRICTION cLEFT: dBINDING:",
   "eBRACKET dIMAGE: eBRACKET cRANGE: dANTIRESTRICTION cRELATIONAL: dCOMPOSITION cRIGHT: dBINDING:",
   "eBRACKET dIMAGE: eBRACKET cSCHEMA: dCOMPOSITION dPIPING dPROJECTION cSPOT cTYPE: dCOLON",
   "aZANABAZAR: bSQUARE: cCLOSING: dDOUBLE-LINED: eHEAD: fMARK dHEAD: eMARK cCLUSTER-FINAL:",
   "dLETTER: eLA eRA eVA eYA cCLUSTER-INITIAL: dLETTER: eRA cFINAL: dCONSONANT: eMARK cINITIAL:",
   "dDOUBLE-LINED: eHEAD: fMARK dHEAD: eMARK cLETTER: d-A dA dBA dBHA dCA dCHA dDA dDDA dDDHA dDHA",
   "dDZA dDZHA dGA dGHA dHA dJA dKA dKHA dKSSA dLA dMA dNA dNGA dNNA dNYA dPA dPHA dRA dSA dSHA",
   "dSSA dTA dTHA dTSA dTSHA dTTA dTTHA dVA dYA dZA dZHA cMARK: dDOUBLE: eSHAD dLONG: eTSHEG dSHAD",
   "dTSHEG cSIGN: dANUSVARA dCANDRA: eWITH: fORNAMENT dCANDRABINDU eWITH: fORNAMENT dVIRAMA",
   "dVISARGA cSUBJOINER cVOWEL: dLENGTH: eMARK dSIGN: eAI eAU eE eI eO eOE eREVERSED: fI eU eUE",
   "aZEBRA: bFACE aZERO: bWIDTH: cJOINER cNO-BREAK: dSPACE cNON-JOINER cSPACE aZEUS aZIPPER-MOUTH:",
   "bFACE aZNAMENNY: bCOMBINING: cATTACHING: dVERTICAL: eOMET cLOWER: dTONAL: eRANGE: fINDICATOR",
   "cMARK: dBORZAYA dCHASHKA ePOLNAYA dCURVED: eOMET dDEMESTVENNY: eZADERZHKA dDVOETOCHIE",
   "dGORAZDO: eNIZKO: fON: gLEFT gRIGHT fS: gKRYZHEM: hON: iLEFT iRIGHT eVYSOKO dKACHKA dKRYZH",
   "eON: fLEFT dKUPNAYA dLOMKA dMALO: ePOVYSHE: fON: gLEFT gRIGHT fS: gKHOKHLOM: hON: iLEFT iRIGHT",
   "gKRYZHEM fSTRANNO dNIZKO: eON: fLEFT fRIGHT eS: fKRYZHEM: gON: hLEFT hRIGHT dOBLACHKO dON",
   "dOTSECHKA dPODCHASHIE eWITH: fVERTICAL: gSTROKE dPODVERTKA dPOVYSHE: eON: fLEFT fRIGHT eS:",
   "fKHOKHLOM: gON: hLEFT hRIGHT fKRYZHEM eSTRANNO dRAVNO dRAZSEKA dSKOBA dSOROCHYA: eNOZHKA",
   "dSREDNE: eON: fLEFT fRIGHT dSTRANNO: eMALO: fPOVYSHE dTIKHAYA dTOCHKA dTSATA: eON: fLEFT",
   "fRIGHT eS: fKRYZHEM dUDARKA dVYSOKO: eON: fLEFT fRIGHT eS: fKHOKHLOM: gON: hLEFT hRIGHT",
   "fKRYZHEM dZADERZHKA dZELO dZEVOK cTONAL: dRANGE: eMARK: fMRACHNO fSVETLO fTRESVETLO bNEUME:",
   "cCHASHKA cCHELYUSTKA cDEMESTVENNY: dKLYUCH cDERBITSA cDOUBLE: dZAPYATAYA cDUDA cDVA: dV:",
   "eCHELNU cFITA cGOLUBCHIK: dBORZY dMRACHNY dSVETLY dTIKHY dTRESVETLY cKHAMILO cKLYUCH cKOBYLA",
   "cKRYUK dTIKHY cKRYZH cKUFISMA cMECHIK dKLYUCHENEPOSTOYANNY dKLYUCHEPOVODNY dKLYUCHEVOY",
   "dPOVODNY cNEMKA cOBLAKO cOSOKA dKLYUCHEVAYA: eNEPOSTOYANNAYA eSVETLAYA dKRYUKOVAYA: eSVETLAYA",
   "dSVETLAYA dTRESVETLAYA cPALKA cPARAKLIT cPAUK cPEREVODKA dNEPOSTOYANNAYA cPODCHASHIE",
   "cPOLKULIZMY cREVERSED: dCHELYUSTKA cROG cSKAMEYTSA: dDVOECHELNAYA: eKLYUCHEVAYA",
   "eNEPOSTOYANNAYA ePROSTAYA eSVETLAYA dKLYUCHENEPOSTOYANNAYA dKLYUCHEVAYA: eSVETLAYA eTIKHAYA",
   "dMRACHNAYA dSVETLAYA dTIKHAYA dTRESVETLAYA cSLOZHITIE dS: eKRYZHEM eZAPYATOY dZAKRYTOE cSTATYA",
   "dNEPOSTOYANNAYA dS: eDVUMYA: fZAPYATYMI eKRYZHEM fI: gZAPYATOY eROGOM eZAPYATOY fI: gKRYZHEM",
   "gPODCHASHIEM dZAKRYTAYA eS: fZAPYATOY cSTOPITSA dS: eOCHKOM dWITH: eSOROCHYA: fNOZHKA cSTRELA:",
   "dDVOECHELNAYA eKLYUCHEVAYA dDVOECHELNOKRYZHEVAYA dDVOECHELNOPOVODNAYA eKLYUCHEVAYA dGROMNAYA",
   "eWITH: fSINGLE: gZAPYATAYA dGROMOKRYZHEVAYA ePOVODNAYA dGROMOPOVODNAYA eWITH: fDOUBLE:",
   "gZAPYATAYA fSINGLE: gZAPYATAYA dKLYUCHENEPOSTOYANNAYA dKLYUCHEPOVODNAYA dKRYUKOVAYA eGROMNAYA",
   "fWITH: gSINGLE: hZAPYATAYA eGROMOKRYZHEVAYA fPOVODNAYA eGROMOPOVODNAYA fWITH: gDOUBLE:",
   "hZAPYATAYA gSINGLE: hZAPYATAYA ePOVODNAYA eTRYASKA dKRYZHEVAYA dMRACHNOTIKHAYA dNEPOSTOYANNAYA",
   "dPOLUPOVODNAYA dPOVODNAYA dPROSTAYA dTIKHAYA: ePUTNAYA dTRYASOGLASNAYA dTRYASOPOVODNAYA",
   "dTRYASOSTRELNAYA cVRAKHIYA: dKLYUCHEVAYA: eMRACHNAYA ePROSTAYA eSVETLAYA eTRESVETLAYA",
   "dMRACHNAYA dPROSTAYA dSVETLAYA dTRESVETLAYA cZANOZHEK cZAPYATAYA cZMEYTSA bPRIZNAK: cMODIFIER:",
   "dDIRECTION: eFLIP dKRYZH dLEVEL-2 dLEVEL-3 dROG aZOMBIE aZWJ aZWNBSP aZWNJ aZWSP"]

end LocalServer.Text
