/-!
The names of characters, in order. A name is given by small letters, which are the digits of a number
in base twenty-six, and by what follows after as many characters of the name before it.
-/
namespace DeclGen.Text

def characterNameLines : List String :=
  ["aABACUSbC CURRENTcCORDIONeUNT OFcKdNOWLEDGEcTIVATE ARABIC FORM SHAPINGjSYMMETRIC SWAPPING",
   "cUTE ACCENThNGLEbDDRESSED TO THE SUBJECTcHESIVE BANDAGEcI SHAKTIcLAM ALIF LENGTHENER",
   "gCAPITAL LETTER ALIFvBAwHEvCHIvDAALIwHAvEvFAvGAwBEvHAvIvJIIMvKAFwHAwPOvLAAMvMIIMvNHAwUNwYAvO",
   "vPEvQAAFvRAvSHAwINNYIIYHEvTUvUvVAvWAWvYAwHEvZALhONSONANT MODIFIERgDIGIT EIGHTmFIVEnOURmNINE",
   "mONEmSEVENnIXmTHREEnWOmZEROgGEMINATE CONSONANT MODIFIERnION MARKgHAMZA",
   "gINITIAL EXCLAMATION MARKoQUESTION MARKgNASALIZATION MARKhUKTAgSMALL LETTER ALIFtBAuHEtCHI",
   "tDAALIuHAtEtFAtGAuBEtHAtItJIIMtKAFuHAuPOtLAAMtMIIMtNHAuUNuYAtOtPEtQAAFtRAtSHAuINNYIIYHEtTUtU",
   "tVAtWAWtYAuHEtZALgVOWEL LENGTHENERcMETOSdISSION TICKETScULTbEGEAN CHECK MARK",
   "hDRY MEASURE FIRST SUBUNIThLIQUID MEASURE FIRST SUBUNIThMEASURE SECOND SUBUNITpTHIRD SUBUNIT",
   "hNUMBER EIGHTt HUNDREDuTHOUSANDtYu THOUSANDoFIFTYt THOUSANDqVEs HUNDREDtTHOUSANDpORTY",
   "t THOUSANDqURs HUNDREDtTHOUSANDoNINEs HUNDREDtTHOUSANDsTYu THOUSANDoONEr HUNDREDsTHOUSAND",
   "oSEVENt HUNDREDuTHOUSANDtTYv THOUSANDpIXr HUNDREDsTHOUSANDrTYt THOUSANDoTENr THOUSANDpHIRTY",
   "u THOUSANDqREEt HUNDREDuTHOUSANDpWENTYu THOUSANDqOr HUNDREDsTHOUSANDhWEIGHT BASE UNIT",
   "oFIRST SUBUNITpOURTH SUBUNIToSECOND SUBUNIToTHIRD SUBUNITiORD SEPARATOR DOTwLINEcRIAL TRAMWAY",
   "bFGHANI SIGNbHOM CONSONANT SIGN MEDIAL LAbcIGATING RAbbRAfDIGIT EIGHTlFIVEmOURlNINElONElSEVEN",
   "mIXlTHREEmWOlZEROfLETTER AnLTERNATE BAwGAwTAmBAnHAmCAnHAmDAnDAoHAnHAmGAnHAmHAmJAnHAmKAnHAmLA",
   "nLAmMAmNAnGAnNAnYAmPAnHAmRAmSAmTAnHAnTAoHAfNUMBER TENnWENTYfSIGN KILLERkRULAIkSECTION",
   "lMALL SECTIONgYMBOL VIfVOWEL SIGN ArArIrMrWqEqIrIqOqUrUbIRPLANEi ARRIVINGjDEPARTURE",
   "bKTIESELSKABbLARM CLOCKcCHEMICAL SYMBOL FOR AIRxLEMBICyKALIbc-2yUMxMALGAMxNTIMONY ORE",
   "xQUA REGIAbg-2bbVITAEbg-2baFORTISxRSENICxSHESxURIPIGMENTwBATH OF MARYbeVAPOURSxISMUTH ORE",
   "xLACK SULFURxORAXbb-2bc3xRICKwCADUCEUSyLXyPUT MORTUUMxINNABARxOPPER ANTIMONIATEbdORE",
   "xROCUS OF COPPERbm-2bgIRONyUCIBLEbe-2bf3bf4bf5wDAY-NIGHTxISSOLVEbe-2zTILLwEARTHwFIREwGOLDxUM",
   "wHALF DRAMbbOUNCExORSE DUNGyURwIRON OREbe-2ba-COPPER OREwLEAD ORExODESTONEwMARCASITE",
   "xERCURY SUBLIMATEbn-2bo3xONTHwNIGHTyTREwOILwPHILOSOPHERS SULFURxOT ASHESyWDERbcED BRICK",
   "xRECIPITATExURIFYyTREFACTIONwQUICK LIMEzNTESSENCEwREALGARbd-2yGULUSbd OF ANTIMONYbp-2bhIRON",
   "bd-2be3be4yTORTxOCK SALTbf-2wSAL-AMMONIACzTba OF ANTIMONYbeCOPPER ANTIMONIATExCEPTER OF JOVE",
   "xILVERxOAPxPIRITxTARRED TRIDENTyRATUM SUPER STRATUMbr-2xUBLIMATE OF ANTIMONYbjCOPPER",
   "bjSALT OF ANTIMONYbrCOPPERbeIONyLFURwTARTARbc-2xIN OREzCTURExRIDENTxUTTYwURINEwVERDIGRIS",
   "xINEGARbd OF ANTIMONYbd-2be3yTRIOLbd-2wWATERyXcEF SYMBOLdMBICdRTcIEN MONSTERcL AROUND-PROFILE",
   "eEQUAL TOcMdOST EQUAL OR EQUAL TOnTOp WITH CIRCUMFLEX ACCENTcTERNATE ONE-WAY LEFT WAY TRAFFIC",
   "iIVE KEY SYMBOLbMALGAMATION OR COPRODUCTcBULANCEcERICAN FOOTBALLcPERSANDdHORA",
   "bNATOLIAN HIEROGLYPH A001y2y3y4y5y6y7y8y9x10zAy1y2y3y4y5y6y7y8y9x20y1y2y3y4y5y6zAy7y8y9x30y1",
   "y2y3y4y5y6y7y8y9zAx40y1zAy2y3y4y5zAy6zAzBy7y8y9x50y1y2y3y4y5y6y7y8y9x60y1y2y3y4y5y6zAzBzCy7y8",
   "y9x70y1y2y3y4y5y6y7y8y9x80y1y2y3y4y5y6y7y8y9x90y1y2y3y4y5y6y7zAy8zAy9w100zAy1zAy2zAy3y4zAzBzC",
   "y5zAzBy6y7zAzBzCy8y9x10zAzBy1y2y3y4y5zAy6y7y8y9x20y1y2y3y4y5zAy6y7y8y9x30y1y2y3y4y5zAy6y7y8y9",
   "x40y1y2y3y4y5y6y7y8y9x50y1y2y3y4y5y6y7y8y9x60y1y2y3y4y5y6y7y8y9x70y1y2y3y4y5y6y7y8y9x80y1y2y3",
   "y4y5y6y7y8y9x90y1y2y3y4y5y6y7y8y9w200y1y2zAzBy3y4y5y6y7zAy8y9zAx10y1y2y3y4y5zAy6zAy7y8y9x20y1",
   "y2y3y4y5y6y7zAy8y9x30y1y2y3y4y5y6y7y8y9x40y1y2y3y4y5y6y7y8y9x50y1y2y3y4y5y6y7y8y9x60y1y2y3y4",
   "y5y6y7zAy8y9x70y1y2y3y4y5y6y7y8y9x80y1y2y3y4y5y6y7y8y9zAx90y1y2y3y4zAy5y6y7y8y9zAw300y1y2y3y4",
   "y5y6y7y8y9zAx10y1y2y3y4y5y6y7y8y9x20y1y2y3y4y5y6y7y8y9zAx30y1y2AzBzCy3y4y5y6zAzBzCy7y8y9x40y1",
   "y2y3y4y5y6y7y8y9x50y1y2y3y4y5y6y7y8y9zAx60y1y2y3y4zAy5y6y7y8zAy9x70y1zAy2y3y4y5y6y7y8y9x80y1",
   "zAy2y3 RA OR RIzAy4y5y6zAy7y8y9x90y1y2y3 EIGHTy4y5y6y7y8y9w400y1y2y3y4y5y6y7y8y9",
   "x10 BEGIN LOGOGRAM MARKzA END LOGOGRAM MARKy1y2y3y4y5y6y7y8y9x20y1y2y3y4y5y6y7y8y9x30y1y2y3y4",
   "y5y6y7y8y9x40y1y2y3y4y5y6y7y8y9x50zAy1y2y3y4y5y6y7zAy8y9x60y1y2y3y4y5y6y7y8y9x70y1y2y3y4y5y6",
   "y7y8y9x80y1y2y3y4y5y6y7y8y9x90y1y2y3y4y5y6y7w501y2y3y4y5y6y7y8y9x10y1y2y3y4y5y6y7y8y9x20y1y2",
   "y3y4y5y6y7y8y9x30fMICAL HEARTcCHORcD WITH DOTcGER SYMBOLdLEf WITH S INSIDElUNDERBARdRY FACE",
   "dSTROM SIGNdUISHED FACEcKHcTdENNA WITH BARSdICLOCKWISE CLOSED CIRCLE ARROWpONTOUR INTEGRAL",
   "oDOWNWARDS AND UPWARDS OPEN CIRCLE ARROWSoGAPPED CIRCLE ARROWoINTEGRATIONoOPEN CIRCLE ARROW",
   "oTOP SEMICIRCLE ARROWpRIANGLE-HEADED BOTTOM U-SHAPED ARROWbeLEFT U-SHAPED ARROW",
   "beOPEN CIRCLE ARROWbeRIGHT U-SHAPED ARROWbeTOP U-SHAPED ARROWbPCcL FUNCTIONAL SYMBOL ALPHA",
   "bb UNDERBARwBACKSLASH BARwCIRCLE BACKSLASHbdDIAERESISbdJOTbdSTARbfILEbdUNDERBARxOMMA BAR",
   "wDEL DIAERESISbaSTILEbaTILDEzTA STILEbcUNDERBARxIAMOND UNDERBARxOWN CARET TILDEbbSHOE STILE",
   "bbTACK JOTbgUNDERBARbaWARDS VANEwEPSILON UNDERBARwGREATER-THAN DIAERESISwI-BEAMxOTA",
   "ba UNDERBARwJOT DIAERESISbaUNDERBARwLEFT SHOE STILEbaWARDS VANEwOMEGAbb UNDERBARwQUAD",
   "ba BACKSLASHbbCIRCLEbcOLONbbDELbeTAbcIAMONDbdVIDEbcOWN CARETbfWARDS ARROWbbEQUAL",
   "bbGREATER-THANbbJOTbbLEFTWARDS ARROWbdSS-THANbbNOT EQUALbbQUESTIONbbRIGHTWARDS ARROWbbSLASH",
   "bbUP CARETbdWARDS ARROWyOTE QUADbcUNDERBARwRHOxIGHTWARDS VANEwSEMICOLON UNDERBARxLASH BAR",
   "xQUISH QUADxTAR DIAERESISyILE TILDEwTILDE DIAERESISwUP CARET TILDEzSHOE JOTzTACK DIAERESIS",
   "beJOTbeOVERBARyWARDS VANEwZILDEcOLLONdSTROPHEcPLICATION PROGRAM COMMANDdROACHES THE LIMIT",
   "fXIMATELY BUT NOT ACTUALLY EQUAL TOoEQUAL OR EQUAL TOuTOw OR THE IMAGE OFbQUARIUS",
   "bRABIC BASELINE ROUND DOThCOMMAiURLY DAMMAsTANnFATHAsTANnKASRAsTANhDAMMAm ISOLATED FORM",
   "nMEDIAL FORMnWITH DOTmTANp ISOLATED FORMjTE SEPARATORiECIMAL SEPARATORiISPUTED END OF AYAH",
   "iOUBLE RIGHT ARROWHEAD ABOVEbj WITH DOTnD MADDAhEMPTY CENTRE HIGH STOPuLOW STOPiND OF AYAH",
   "oTEXT MARKhFATHAm ISOLATED FORMnMEDIAL FORMnWITH DOT ABOVEsRINGsTWO DOTSmTANp ISOLATED FORM",
   "iIVE POINTED STARiOOTNOTE MARKERiULL STOPhHALF MADDA OVER MADDAjMZA ABOVEnBELOW",
   "hINVERTED DAMMAhKASRAm ISOLATED FORMnMEDIAL FORMnWITH DOT BELOWmTANp ISOLATED FORM",
   "hLARGE CIRCLE BELOWnROUND DOT ABOVExBELOWxINSIDE CIRCLE BELOWiEFT ARROWHEAD ABOVEwBELOW",
   "jTTER AEpFRICAN FEHwNOONwQAFz WITH THREE DOTS ABOVEpINr FINAL FORMsINITIAL FORMtSOLATED FORM",
   "sMEDIAL FORMsWITH THREE DOTS ABOVEbiBELOWbiPOINTING DOWNWARDS ABOVEyWO DOTS ABOVE",
   "bgVERTICALLY ABOVEpLEFs FINAL FORMtISOLATED FORMtMAKSURAba FINAL FORMbbISOLATED FORMtWASLA",
   "y FINAL FORMzISOLATED FORMuITH ATTACHED BOTTOM RIGHT KASRAbz AND DOT ABOVEceLEFT RINGbhFATHA",
   "bhKASRAbhLEFT HAMZAbmROUND DOTbhRIGHT HAMZAbnROUND DOTbiOUND DOT ABOVEbrBELOW",
   "bhTOP RIGHT FATHAbw AND DOT ABOVEcbLEFT RINGyDOT ABOVE",
   "yEXTENDED ARABIC-INDIC DIGIT THREE ABOVEcbWO ABOVEyHAMZA ABOVEbj FINAL FORMbkISOLATED FORM",
   "beBELOWbj FINAL FORMbkISOLATED FORMyLEFT MIDDLE STROKEyMADDA ABOVEbj FINAL FORM",
   "bkISOLATED FORMyRIGHT MIDDLE STROKEbr AND DOT ABOVEbwLEFT RINGyWAVY HAMZA ABOVEbjBELOWoBEEH",
   "s FINAL FORMtINITIAL FORMuSOLATED FORMtMEDIAL FORMqHr FINAL FORMsINITIAL FORMtSOLATED FORM",
   "sMEDIAL FORMsWITH DOT BELOW AND THREE DOTS ABOVExHAMZA ABOVExINVERTED SMALL V BELOW",
   "xSMALL MEEM ABOVEbdVbe BELOWxTHREE DOTS HORIZONTALLY BELOWbiPOINTING UPWARDS BELOW",
   "ce AND TWO DOTS ABOVEyWO DOTS BELOW AND DOT ABOVErEHt FINAL FORMuINITIAL FORMvSOLATED FORM",
   "uMEDIAL FORMoDADr FINAL FORMsINITIAL FORMtSOLATED FORMsMEDIAL FORMsWITH DOT BELOWqHAL",
   "t FINAL FORMuISOLATED FORMqLr FINAL FORMsISOLATED FORMsWITH DOT BELOWbg AND SMALL TAH",
   "xFOUR DOTS ABOVExINVERTED SMALL V BELOWbgVxRINGxTHREE DOTS ABOVE DOWNWARDSbiBELOW",
   "yWO DOTS VERTICALLY BELOW AND SMALL TAHpDAHALu FINAL FORMvISOLATED FORMrLs FINAL FORM",
   "tISOLATED FORMpOTLESS BEHwFEHwQAFpULr FINAL FORMsISOLATED FORMpYEHs FINAL FORMtINITIAL FORM",
   "uSOLATED FORMtMEDIAL FORMoEp FINAL FORMqINITIAL FORMrSOLATED FORMqMEDIAL FORMoFARSI YEH",
   "x FINAL FORMyINITIAL FORMzSOLATED FORMyMEDIAL FORM",
   "yWITH EXTENDED ARABIC-INDIC DIGIT FOUR BELOWcfTHREE ABOVEcgWO ABOVEbdINVERTED V",
   "bdTHREE DOTS ABOVEbeWO DOTS ABOVEpEHr FINAL FORMsINITIAL FORMtSOLATED FORMsMEDIAL FORM",
   "sWITH DOT BELOWbg AND THREE DOTS ABOVEbbMOVED BELOWxTHREE DOTS BELOWbiPOINTING UPWARDS BELOW",
   "yWO DOTS BELOWoGAFr FINAL FORMsINITIAL FORMtSOLATED FORMsMEDIAL FORMsWITH INVERTED STROKE",
   "xRINGxTHREE DOTS ABOVEyWO DOTS BELOWpHAINt FINAL FORMuINITIAL FORMvSOLATED FORMuMEDIAL FORM",
   "uWITH DOT BELOWzTHREE DOTS ABOVEpRAFpUEHs FINAL FORMtINITIAL FORMuSOLATED FORMtMEDIAL FORM",
   "oHAHr FINAL FORMsINITIAL FORMtSOLATED FORMsMEDIAL FORM",
   "sWITH EXTENDED ARABIC-INDIC DIGIT FOUR BELOWxHAMZA ABOVExINVERTED SMALL V BELOW",
   "xSMALL ARABIC LETTER TAH ABOVEbwND TWO DOTSbvBELOWxTHREE DOTS ABOVEbiPOINTING UPWARDS BELOW",
   "yWO DOTS ABOVEbgVERTICAL ABOVEqMZAt ISOLATED FORMpEHr DOACHASHMEEbd FINAL FORMbeINITIAL FORM",
   "bfSOLATED FORMbeMEDIAL FORMsFINAL FORMsGOALw FINAL FORMxINITIAL FORMySOLATED FORMxMEDIAL FORM",
   "xWITH HAMZA ABOVEsINITIAL FORMtSOLATED FORMsMEDIAL FORMsWITH INVERTED VxYEH ABOVE",
   "bg FINAL FORMbhISOLATED FORMpIGH HAMZAy ALEFzWAWzYEHoJEEMs FINAL FORMtINITIAL FORM",
   "uSOLATED FORMtMEDIAL FORMtWITH THREE DOTS ABOVEbjBELOWzWO DOTS ABOVEqHr FINAL FORM",
   "sISOLATED FORMoKAFr FINAL FORMsINITIAL FORMtSOLATED FORMsMEDIAL FORMsWITH DOT ABOVEbbBELOW",
   "xRINGxTHREE DOTS BELOWyWO DOTS ABOVEqSHMIRI YEHpEHEHt FINAL FORMuINITIAL FORMvSOLATED FORM",
   "uMEDIAL FORMuWITH DOT ABOVEzSMALL VzTHREE DOTS ABOVEbkBELOWbkPOINTING UPWARDS BELOW",
   "baWO DOTS ABOVEbiVERTICALLY BELOWpHAHs FINAL FORMtINITIAL FORMuSOLATED FORMtMEDIAL FORM",
   "pIRGHIZ OEy FINAL FORMzISOLATED FORMwYUy FINAL FORMzISOLATED FORMoLAMr FINAL FORM",
   "sINITIAL FORMtSOLATED FORMsMEDIAL FORMsWITH BARxDOT ABOVEzUBLE BAR",
   "xSMALL ARABIC LETTER TAH ABOVEbdVxTHREE DOTS ABOVEbiBELOWpOW ALEFoMARKpEEMs FINAL FORM",
   "tINITIAL FORMuSOLATED FORMtMEDIAL FORMtWITH DOT ABOVEbcBELOWyTHREE DOTS ABOVEoNGq FINAL FORM",
   "rINITIAL FORMsSOLATED FORMrMEDIAL FORMqOEHt FINAL FORMuINITIAL FORMvSOLATED FORMuMEDIAL FORM",
   "pOONs FINAL FORMtGHUNNAz FINAL FORMbaISOLATED FORMtINITIAL FORMuSOLATED FORMtMEDIAL FORM",
   "tWITH DOT BELOWyINVERTED SMALL VyRINGySMALL TAHbeVyTHREE DOTS ABOVEzWO DOTS BELOWpYEH",
   "s FINAL FORMtINITIAL FORMuSOLATED FORMtMEDIAL FORMoOEq FINAL FORMrISOLATED FORMoPEH",
   "r FINAL FORMsINITIAL FORMtSOLATED FORMsMEDIAL FORMsWITH SMALL MEEM ABOVEbdVrEHt FINAL FORM",
   "uINITIAL FORMvSOLATED FORMuMEDIAL FORMoQAFr FINAL FORMsINITIAL FORMtSOLATED FORMsMEDIAL FORM",
   "sWITH DOT ABOVEbbBELOWbg AND NO DOTS ABOVExTHREE DOTS ABOVEoREHr FINAL FORMsISOLATED FORM",
   "sWITH DOT BELOWbg AND DOT ABOVExFOUR DOTS ABOVExHAMZA ABOVExINVERTED VxLOOPxRING",
   "xSMALL ARABIC LETTER TAH AND TWO DOTSbdNOON ABOVEbdVbe BELOWyTROKExTWO DOTS ABOVE",
   "bgVERTICALLY ABOVEpNOONt FINAL FORMuINITIAL FORMvSOLATED FORMuMEDIAL FORMpOHINGYA YEHpREH",
   "s FINAL FORMtISOLATED FORMoSADr FINAL FORMsINITIAL FORMtSOLATED FORMsMEDIAL FORM",
   "sWITH THREE DOTS ABOVEbiBELOWyWO DOTS BELOWpEENs FINAL FORMtINITIAL FORMuSOLATED FORM",
   "tMEDIAL FORMtWITH DOT BELOW AND DOT ABOVEyEXTENDED ARABIC-INDIC DIGIT FOUR ABOVE",
   "yFOUR DOTS ABOVEyINVERTED VySMALL ARABIC LETTER TAH AND TWO DOTSyTHREE DOTS BELOW",
   "bo AND THREE DOTS ABOVEzWO DOTS VERTICALLY ABOVEpHEENt FINAL FORMuINITIAL FORMvSOLATED FORM",
   "uMEDIAL FORMuWITH DOT BELOWpTRAIGHT WAWpUPERSCRIPT ALEFpWASH KAFoTAHr FINAL FORMsINITIAL FORM",
   "tSOLATED FORMsMEDIAL FORMsWITH DOT BELOWxTHREE DOTS ABOVEbiBELOWyWO DOTS ABOVEpCHEH",
   "t FINAL FORMuINITIAL FORMvSOLATED FORMuMEDIAL FORMuWITH DOT ABOVEzSMALL VtEHv FINAL FORM",
   "wINITIAL FORMxSOLATED FORMwMEDIAL FORMpEHr FINAL FORMsINITIAL FORMtSOLATED FORMsMARBUTA",
   "z FINAL FORMbaGOALbaISOLATED FORMtEDIAL FORMsWITH RINGxSMALL TEH ABOVEbdV",
   "xTHREE DOTS ABOVE DOWNWARDSrEHt FINAL FORMuINITIAL FORMvSOLATED FORMuMEDIAL FORMpHAL",
   "s FINAL FORMtISOLATED FORMqEHs FINAL FORMtINITIAL FORMuSOLATED FORMtMEDIAL FORMqIN YEHpTEH",
   "s FINAL FORMtINITIAL FORMuSOLATED FORMtMEDIAL FORMtWITH SMALL VsEHu FINAL FORMvINITIAL FORM",
   "wSOLATED FORMvMEDIAL FORMoUp FINAL FORMqISOLATED FORMqWITH HAMZA ABOVEbg ISOLATED FORM",
   "pIGHUR KAZAKH KIRGHIZ ALEF MAKSURA INITIAL FORMbxMEDIAL FORMoVEq FINAL FORMrISOLATED FORMqH",
   "r FINAL FORMsINITIAL FORMtSOLATED FORMsMEDIAL FORMoWAWr FINAL FORMsISOLATED FORM",
   "sWITH DOT ABOVEbbWITHINxEXTENDED ARABIC-INDIC DIGIT THREE ABOVEcaWO ABOVExHAMZA ABOVE",
   "bi FINAL FORMbjISOLATED FORMxRINGxTWO DOTS ABOVEoYEHr BARREEy FINAL FORMzISOLATED FORM",
   "zWITH EXTENDED ARABIC-INDIC DIGIT THREE ABOVEchWO ABOVEbeHAMZA ABOVEbp FINAL FORM",
   "bqISOLATED FORMsFINAL FORMsINITIAL FORMtSOLATED FORMsMEDIAL FORMsWITH HAMZA ABOVE",
   "bi FINAL FORMbjINITIAL FORMbkSOLATED FORMbjMEDIAL FORMxSMALL VxTAILyHREE DOTS BELOW",
   "yWO DOTS BELOW AND DOT ABOVEbqHAMZA ABOVEbqSMALL NOON ABOVEpUq FINAL FORMrISOLATED FORMoZAH",
   "r FINAL FORMsINITIAL FORMtSOLATED FORMsMEDIAL FORMqINs FINAL FORMtISOLATED FORM",
   "tWITH INVERTED V ABOVEiIGATURE AIN WITH ALEF MAKSURA FINAL FORMbmISOLATED FORM",
   "zJEEM INITIAL FORMbfSOLATED FORMbeWITH MEEM FINAL FORMboINITIAL FORMzMEEM INITIAL FORM",
   "bfSOLATED FORMbeWITH ALEF MAKSURA FINAL FORMbjMEEM FINAL FORMboINITIAL FORMbjYEH FINAL FORM",
   "zYEH FINAL FORMbdISOLATED FORMrKBAR ISOLATED FORMrLAYHAA AS-SALAAMvE ISOLATED FORM",
   "vI AS-SALAAMbfTU WAS-SALAAMwM AS-SALAAMxAA AS-SALAAM",
   "sEF MAKSURA WITH SUPERSCRIPT ALEF FINAL FORMbzISOLATED FORMvWITH FATHATAN FINAL FORM",
   "bjISOLATED FORMsLAH ISOLATED FORMrZZA WA JALLqBEH WITH ALEF MAKSURA FINAL FORMbmISOLATED FORM",
   "zHAH INITIAL FORMbeSOLATED FORMbdWITH YEH FINAL FORMbaEH INITIAL FORMbdMEDIAL FORM",
   "zJEEM INITIAL FORMbfSOLATED FORMzKHAH INITIAL FORMbfSOLATED FORMbeWITH YEH FINAL FORM",
   "zMEEM FINAL FORMbeINITIAL FORMbfSOLATED FORMbeMEDIAL FORMzNOON FINAL FORMzREH FINAL FORM",
   "zYEH FINAL FORMbdISOLATED FORMzZAIN FINAL FORMrISMILLAH AR-RAHMAN AR-RAHEEM",
   "qDAD WITH ALEF MAKSURA FINAL FORMbmISOLATED FORMzHAH INITIAL FORMbeSOLATED FORM",
   "bdWITH ALEF MAKSURA FINAL FORMbiYEH FINAL FORMzJEEM INITIAL FORMbfSOLATED FORM",
   "zKHAH INITIAL FORMbfSOLATED FORMbeWITH MEEM FINAL FORMboINITIAL FORMzMEEM INITIAL FORM",
   "bfSOLATED FORMzREH FINAL FORMbdISOLATED FORMzYEH FINAL FORMbdISOLATED FORM",
   "qFEH WITH ALEF MAKSURA FINAL FORMbmISOLATED FORMzHAH INITIAL FORMbeSOLATED FORM",
   "zJEEM INITIAL FORMbfSOLATED FORMzKHAH INITIAL FORMbfSOLATED FORMbeWITH MEEM FINAL FORM",
   "boINITIAL FORMzMEEM INITIAL FORMbfSOLATED FORMbeWITH YEH FINAL FORMzYEH FINAL FORM",
   "bdISOLATED FORMqGHAIN WITH ALEF MAKSURA FINAL FORMboISOLATED FORMbbJEEM INITIAL FORM",
   "bhSOLATED FORMbbMEEM INITIAL FORMbhSOLATED FORMbgWITH ALEF MAKSURA FINAL FORM",
   "blMEEM FINAL FORMblYEH FINAL FORMbbYEH FINAL FORMbfISOLATED FORM",
   "qHAH WITH ALEF MAKSURA FINAL FORMbmISOLATED FORMzJEEM INITIAL FORMbfSOLATED FORM",
   "beWITH YEH FINAL FORMzMEEM INITIAL FORMbfSOLATED FORMbeWITH ALEF MAKSURA FINAL FORM",
   "bjYEH FINAL FORMzYEH FINAL FORMbdISOLATED FORMrEH WITH ALEF MAKSURA ISOLATED FORM",
   "zJEEM INITIAL FORMbfSOLATED FORMzMEEM INITIAL FORMbfSOLATED FORMbeWITH JEEM INITIAL FORM",
   "bjMEEM INITIAL FORMzSUPERSCRIPT ALEF INITIAL FORMzYEH ISOLATED FORMqJALLAJALALOUHOU",
   "rEEM WITH ALEF MAKSURA FINAL FORMbnISOLATED FORMbaHAH INITIAL FORMbfSOLATED FORM",
   "beWITH ALEF MAKSURA FINAL FORMbjYEH FINAL FORMbaMEEM INITIAL FORMbgSOLATED FORM",
   "bfWITH ALEF MAKSURA FINAL FORMbkHAH FINAL FORMboINITIAL FORMbkYEH FINAL FORMbaYEH FINAL FORM",
   "beISOLATED FORMqKAF WITH ALEF FINAL FORMbeISOLATED FORMbeMAKSURA FINAL FORMbmISOLATED FORM",
   "zHAH INITIAL FORMbeSOLATED FORMzJEEM INITIAL FORMbfSOLATED FORMzKHAH INITIAL FORM",
   "bfSOLATED FORMzLAM FINAL FORMbdINITIAL FORMbeSOLATED FORMbdMEDIAL FORMzMEEM FINAL FORM",
   "beINITIAL FORMbfSOLATED FORMbeMEDIAL FORMbeWITH MEEM FINAL FORMboINITIAL FORMbjYEH FINAL FORM",
   "zYEH FINAL FORMbdISOLATED FORMrHAH WITH ALEF MAKSURA FINAL FORMbnISOLATED FORM",
   "baHAH ISOLATED FORMbaJEEM INITIAL FORMbgSOLATED FORMbaMEEM INITIAL FORMbgSOLATED FORM",
   "baYEH FINAL FORMbeISOLATED FORMqLAM WITH ALEF FINAL FORMbeISOLATED FORMbeMAKSURA FINAL FORM",
   "bmISOLATED FORMbeWITH HAMZA ABOVE FINAL FORMbvISOLATED FORMbpBELOW FINAL FORMbvISOLATED FORM",
   "bjMADDA ABOVE FINAL FORMbvISOLATED FORMzHAH INITIAL FORMbeSOLATED FORM",
   "bdWITH ALEF MAKSURA FINAL FORMbiMEEM FINAL FORMbnINITIAL FORMbiYEH FINAL FORM",
   "baEH INITIAL FORMzJEEM INITIAL FORMbfSOLATED FORMbeWITH JEEM FINAL FORMboINITIAL FORM",
   "bjMEEM FINAL FORMboINITIAL FORMbjYEH FINAL FORMzKHAH INITIAL FORMbfSOLATED FORM",
   "beWITH MEEM FINAL FORMboINITIAL FORMzMEEM FINAL FORMbeINITIAL FORMbfSOLATED FORMbeMEDIAL FORM",
   "beWITH HAH FINAL FORMbnINITIAL FORMbjYEH FINAL FORMzYEH FINAL FORMbdISOLATED FORM",
   "qMEEM WITH ALEF FINAL FORMbfMAKSURA ISOLATED FORMbaHAH INITIAL FORMbfSOLATED FORM",
   "beWITH JEEM INITIAL FORMbjMEEM INITIAL FORMbjYEH FINAL FORMbaJEEM INITIAL FORMbgSOLATED FORM",
   "bfWITH HAH INITIAL FORMbkKHAH INITIAL FORMbkMEEM INITIAL FORMbkYEH FINAL FORM",
   "baKHAH INITIAL FORMbgSOLATED FORMbfWITH JEEM INITIAL FORMbkMEEM INITIAL FORMbkYEH FINAL FORM",
   "baMEEM FINAL FORMbfINITIAL FORMbgSOLATED FORMbfWITH YEH FINAL FORMbaYEH ISOLATED FORM",
   "rOHAMMAD ISOLATED FORMqNOON WITH ALEF MAKSURA FINAL FORMbnISOLATED FORMbaHAH INITIAL FORM",
   "bfSOLATED FORMbeWITH ALEF MAKSURA FINAL FORMbjMEEM INITIAL FORMbjYEH FINAL FORM",
   "bbEH INITIAL FORMbeMEDIAL FORMbaJEEM INITIAL FORMbgSOLATED FORMbfWITH ALEF MAKSURA FINAL FORM",
   "bkHAH FINAL FORMboINITIAL FORMbkMEEM FINAL FORMbpINITIAL FORMbkYEH FINAL FORM",
   "baKHAH INITIAL FORMbgSOLATED FORMbaMEEM FINAL FORMbfINITIAL FORMbgSOLATED FORMbfMEDIAL FORM",
   "bfWITH ALEF MAKSURA FINAL FORMbkYEH FINAL FORMbaNOON FINAL FORMbaREH FINAL FORM",
   "baYEH FINAL FORMbeISOLATED FORMbaZAIN FINAL FORMqQAF WITH ALEF MAKSURA FINAL FORM",
   "bmISOLATED FORMzHAH INITIAL FORMbeSOLATED FORMzMEEM INITIAL FORMbfSOLATED FORM",
   "beWITH HAH FINAL FORMbnINITIAL FORMbjMEEM FINAL FORMbjYEH FINAL FORMzYEH FINAL FORM",
   "bdISOLATED FORMsLA USED AS KORANIC STOP SIGN ISOLATED FORMrUDDISA SIRRAHqRADI ALLAAHU ANHbgAA",
   "bgUMbiAAbhNNAsHIMAHU ALLAAHyM ALLAAHsSOUL ISOLATED FORM",
   "rEH WITH SUPERSCRIPT ALEF ISOLATED FORMqSAD WITH ALEF MAKSURA FINAL FORMbmISOLATED FORM",
   "zHAH INITIAL FORMbeSOLATED FORMbdWITH HAH FINAL FORMbmINITIAL FORMbiYEH FINAL FORM",
   "zKHAH INITIAL FORMzMEEM INITIAL FORMbfSOLATED FORMbeWITH MEEM FINAL FORMboINITIAL FORM",
   "zREH FINAL FORMbdISOLATED FORMzYEH FINAL FORMbdISOLATED FORMsLAAMUHU ALAYNAAuM ISOLATED FORM",
   "tLA ISOLATED FORMwUSED AS KORANIC STOP SIGN ISOLATED FORMvLLAAHU ALAYHI WA-AALIH",
   "yHOU ALAYHE WASALLAMzU ALAYHI WAAALIHEE WA-SALLAMrEEN WITH ALEF MAKSURA FINAL FORM",
   "bnISOLATED FORMbaHAH INITIAL FORMbfSOLATED FORMbeMEDIAL FORMbeWITH JEEM INITIAL FORM",
   "bbEH INITIAL FORMbeMEDIAL FORMbaJEEM INITIAL FORMbgSOLATED FORMbfMEDIAL FORM",
   "bfWITH ALEF MAKSURA FINAL FORMbkHAH INITIAL FORMbaKHAH INITIAL FORMbgSOLATED FORM",
   "bfMEDIAL FORMbfWITH ALEF MAKSURA FINAL FORMbkYEH FINAL FORMbaMEEM INITIAL FORMbgSOLATED FORM",
   "bfMEDIAL FORMbfWITH HAH FINAL FORMboINITIAL FORMbkJEEM INITIAL FORMbkMEEM FINAL FORM",
   "bpINITIAL FORMbaREH FINAL FORMbeISOLATED FORMbaYEH FINAL FORMbeISOLATED FORM",
   "rHADDA WITH DAMMA ISOLATED FORMbiMEDIAL FORMbhTAN ISOLATED FORMbcFATHA ISOLATED FORM",
   "biMEDIAL FORMbcKASRA ISOLATED FORMbiMEDIAL FORMbhTAN ISOLATED FORM",
   "bcSUPERSCRIPT ALEF ISOLATED FORMsEEN WITH ALEF MAKSURA FINAL FORMboISOLATED FORM",
   "bbHAH FINAL FORMbfINITIAL FORMbgSOLATED FORMbfMEDIAL FORMbfWITH MEEM FINAL FORMbpINITIAL FORM",
   "bkYEH FINAL FORMbcEH INITIAL FORMbfMEDIAL FORMbbJEEM FINAL FORMbgINITIAL FORMbhSOLATED FORM",
   "bgMEDIAL FORMbgWITH YEH FINAL FORMbbKHAH FINAL FORMbgINITIAL FORMbhSOLATED FORMbgMEDIAL FORM",
   "bbMEEM FINAL FORMbgINITIAL FORMbhSOLATED FORMbgMEDIAL FORMbgWITH KHAH FINAL FORM",
   "bqINITIAL FORMblMEEM FINAL FORMbqINITIAL FORMbbREH FINAL FORMbfISOLATED FORMbbYEH FINAL FORM",
   "bfISOLATED FORMrUBHAANAHU WA TAAALAAqTABAARAKA WA-TAAALAAsH WITH ALEF MAKSURA FINAL FORM",
   "bmISOLATED FORMzHAH INITIAL FORMbeSOLATED FORMzMEEM INITIAL FORMbfSOLATED FORMbeMEDIAL FORM",
   "beWITH HAH FINAL FORMbnINITIAL FORMbjMEEM INITIAL FORMbjYEH FINAL FORMzYEH FINAL FORM",
   "bdISOLATED FORMrEH WITH ALEF MAKSURA FINAL FORMbmISOLATED FORMzHAH INITIAL FORMbeSOLATED FORM",
   "bdWITH JEEM FINAL FORMbnINITIAL FORMbiMEEM INITIAL FORMbaEH INITIAL FORMbdMEDIAL FORM",
   "zJEEM INITIAL FORMbfSOLATED FORMbeWITH ALEF MAKSURA FINAL FORMbjMEEM INITIAL FORM",
   "bjYEH FINAL FORMzKHAH INITIAL FORMbfSOLATED FORMbeWITH ALEF MAKSURA FINAL FORM",
   "bjMEEM INITIAL FORMbjYEH FINAL FORMzMEEM FINAL FORMbeINITIAL FORMbfSOLATED FORMbeMEDIAL FORM",
   "beWITH ALEF MAKSURA FINAL FORMbjHAH INITIAL FORMbjJEEM INITIAL FORMbjKHAH INITIAL FORM",
   "bjYEH FINAL FORMzNOON FINAL FORMzREH FINAL FORMzYEH FINAL FORMbdISOLATED FORMzZAIN FINAL FORM",
   "rHAL WITH SUPERSCRIPT ALEF ISOLATED FORMsEH WITH ALEF MAKSURA FINAL FORMbnISOLATED FORM",
   "baHEH MEDIAL FORMbaJEEM ISOLATED FORMbaMEEM FINAL FORMbfINITIAL FORMbgSOLATED FORM",
   "bfMEDIAL FORMbaNOON FINAL FORMbaREH FINAL FORMbaYEH FINAL FORMbeISOLATED FORM",
   "baZAIN FINAL FORMqUIGHUR KIRGHIZ YEH WITH HAMZA ABOVE WITH ALEF MAKSURA FINAL FORM",
   "csINITIAL FORMctSOLATED FORMqWASALLAM ISOLATED FORMqYEH WITH ALEF MAKSURA FINAL FORM",
   "bmISOLATED FORMzHAH INITIAL FORMbeSOLATED FORMbdWITH YEH FINAL FORM",
   "bbMZA ABOVE WITH AE FINAL FORMbtISOLATED FORMbrLEF FINAL FORMbvISOLATED FORM",
   "bvMAKSURA FINAL FORMcdISOLATED FORMbqE FINAL FORMbsINITIAL FORMbtSOLATED FORM",
   "bqHAH INITIAL FORMbvSOLATED FORMbrEH INITIAL FORMbuMEDIAL FORMbqJEEM INITIAL FORM",
   "bwSOLATED FORMbqKHAH INITIAL FORMbqMEEM FINAL FORMbvINITIAL FORMbwSOLATED FORMbvMEDIAL FORM",
   "bqNOON FINAL FORMbqOE FINAL FORMbtISOLATED FORMbqREH FINAL FORMbqU FINAL FORMbsISOLATED FORM",
   "bqWAW FINAL FORMbuISOLATED FORMbqYEH FINAL FORMbuISOLATED FORMbrU FINAL FORMbtISOLATED FORM",
   "bqZAIN FINAL FORMbaEH INITIAL FORMbdMEDIAL FORMzJEEM INITIAL FORMbfSOLATED FORM",
   "beWITH YEH FINAL FORMzKHAH INITIAL FORMbfSOLATED FORMzMEEM FINAL FORMbeINITIAL FORM",
   "bfSOLATED FORMbeMEDIAL FORMbeWITH MEEM FINAL FORMboINITIAL FORMbjYEH FINAL FORM",
   "zNOON FINAL FORMzREH FINAL FORMzYEH FINAL FORMbdISOLATED FORMzZAIN FINAL FORM",
   "qZAH WITH MEEM INITIAL FORMbfSOLATED FORMbeMEDIAL FORMhMADDA WAAJIBmH ABOVEjRK NOON GHUNNA",
   "mSIDEWAYS NOON GHUNNAjTHEMATICAL AINvLEFuBEHuDADwLvOTLESS BEHbcFEHbcNOONbcQAFwUBLE-STRUCK AIN",
   "biBEHbiDADbkLbiFEHbiGHAINbiHAHbiJEEMbiKHAHbiLAMbiMEEMbiNOONbiQAFbiREHbiSADbjEENbjHEENbiTAH",
   "bjEHbjHALbkEHbiWAWbiYEHbiZAHbkINuFEHuGHAINuHAHuINITIAL AINbcBEHbcDADbcFEHbcGHAINbcHAHbdEH",
   "bcJEEMbcKAFbdHAHbcLAMbcMEEMbcNOONbcQAFbcSADbdEENbdHEENbcTEHbdHEHbcYEHuJEEMuKAFvHAHuLAM",
   "vOOPED AINbcLEFbbBEHbbDADbdLbbFEHbbGHAINbbHAHbcEHbbJEEMbbKHAHbbLAMbbMEEMbbNOONbbQAFbbREHbbSAD",
   "bcEENbcHEENbbTAHbcEHbcHALbdEHbbWAWbbYEHbbZAHbdINuMEEMuNOONuOPERATOR HAH WITH DAL",
   "bdMEEM WITH HAH WITH TATWEELuQAFuREHuSADvEENvHEENvTRETCHED AINbeBEHbeDADbfOTLESS BEHbmFEH",
   "beFEHbeGHAINbeHAHbfEHbeJEEMbeKAFbfHAHbeMEEMbeNOONbeQAFbeSADbfEENbfHEENbeTAHbfEHbfHEHbeYEH",
   "beZAHuTAHwILED AINbbDADbcOTLESS NOONbjQAFbbGHAINbbHAHbbJEEMbbKHAHbbLAMbbNOONbbQAFbbSADbcEEN",
   "bcHEENbbYEHvEHvHALwEHuWAWuYEHuZAHwINhNUMBER MARK ABOVEoSIGNhOPEN DAMMATANmFATHATANmKASRATAN",
   "hPERCENT SIGNiIASTRE MARK ABOVEiLACE OF SAJDAHiOETIC VERSE SIGNjUND MARK ABOVEhQUESTION MARK",
   "hRAISED ROUND DOTjYiEVERSED DAMMAiIGHT ARROWHEAD ABOVEbc WITH DOTxBELOW",
   "iOUNDED HIGH STOP WITH FILLED CENTREhSEMICOLONiHADDAn ISOLATED FORMoMEDIAL FORM",
   "iIGN ALAYHE ASSALLAMmMISRAmRADI ALLAHOU ANHUoHMATULLAH ALAYHEmSAFHA",
   "oLLALLAHOU ALAYHE WASSALLAMoMVAToNAHnINDHI AMPERSANDtPOSTPOSITION MENmTAKHALLUSiMALL DAMMA",
   "nFARSI YEHpTHAnHIGH AINsDOTLESS HEAD OF KHAHsFARSI YEHtOOTNOTE MARKERsJEEMsLAM ALEF",
   "tIGATURE ALEF WITH LAM WITH YEHbbQAF WITH LAM WITH ALEF MAKSURA",
   "bbSAD WITH LAM WITH ALEF MAKSURAsMADDAtEEM INITIAL FORMySOLATED FORMsNOONw WITH KASRAsQAF",
   "sROUNDED ZEROsSADtEENtIGN SAFHAsTAHtHREE DOTSsUPRIGHT RECTANGULAR ZEROsWAWtORD AL-JUZyN-NISF",
   "yR-RUByS-SAJDAyTH-THALATHAxQIFxSAHzKTAxWAQFAsYEHv BARREE WITH TWO DOTS BELOWsZAHuINnKASRA",
   "nLOW MEEMrNOON WITH KASRArSEENrWAWsORD IMAALAxSHMAAMwTASHEELnWAWnYEHiTART OF RUB EL HIZB",
   "iUBSCRIPT ALEFjKUNm BELOWnISOLATED FORMnMEDIAL FORMjPERSCRIPT ALEF MOKHASSASiYMBOL DOT ABOVE",
   "sBELOWqUBLE VERTICAL BAR BELOWoFOUR DOTS ABOVEyBELOWoRINGoSMALL TAH ABOVEyBELOW",
   "oTHREE DOTS ABOVEzBELOWzPOINTING DOWNWARDS ABOVEbsBELOWpWO DOTS ABOVExBELOWxVERTICALLY ABOVE",
   "biBELOWoWASLA ABOVEhTAIL FRAGMENTjTWEELo WITH FATHATAN ABOVEuOVERSTRUCK HAMZAbfWAW",
   "uTWO DOTS BELOWiHOUSANDS SEPARATORiONE LOOP ABOVErBELOWmONE DOT ABOVEuBELOWmTWO DOTS ABOVE",
   "vBELOWiRIPLE DOT PUNCTUATION MARKiURNED DAMMA BELOWhVERTICAL TAILiOWEL SIGN DOT BELOW",
   "sINVERTED SMALL V ABOVEsSMALL V ABOVEhWAVY HAMZA BELOWhZWARAKAYg-INDIC CUBE ROOTnDIGIT EIGHT",
   "tFIVEuOURtNINEtONEtSEVENuIXtTHREEuWOtZEROnFOURTH ROOTnPER MILLE SIGNrTEN THOUSAND SIGNcCcIES",
   "cMENIAN ABBREVIATION MARKkPOSTROPHEjCAPITAL LETTER AYByBENyCAzHAbaEHzOyDAyECHzHzTyFEHyGHADzIM",
   "yHOyINIyJAzHEHyKEHbaNyLIWNyMENyNOWyOHyPEHzIWRyRAzEHySEHzHAyTIWNzOyVEWzOyXEHyYIbaWNyZAzHEkOMMA",
   "jDRAM SIGNjEMPHASIS MARKkXCLAMATION MARKjFULL STOPjHYPHENjMODIFIER LETTER LEFT HALF RING",
   "jQUESTION MARKjSMALL LETTER AYBwBENwCAxHAyEHxOwDAwECHxHxTwFEHwGHADxIMwHOwINIwJAxHEHwKEHyN",
   "wLIWNwMENwNOWwOHwPEHxIWRwRAxEHwSEHxHAwTIWNxOxURNED AYBwVEWxOwXEHwYIy WITH STROKEyWNwZAxHE",
   "qIGATURE ECH YIWNyMEN ECHbcINIbcNOWbcXEHyVEW NOW",
   "cROW POINTING DOWNWARDS THEN CURVING LEFTWARDSbmRIGHTWARDSpRIGHTWARDS THEN CURVING DOWNWARDS",
   "bnSOUTH WESTbnUPWARDSpUPWARDS THEN NORTH WESTfHEAD-SHAPED POINTERcTICULATED LORRYeST PALETTE",
   "bSCENDING NODEdIA SYMBOLcSERTIONcTERISKi OPERATORhMdONISHED FACEdRAEA",
   "eONOMICAL SYMBOL FOR URANUScYMPTOTICALLY EQUAL TObTHLETIC SHOEcOM SYMBOLbUBERGINEcSTRAL SIGN",
   "cTO RICKSHAWeMATED TELLER MACHINEfOBILEbVESTAN ABBREVIATION MARKiLETTER AqArNrOqErEqNqOpBEqHE",
   "pCEpDEqHEpEqEpFEpGEqGEqHEpHEqMEpIqIpJEpKEpLEpMEpNEqGErVErYEqNEqYEpOqOpPEpREpSEqHErYEqSHEpTE",
   "qHEqTEpUqUpVEpXEqVEqYEpYEqYEpZEqHEcOCADObXEaBABYe ANGELfBOTTLEfCHICKfSYMBOLcCK OF ENVELOPE",
   "fWITH LEFTWARDS ARROW ABOVEe-TILTED SHADOWED WHITE RIGHTWARDS ARROW",
   "eSLANTED SOUTH ARROW WITH HOOKED TAILbfRIZONTAL TAILfPACEdONdTRIAN CAMELcDGER",
   "dMINTON RACQUET AND SHUTTLECOCKcGELdGAGE CLAIMdUETTE BREADcLINESE ADEG ADEGjCARIK PAMUNGKAH",
   "rRERENpSIKIjDIGIT EIGHTpFIVEqOURpNINEpONEpSEVENqIXpTHREEqWOpZEROjLETTER AIKARArKARAv TEDUNG",
   "rRCHAIC JNYArSYURA SASAKqBAs KEMBANGqCAs LACAqDAs MADUuURDA ALPAPRANAzMAHAPRANAqEF SASAKrKARA",
   "qGAs GORAqHAqIKARAv TEDUNGqJAs JERAqKAs MAHAPRANAsF SASAKrHOT SASAKqLAs LENGAy TEDUNGqMAqNA",
   "s RAMBATrGArYAqOKARAv TEDUNGqPAs KAPALqRAs REPAx TEDUNGqSAs SAGAvPAqTAs LATIKtMURDA MAHAPRANA",
   "tTAWArZIR SASAKqUKARAv TEDUNGqVE SASAKqWAqYAqZAL SASAKjMUSICAL SYMBOL COMBINING BENDEbiENDEP",
   "biGONGbiJEGOGANbiKEMPLIbo WITH JEGOGANbmULbo WITH JEGOGANbiTEGEHyDAENGbaINGbaNGbc GEDE",
   "bdSURANGzENGbaUNGzINGzONGzUNGyLEFT-HAND CLOSED PLAKbrUKbiOPEN PANGboINGboUNG",
   "yRIGHT-HAND CLOSED TAKbrUKbjOPEN DAGbpUGjPAMADAp LANTANGmENENGlNTIo LANTANGjSIGN BISAHoCECEK",
   "oREREKANoSURANGoULU CANDRAsRICEMjVOWEL SIGN LA LENGAbc TEDUNGuPEPETz TEDUNGuRA REPAbb TEDUNG",
   "uSUKUy ILUTuTALINGba REPAbf TEDUNGbbTEDUNGvEDUNGuULUx SARIjWINDUdL OF YARNeET SHOESeOON",
   "h-SPOKED ASTERISKfT BOLD SCRIPT XjXk WITH BALLOTrOLD CHECKvSCRIPT XqCHECKqLIGHT XqSCRIPT XqX",
   "hSCRIPT XhXcMUM COLONiMBINING MARK KOQNDONvTUKWENTISjMAgFULL STOPgLETTER AnEEnFAAMAEoEEoOMoU",
   "nInKAoENpTpUXoIoOpGHOMpVUUoPAoUoYEEnLAoEEEEoIoOQoUnMoAoBAApENoEEEEpNoIoOoUnNAoDAAoGApGApKWAEN",
   "oIoJAEMpEEpUAEoSHAoTEEpUUoUpAEoYInOnPAoEEpUXoHASE-A FIRIvGBIEE FONwHEUAEGHEUAEbbRAEvKAFAxQwET",
   "xUKEUTNDAwPOQwUOQvLAPAQwET KUTwOMMAEwUxAEPvMAEKEUPyMzBGBIEEzKPENzVEUXyNYIySIxNSUAExP PIEET",
   "wBANYIyQwEUNJOMNDEUQwGBASAwON NGGEUAETxOMEUTzPUQwVEUAENGAMvNAA MFONxQwDA LEERAEWAyANGGEUAET",
   "wENwGANGUxGENxKUE MFONbaNZEUMwIKAwJAMwKAARAExINDIwSHAyIEEwTAPz MFAAbaNTAAxOQPENwYETxI",
   "yT MONGKEUAEQwZA MFONxUN MEUTvPA LEERAEWAxAMyRAExMSHAExSHAEwETwON MFON PIPAEMBAbkGBIEE",
   "zPA NJI PIPAEMBAbmGBIEEwUPvROMvSEUNYAMwHINDA PA NJIyRAExOQ NSHUT YUMxUENSHUETyMwISAwONJAMxQxT",
   "wUUvTEUAENyTEUWENwITA MFONwU MAEMBAxAEPvU YUQ NAEwNKNOWNvVEEtB FEExUXvGHEUGHENbcUAEMvKAM",
   "wEUAEMyPUQyYEUXwIEEMxQvLAANAExM NSHUT NYAMwETwOM NTEUMvMAx NJEUAENAbaUQAwBA MAELEEyARAExEURI",
   "xIT MBAAKETxUOQwEUQyT NGGEETwFIYAQxON TEUAEQwONTIEENvNDU NJAAwGGAAMyEU MBUyUOQbb LARGE",
   "xKINDI MVOPxOMwSENxHUETwTIEE SHEUOQwYAEMAExI NTEUMvPARUMwEESHIwITwUNGAAMvSAKEUAEwET TU",
   "wHET NJAQyUAEQTUwIEEwUEvTAAMwU MAEMGBIEEyNSIEEvVEUMvWUAETvYAFU LEERAEWAwEURAEtC BUNGvFUE",
   "vGBAYIwHAPyRAEvKAAwEN FATIGUEzLAWxTxUKAQyMySEUXzHEUAEPwPARAQwUOP NKAARAExTvLAMxPwIQwU",
   "vMA KEUAERIyNSIEExEMBAySIwBAA CABBAGE-TREEbaPICKETyNYIxEEKEETyRAEyUMzXxIyRIEENyTxUAEMyE",
   "wGBASAQwIEEwUAEvNANSANAQxQwDAMyPxEUAEREEzTxIDAxOMBUwGAQxGENyUzAEN NYAMzEETzMzONxKAQyUE MAEMBA",
   "xOMwJAEMyMxEEEEyUXxUEQwSAxEUAENxHAQxOMxUNyOT NGOMwTAAxENyUNGBAxU MBITwYIR MKPARAQ MEUNwZAxEUM",
   "vPENwINxRIEENvRUvSETFONxUXwHIQxUEQwUAETvTAASHAEwETxUTEUXwITA YUEyUAEPvVEUAEPENyXvWANGKUOQwUP",
   "vYAAwEUQwU MUOMAExMxWOQtD FAAwEUFEUAETvGHAAxEUAEvKETxUAETMEUNyMyOT MBUAEyPwUxNxOMxQwWAETwYEE",
   "vLEEEExTxUAEPyMwIEEwOQwUMvMwAENJETxLEERIwBAAz SEVENxUOwEEEExUNyTwFEUAEzTxIEExOyNwGBEUNyIEE",
   "yOFUMwONIwUwVOPvNDAMxEEyUXxONwGGAAMbbAEzPyEUXyUOMyWAENxKAPyEUAEQbaRIyIEEyUNyYEEwIwJAPxEUAEMzT",
   "xIyEExUEQwSHEEyUTxIEEPbaTxUMwTEEyUMxUUwUwYAMxETxIxUEvPAPwEExUTAEwIPwUQxUTvRAEMwEN MUCHzOLDwII",
   "vSAPxQwEUAEQwHEEyUAEzXxIIxOQxUwOTwUAExExUvTAEwEEEExUAENyNyTwIwOQwUxOTvWAPwUAENvYAEMMAEwENwUOM",
   "yPxWOQtE AvFAxQwEEwOMwU CALLyIyREMEDYxEyTvGBETyUXwHAAMAExETyUAEzNzXxOMvIvKETxUAEyXwIwOwPEUX",
   "wUETxOPxTvLAAMxPxQwEUAEMwOMxONyTxQwUvMAxEyMxPxQwBEEyUMwENwFEUQwGBAyENwIxEEwONwUAEwVIvNAxE",
   "wDAA MY HOUSEbaSOFTNESSyPxIAQyQxUNwGAxEUREUTxGEEEEzUAEbcTyUAESHAE NYAMzPzRAExKAzAMIyEUAEMbaX",
   "yUMzPxOPyQxUAEbaTwJAEMLIxEEz EPOCHyUXwKOMwSHIEEyUEzOPwTAPxUMwYI BETWEENzCLEAVERwZAQxUQvO",
   "vPA PEOPLEzLURALxAyMwEEMxUTyXwIxEEQyTwOxONwUxAEyQxExMvRAExQwEUXwIMGBAvSAAwEExTwHEUAEQxIQxOyQ",
   "wOMwUAENvTAAyQxEN NTEUMxMxQwENxUyAEQwOOyNxQwUAExMyAEvVEExUAEwOMvWEUXwUExOvYAPwEUAEbaTyMyXwIEE",
   "xTwOQ COVERzSWIMMINGwUAENxEQxNxQtF EEvFOMvKAwENxTwOwPAwUwYEEvLAwIwOQvMwAwBAAxENwEEEEwOvNDAA",
   "wGGAxKWAENwIwJAEMxUAEwSHAwTEEwUxAEwYIvPEExUXwUAEvREExNxUXwIEExIwUvSAMBAwEUXwHIIxOxUwIwUUvTAA",
   "xEwETvUvVUEQvWAwUEvYAwOQoIoUAEpEnRAEoEEpNpUXoIEEpIoUnSAMBAoEUXoHEUXpIIpOpUoIoUUnTAApEoENpToI",
   "nUnWAoUEnYAoOQoUQgNJAEMLIgQUESTION MARKgSEMICOLONcNANAdJOdKeNOTE WITH DOLLAR SIGNoEURO SIGN",
   "oPOUND SIGNoYEN SIGNcR CHARTeOF SOAPdBER POLEcSEBALLdKETgBALL AND HOOP",
   "dSA VAH COMBINING HIGH TONEy-LOW TONEuLOW TONEx-MID TONEuMID TONEkFULL STOPkLETTER ArBArCE",
   "rDHIIsOrEsEsNNIrFArGAHsBUrHWAHrIrJOrKAsPAHrMBErOsOrPArSErTOrUsWUrVUrWAtDDArYEINsIErZOcT",
   "dAK CONSONANT SIGN HvNGgLETTER AnBAnCAnDAnGAnHAnInJAnKARO BAnLAnMApNDAILING HAyNAySAoBAnNAoDA",
   "oGAoORTHERN TAoYAnPApKPAK WAnRAnSAoIMALUNGUN AyGAyHAyLAyMAyPAyRAySAyWAyYAoOUTHERN TAnUnWAnYA",
   "gPANGOLATjONGONANgSIGN TOMPIhYMBOL BINDU JUDULtNA METEKtPANGOLATuINARBORASgVOWEL SIGN EsErI",
   "rKARO IwOrOrPAKPAK ErUs FOR SIMALUNGUN SAdHeTUBdTERYbEACH WITH UMBRELLA",
   "dMED ASCENDING MUSICAL NOTEShDESCENDING MUSICAL NOTEShEIGHTH NOTEShSIXTEENTH NOTESdNSdR FACE",
   "eDED PERSONdTING HEARTdVERcCAUSEcDcER MUGdTLEcLdLe PEPPERfSYMBOLfWITH CANCELLATION STROKE",
   "eHOP BELLcNGALI ABBREVIATION SIGNjNJIjU LENGTH MARKiCURRENCY DENOMINATOR SIXTEEN",
   "rNUMERATOR FOURbbONEbe LESS THAN THE DENOMINATORbbTHREEbcWOiDIGIT EIGHToFIVEpOURoNINEoONE",
   "oSEVENpIXoTHREEpWOoZEROiGANDA MARKiISSHARiLETTER AqAqIqUpBAqHApCAqHApDAqDArHAqHApEpGAqHApHApI",
   "qIpJAqHApKAqHAsNDA TApLApMApNAqGAqNAqYApOpPAqHApRAr WITH LOWER DIAGONALxMIDDLE DIAGONALqHAqRA",
   "pSAqHAqSApTAqHAqTArHApUqUpVEDIC ANUSVARAqOCALIC LyLxRyRpYAqYAiRUPEE MARKoSIGNiSANDHI MARK",
   "jIGN ANUSVARAoVAGRAHAnCANDRABINDUnNUKTAnVIRAMApSARGAiVOWEL SIGN AAuIuUtEtIuItOtUuUtVOCALIC L",
   "bcLbbRbcRdT ARROW POINTING DOWNWARDS THEN NORTH EASTeO BOXdZENE RINGm WITH CIRCLEcT SYMBOL",
   "dWEENcVERAGE BOXbHAIKSUKI DANDAlIGIT EIGHTqFIVErOURqNINEqONEqSEVENrIXqTHREErWOqZERO",
   "lOUBLE DANDAkGAP FILLER-1v2kHUNDREDS UNIT MARKkLETTER AsAsIsUrBAsHArCAsHArDAsDAtHAsHArErGAsHA",
   "rHArIsIrJAsHArKAsHArLArMArNAsGAsNAsYArOrPAsHArRArSAsHAsSArTAsHAsTAtHArUsUrVAsOCALIC LzRbaRrYA",
   "kNUMBER EIGHTwYrFIFTYtVEsORTYtURrNINEvTYrONErSEVENwTYsIXuTYrTENsHIRTYtREEsWENTYtO",
   "kSIGN ANUSVARAqVAGRAHApCANDRABINDUpVIRAMArSARGAkVOWEL SIGN AAwIwUvEvIwIvOvUwUvVOCALIC LbdRbeR",
   "kWORD SEPARATORbICYCLEgISTcG REVERSE SOLIDUSeSOLIDUScKINIcLLED CAPeIARDScOHAZARD SIGNcRD",
   "dTHDAY CAKEcSONcTCOIN SIGNdING LIPbLACK BOWTIEgCENTRE WHITE STARhHESS BISHOP",
   "s ROTATED NINETY DEGREESbbTWO HUNDRED SEVENTY DEGREESmEQUIHOPPERw ROTATED NINETY DEGREESmKING",
   "q ROTATED NINETY DEGREESzTWO HUNDRED SEVENTY DEGREESnNIGHTs ROTATED FORTY-FIVE DEGREES",
   "bbNINETY DEGREESbbONE HUNDRED THIRTY-FIVE DEGREESbbTHREE HUNDRED FIFTEEN DEGREES",
   "bcWO HUNDRED SEVENTY DEGREESbnTWENTY-FIVE DEGREESs-BISHOPtQUEENtROOKmPAWN",
   "q ROTATED NINETY DEGREESzTWO HUNDRED SEVENTY DEGREESmQUEENr ROTATED NINETY DEGREES",
   "baTWO HUNDRED SEVENTY DEGREESmROOKq ROTATED NINETY DEGREESzTWO HUNDRED SEVENTY DEGREES",
   "mTURNED BISHOPtKINGuNIGHTtPAWNtQUEENtROOKhIRCLEm FOR RECORDnWITH DOWN ARROWsTWO WHITE DOTS",
   "sWHITE DOT RIGHThLUB SUIThROSS ON SHIELDhURVED DOWNWARDS AND LEFTWARDS ARROW",
   "bbRIGHTWARDS ARROWnLEFTWARDS AND DOWNWARDS ARROWbbUPWARDS ARROW",
   "nRIGHTWARDS AND DOWNWARDS ARROWbcUPWARDS ARROWnUPWARDS AND LEFTWARDS ARROWzRIGHTWARDS ARROW",
   "gDIAMONDn CENTREDoMINUS WHITE XoON CROSSoSUIToWITH DOWN ARROWhOWN POINTING BACKHAND INDEX",
   "k-POINTING DOUBLE TRIANGLEuISOSCELES RIGHT TRIANGLEuSMALL TRIANGLEuTRIANGLE",
   "kWARDS EQUILATERAL ARROWHEADhRAUGHTS KINGpMANiOPLETgFLAGiORETTEhOLDERiUR POINTED STAR",
   "gHARD SHELL FLOPPY DISKhEARTl SUITiXAGONhORIZONTAL ELLIPSEiURGLASSgLARGE CIRCLEmSQUARE",
   "hEFT LANE MERGElPOINTING BACKHAND INDEXuINDEXk-POINTING DOUBLE TRIANGLEbj WITH VERTICAL BAR",
   "uISOSCELES RIGHT TRIANGLEuPOINTERuSMALL TRIANGLEuTRIANGLEkWARDS BULLETqEQUILATERAL ARROWHEAD",
   "hOWER LEFT TRIANGLEmRIGHT TRIANGLEiZENGEgMEDIUM DIAMONDoOWN-POINTING TRIANGLEbj CENTRED",
   "nLEFT-POINTING TRIANGLEbj CENTREDoOZENGEnRIGHT-POINTING TRIANGLEbk CENTREDnSMALL DIAMOND",
   "tLOZENGEtSQUAREoQUAREnUP-POINTING TRIANGLEbh CENTREDhOON LILITHgNIBgOCTAGONgPARALLELOGRAM",
   "hENNANTjTAGONhUSHPINgQUESTION MARK ORNAMENTgRECTANGLEhIGHT POINTING BACKHAND INDEXvINDEX",
   "l-POINTING DOUBLE TRIANGLEbk WITH VERTICAL BARvISOSCELES RIGHT TRIANGLEvPENTAGONwOINTER",
   "vSMALL TRIANGLEvTRIANGLEbd WITH DOUBLE VERTICAL BARlWARDS ARROWwHEADrBULLET",
   "rEQUILATERAL ARROWHEADhOSETTEgSAFETY SCISSORShCISSORShHOGI PIECEhKULL AND CROSSBONES",
   "hLIGHTLY SMALL CIRCLEvSQUAREhMALL DIAMONDmLOZENGEmSQUAREnTARiILING FACEhNOWMANhPADE SUIT",
   "hQUAREm BUTTONnCENTREDnFOR STOPhTARhUN WITH RAYSgTELEPHONEhINY DIAMONDlLOZENGElSQUARE",
   "hOUCHTONE TELEPHONEhRUCKhWO-WAY LEFT WAY TRAFFICgUNIVERSAL RECYCLING SYMBOL",
   "hP POINTING BACKHAND INDEXi-POINTING DOUBLE TRIANGLEsISOSCELES RIGHT TRIANGLEsSMALL TRIANGLE",
   "sTRIANGLEiPER LEFT TRIANGLEmRIGHT TRIANGLEiWARDS EQUILATERAL ARROWHEADgVERTICAL ELLIPSE",
   "pRECTANGLEjY SMALL DIAMONDrLOZENGErSQUAREf-FEATHERED NORTH EAST ARROWqRIGHTWARDS ARROW",
   "qSOUTH EAST ARROWgLETTER CAPITAL CvHvIvRvZdNK SYMBOLcOCK SEXTANT-1p2q3r4s5s6r5s6r6q4r5s6r6q5",
   "r6q6p3q4r5s6r6q56q6p4q5r6q6p5q6p6o2p3q4r5s6r6q5r6q6p4q5r6p5q6p6o3p4q5r6q6p5q6p6o4p5q6p6o5p6o6",
   "dSSOMdWFISHcUE BOOKfHEARTeBERRIESbOARcLD EIGHT SPOKED ASTERISKfFIVE SPOKED ASTERISK",
   "fGREEK CROSSfSALTIREgIX SPOKED ASTERISKfWHITE CIRCLElSQUAREcMdBcNEcOKeMARKi TABSeSdMERANG",
   "cPOMOFO FINAL LETTER GwHwKwPwTjLETTER ArHrIsNNrMrNsGsNrUsNNqBrUqCrHqDqErErHrIrNsGsNrRqFqGrHrN",
   "rUrWqHqIrHrMrNNtNrRrUqJrIqKrWqLrHqMqNrGsGrNqOr WITH DOT ABOVErErMrNGsNrOrUqPqQqRqSrHqTqUrNNqV",
   "qXqZrHrIrYcTTLE WITH POPPING CORKeOM ARC ANTICLOCKWISE ARROWhCURLY BRACKEThHALF BLACK CIRCLE",
   "mINTEGRALmLEFT PARENTHESISmRIGHT PARENTHESIShLEFT CORNERnROPmHALF BRACKEThPARENTHESIS",
   "hRIGHT CORNERoROPnHALF BRACKEThSQUARE BRACKETv OVER TOP SQUARE BRACKEThTORTOISE SHELL BRACKET",
   "cUQUETh OF FLOWERScW AND ARROWdL OF HYGIEIAfWITH SPOONeINGdTIEg WITH LEFT HALF BLACK",
   "mRIGHT HALF BLACKcX DRAWINGS DOUBLE DOWN AND HORIZONTALbdLEFTbdRIGHTuHORIZONTAL",
   "uUP AND HORIZONTALbbLEFTbbRIGHTuVERTICALbc AND HORIZONTALbhLEFTbhRIGHT",
   "pWN DOUBLE AND HORIZONTAL SINGLEbdLEFT SINGLEbdRIGHT SINGLEsHEAVY AND HORIZONTAL LIGHT",
   "bcLEFT LIGHTbhUP LIGHTbcRIGHT LIGHTbiUP LIGHTbcUP HORIZONTAL LIGHTsLIGHT AND HORIZONTAL HEAVY",
   "bcLEFT HEAVYbhUP HEAVYbcRIGHT HEAVYbiUP HEAVYbcUP HORIZONTAL HEAVY",
   "sSINGLE AND HORIZONTAL DOUBLEbdLEFT DOUBLEbdRIGHT DOUBLEnHEAVY DOUBLE DASH HORIZONTAL",
   "bfVERTICALvWNx AND HORIZONTALbcLEFTbcRIGHTtHORIZONTALtLEFTx AND LIGHT RIGHT",
   "tQUADRUPLE DASH HORIZONTALbiVERTICALtRIGHTtTRIPLE DASH HORIZONTALbfVERTICALtUP",
   "v AND HORIZONTALbaLEFTbbIGHT DOWNbaRIGHTtVERTICALbb AND HORIZONTALbgLEFTbgRIGHT",
   "nLEFT DOWN HEAVY AND RIGHT UP LIGHTsHEAVY AND RIGHT DOWN LIGHTbiUP LIGHTbiVERTICAL LIGHT",
   "sLIGHT AND RIGHT DOWN HEAVYbiUP HEAVYbiVERTICAL HEAVYsUP HEAVY AND RIGHT DOWN LIGHT",
   "oIGHT ARC DOWN AND LEFTbgRIGHTxUP AND LEFTbeRIGHTtDIAGONAL CROSSbcDIAMOND",
   "bcMIDDLE LEFT TO LOWER CENTREcd TO MIDDLE RIGHTbrUPPER CENTRE TO MIDDLE RIGHT",
   "ct TO LOWER CENTREbjRIGHT TO LOWER CENTREbsUPPER CENTRE TO MIDDLE LEFT TO LOWER CENTRE",
   "bcUPPER CENTRE TO MIDDLE LEFTcd AND MIDDLE RIGHT TO LOWER CENTREceTO LOWER CENTRE",
   "ct TO MIDDLE RIGHTbzRIGHTce AND MIDDLE LEFT TO LOWER CENTREcfTO LOWER CENTREcu TO MIDDLE LEFT",
   "biLEFT TO LOWER RIGHTbiRIGHT TO LOWER LEFTuOUBLE DASH HORIZONTALbfVERTICALvWNx AND HORIZONTAL",
   "bcLEFTbcRIGHTtHORIZONTALbd WITH VERTICAL STROKEtLEFTx AND HEAVY RIGHT",
   "tQUADRUPLE DASH HORIZONTALbiVERTICALtRIGHTtTRIPLE DASH HORIZONTALbfVERTICALtUP",
   "v AND HEAVY DOWNbbORIZONTALbaLEFTbaRIGHTtVERTICALbb AND HORIZONTALbgLEFTbgRIGHT",
   "nRIGHT DOWN HEAVY AND LEFT UP LIGHTtHEAVY AND LEFT DOWN LIGHTbiUP LIGHTbiVERTICAL LIGHT",
   "tLIGHT AND LEFT DOWN HEAVYbiUP HEAVYbiVERTICAL HEAVYtUP HEAVY AND LEFT DOWN LIGHT",
   "nUP DOUBLE AND HORIZONTAL SINGLEbbLEFT SINGLEbbRIGHT SINGLEqHEAVY AND DOWN HORIZONTAL LIGHT",
   "baHORIZONTAL LIGHTbaLEFT DOWN LIGHTbfLIGHTbaRIGHT DOWN LIGHTbgLIGHT",
   "qLIGHT AND DOWN HORIZONTAL HEAVYbaHORIZONTAL HEAVYbaLEFT DOWN HEAVYbfHEAVYbaRIGHT DOWN HEAVY",
   "bgHEAVYqSINGLE AND HORIZONTAL DOUBLEbbLEFT DOUBLEbbRIGHT DOUBLE",
   "nVERTICAL DOUBLE AND HORIZONTAL SINGLEbhLEFT SINGLEbhRIGHT SINGLEwHEAVY AND HORIZONTAL LIGHT",
   "bgLEFT LIGHTbgRIGHT LIGHTwLIGHT AND HORIZONTAL HEAVYbgLEFT HEAVYbgRIGHT HEAVY",
   "wSINGLE AND HORIZONTAL DOUBLEbhLEFT DOUBLEbhRIGHT DOUBLEdING GLOVEcYdS SYMBOLbPHbRAHMI DANDA",
   "iIGIT EIGHTnFIVEoOURnNINEnONEnSEVENoIXnTHREEoWOnZEROiOUBLE DANDAhLETTER ApApIpUoBApHAoCApHA",
   "oDApDAqHApHAoEoGApHAoHAoIpIoJApHAoKApHAoLApLAoMAoNApGApNApYAoOpLD TAMIL LLAbaLAyNNNAyRRA",
   "ySHORT EbeOoPApHAoRAoSApHApSAoTApHApTAqHAoUpUoVApOCALIC LxLwRxRoYAhNUMBER EIGHTtYoFIFTYqVE",
   "pORTYqURoJOINERoNINEsTYoONEr HUNDREDsTHOUSANDoSEVENtTYpIXrTYoTENpHIRTYqREEpWENTYqO",
   "hPUNCTUATION CRESCENT BARtDOTvUBLE DOTtLINEuOTUShSIGN ANUSVARAmCANDRABINDUmJIHVAMULIYA",
   "mOLD TAMIL VIRAMAmUPADHMANIYAmVISARGAhVIRAMAiOWEL SIGN AAtItUsBHATTIPROLU AAsEsItIsO",
   "tLD TAMIL SHORT EbiOsUtUsVOCALIC LbbLbaRbbRdILLE PATTERN BLANKqDOTS-1w2x3y4z5ba6bb7bc8bb8ba7",
   "bb8ba8z6ba7bb8ba8z7ba8z8y5z6ba7bb8ba8z7ba8z8y6z7ba8z8y7z8y8x4y5z6ba7bb8ba8z7ba8z8y6z7ba8z8y7",
   "z8y8x5y6z7ba8z8y7z8y8x6y7z8y8x7y8x8w3x4y5z6ba7bb8ba8z7ba8z8y6z7ba8z8y7z8y8x5y6z7ba8z8y7z8y8x6",
   "y7z8y8x7y8x8w4x5y6z7ba8z8y7z8y8x6y7z8y8x7y8x8w5x6y7z8y8x7y8x8w6x7y8x8w7x8w8v2w3x4y5z6ba7bb8",
   "ba8z7ba8z8y6z7ba8z8y7z8y8x5y6z7ba8z8y7z8y8x6y7z8y8x7y8x8w4x5y6z7ba8z8y7z8y8x6y7z8y8x7y8x8w5x6",
   "y7z8y8x7y8x8w6x7y8x8w7x8w8v3w4x5y6z7ba8z8y7z8y8x6y7z8y8x7y8x8w5x6y7z8y8x7y8x8w6x7y8x8w7x8w8v4",
   "w5x6y7z8y8x7y8x8w6x7y8x8w7x8w8v5w6x7y8x8w7x8w8v6w7x8w8v7w8v8eNcEADeK PERMITTED HERE",
   "eST-FEEDINGdVEcICKdDE WITH VEILeGE AT NIGHTdEFCASEfScOCCOLIdKEN BAR",
   "hCIRCLE WITH NORTHWEST ARROWhHEARTdOMdWN HEARTbSbUBBLE TEAgScCKETcGdINESE END OF SECTION",
   "jLETTER AqBAqCAqDAqGAqHAqJAqKAqLAqMArPAqNArGAsKArRArYAsCAqPAqRAqSAqTAqVAqYAjPALLAWA",
   "jVOWEL SIGN AEuEuIuOuUcHID LETTER AnBAnDAnGAnHAnInKAnLAnMAnNAoGAnPAnRAnSAnTAnUnWAnYA",
   "gVOWEL SIGN IrUcILDING CONSTRUCTIONcLLETg OPERATOReHORNi WITH SOUND WAVESeSEYEcRRITOcSd STOP",
   "dT IN SILHOUETTEeS IN SILHOUETTEcTTERgFLYbYTE ORDER MARKcZANTINE MUSICAL SYMBOL AGOGI ARGI",
   "biOTERIbfGORGIbjOTERIbfMESIbhTRIAbfPOLI ARGIbkGORGIbaNATRICHISMAbbTIKENOKYLISMAbhMA",
   "baPESO EKFONITIKONbgXO NEObbLIbbODERMA ARCHAIONbiNEObcSTROFOI SYNDESMOS NEObkTELOUS ICHIMATOS",
   "biSbj DIPLIbkNEObcTHEMAbaRGONbdSYNTHETONbbKTIKO DIbhGAbhKEbhNIbhPAbhVOUbhZOzCHAMILIbfON",
   "bbOREVMA ARCHAIONbiNEObbROA KLITONbfSPATHIbfZYGOSzDASEIAbaIARGONbcSTOLI APLI MEGALIboIKRI",
   "biDIPLIbiTHESEOSbbESIS APLI DYO DODEKATAbgDIGRAMMOS EX DODEKATAbgMONOGRAMMOS TESSERA DODEKATA",
   "bgTETARTIMORIONbhRIGRAMMOS OKTO DODEKATAbjTIMORIONbbFTOGGOS OUbbGORGON",
   "bh PARESTIGMENON ARISTERA ANOcfKATObwDEXIAbcRAMMA GGbbPLIbe ARCHAIONbaYOzEKSTREPTONbaLAFRON",
   "baNARXIS KAI FTHORA VOUbbDOFONONbaPEGERMAbaTERON ARGOSYNTHETONbgPARAKALESMAbaXO EKFONITIKON",
   "zFANEROSIS DIFONIASbjMONOFONIASbjTETRAFONIASbaHTORA SKLIRON CHROMA VASISbaTHORA ARCHAION",
   "bo DEYTEROU ICHOUbgDIATONIKI DIbqKEbqNANAbrI ANObtKATObqPAbqZObgENARMONIOS ANTIFONIA",
   "bgI YFESIS TETARTIMORIONbgMALAKON CHROMA DIFONIASbvMONOFONIASbgNAOS ICHOSbhENANO",
   "bgSKLIRON CHROMA SYNAFIbvVASISboDIATONON DIzGENIKI DIESISbgYFESISbaORGON ARCHAIONbgNEO ANO",
   "bkKATObgPARESTIGMENON ARISTERAbuDEXIAbeSYNTHETONbcTHMIKON N APLOUNbmDIPLOUNbaRONTHISMATA",
   "zICHADINbaMIDIARGONbcFONONbdTHORAbhONbaSAKIA TELOUS ICHIMATOSbbON ARCHAIONbeNEO",
   "zKATAVA TROMIKONbfSMAbcHISTIbaENTIMA ARCHAIONbhNEO ANOblKATOblMESObgTAbi ARCHAIONbjNEO ANO",
   "bnKATObnMESObaLASMAbf ANObgKATObaONTEVMAbh ALLObbRONISbbUFISMAbaRATIMA ALLObiRCHAIONbhNEObgTA",
   "bfOKOUFISMAbgYPORROONbbEMASTIbaYLISMAzLEIMMA DYO CHRONONbgENOS CHRONOUbgIMISEOS CHRONOU",
   "bgTESSARON CHRONONbhRION CHRONONbbMOIbaYGISMAzMARTYRIA ALLI DEYTEROS ICHOSbnPROTOS ICHOS",
   "biDEYTEROS ICHOSbiLEGETOS ICHOSbiPLAGIOS ICHOSbqTETARTOS ICHOSbjROTOS ICHOSbnVARYS ICHOS",
   "biTETARTOS ICHOSbrLEGETOS ICHOSbjRIFONIASblTOS ICHOSbiVARYS ICHOSbaIKRON ISONzNANA",
   "zOLIGON ARCHAIONbgNEObaMALONbaXEIA DIPLIbfEKFONITIKONbfNEObeI ARCHAIONbaYRANISMA ARCHAION",
   "bjNEOzPARAKALESMA ARCHAIONblNEObeLITIKIbk ARCHAIONblNEObcICHONbaELASTONbh NEObbRISPOMENI",
   "bbTASMAbeTIbfOKOUFISMAbaIASMA ARCHAIONbgNEObaSIFISTOLYGISMAbhNbi NEObhPARAKALESMAbhSYNAGMA",
   "bcLIbdONzRAPISMAbaEVMAzSAXIMATAbaEISMAbf NEObaIMANSIS ARSEOSbo DISIMOUbpTETRASIMOUbqRISIMOU",
   "biTHESEOSbp DISIMOUbqTETRASIMOUbrRISIMOUbaTAVROSbg APODEXIAbbIGMAbbRAGGISMATA",
   "baYNAGMA ARCHAIONbhMETA STAVROUbhNEObcEVMAbbRMAbeTIKIzTELEIAbbSSERAbbTRAPLIbaHEMAbe APLOUN",
   "beTISMOS ESObmXObcS KAI APOTHESbbITAbaINAGMAbaRIAbcGORGONbcPLIbbOMIKOLYGISMAbgN ALLObjRCHAION",
   "biNEObgPARAKALESMAbhSIFISTONbgSYNAGMAzVAREIA DIPLIbgEKFONITIKONbgNEObfI ARCHAIONbbTHY",
   "zXIRON KLASMAzYFEN ANObeKATObcSIS APLI DYO DODEKATAbgDIGRAMMOS EX DODEKATA",
   "bgMONOGRAMMOS TESSERA DODEKATAbgTRIGRAMMOS OKTO DODEKATAbjTIMORIONbaPOKRISISbi DIPLIbcRROI",
   "bbSILIaCACTUScDA UNAdUCEUScLENDARdL ME HANDcMERAg WITH FLASHdPINGcNdADIAN SYLLABICS AuAvIvYuI",
   "vVILIK BuNuTHAPASCAN MbeSuYtBEAVER DENE LbfRuIBLE-CREE YuLACKFOOT AbdEbdIbdKAbeEbeIbeObdNAbeE",
   "beIbeObdObdSbdWbeAbeEbeIbeOtCuAvAwIvRRIER CHAbdEbeEbdIbdObdUbbDEEbdNE GEEbeTAL SbcIbcLAbdEbeE",
   "bdIbdObdUbcZAbdEbeEbdIbdObdUbbEEbbGAbdAbcEbdEbcHAbdEbeEbdIbdObdUbcIbcObcUbcWAbdUbbHbcEEbcI",
   "bcWAbdEbeEbdIbdObdUbbIbcNITIAL ZbbJAbcEbdEbcIbcJAbdEbeEbdIbdObdUbcObcUbcWAbbKHAbdEbeEbdIbdO",
   "bdUbcKbdAbdEbeEbdIbdObdUbbLAbcEbdEbcHAbdEbeEbdIbdObdUbcIbcObcUbbMAbcEbdEbcIbcObcUbbNAbcEbdE",
   "bcGbcIbcObcUbbPbcAbcEbdEbcIbcObcUbbRAbcEbdEbcIbcObcUbbSAbcEbdEbcHbdAbdEbeEbdIbdObdUbcIbcObcU",
   "bbTHAbdEbeEbdIbdObdUbcLAbdEbeEbdHAbeEbfEbeIbeObeUbdIbdObdUbcSAbdEbeEbdIbdObdUbcTAbdEbeEbdIbdO",
   "bdSAbeEbfEbeIbeObeUbdUbbWAbcEbdEbcIbcObcUbbYAbcEbdEbcIbcObcUbbZbcAbcEbdEbcIbcObcUuEuHI SIGNuI",
   "vIuOvOuWAwAvEvIwIvOwOtEuASTERN WuNtFuAvAwIuEuIvIvNAL ACUTEzBOTTOM HALF RINGzDOUBLE ACUTE",
   "bgSHORT VERTICAL STROKESbbWN TACKzGRAVEzMIDDLE DOTzPLUSzRAISED DOTbaIGHT HALF RINGbbNG",
   "zSHORT HORIZONTAL STROKEbaMALL RINGzTOP HALF RINGuOvOuULL STOPuWAAtGLOTTAL STOPtHKuYPHENtIuI",
   "uNtKuAvAwIvYuEuIvIuOvOuWvAwAwYvEvIwIvOwOtLuAvAwIvYuEuHvAwAvIwIvOwOuIvIuOvOuWAwAvEvIwIvOwOtMuA",
   "vAwIvYuEvDIAL LbaRuHuIvIuOvOwSE-CREE SKuWAwAvEvIwIvOwOtNu-CREE THEbcIbdIuAvAwIvSKAPI CWAA",
   "bbKWAAbbMWAAbbNWAAbbS-WbcCWAbcKWbeAbcPWAbcTWAbcWAAbbTWAAbbWAAbcOObbYWAAvTTILIK HAbeAbdIbeIbdO",
   "beObcSHRAbgAbfIbgIbfObgOvYuEuGvAwAxIwIvIwIvOwOuHuIvIuNGwAxAwIxIwOxOuOvOvYuUNAVIK HbcAbdAbcE",
   "bcIbdIbcObdOyUT HuWAwAvEvIwIvOwOtOuJIBWAY CbbKbbMbbNbcWIbeIbdObeObbPbbSbcHbbTuNuOuYtPuAvAwIvY",
   "uEuIvIuOvOvYuWAwAvEvIwIvOwOwYtQuAvAwIvIuIvIuOvOtRu-CREE REbbWEuAvAwIvYuEuIvIuOvOuWAwAvEEvIwI",
   "vOwOtSuAvAwIvYwISI HAbbEbbIbbObcObaJIbbUbcUbaMbaSHAbcEbcIbcObdObcWEbaTHbaYIuEuHvAwAwYvEvIwIvO",
   "wOwYvWAxAwEwIxIwOxOxYuIvIuOvOvUTH-SLAVEY KAHbhEHbhIHbhOHvYuPAvEvIvOuWvAwAvEvIwIvOwOtTuAvAwIvY",
   "uEuHv-CREE THbdAbeAbdEbdIbeIbdObeOvAwAvEvIwIvOwOvWAxAwEuIvIuLHAwEwIwOxOwWEuOvOuTAvEvHwAxAwEwI",
   "wOxOwWEvIvOuWAwAvEvIwIvOwOuYAvEvIvOtWAvAvYuEvST-CREE CWAbgAbfEbfIbgIbfObgObdFWAAbdKWAbgAbfE",
   "bfIbgIbfObgObdLbeAbfAbeEbeObfObeWAbgAbfEbfIbgIbfObgObdMbeWAbgAbfEbfIbgIbfObgObdNWAbgAbfEbdP",
   "beWAbgAbfEbfIbgIbfObgObdRbeAbeEbeIbeObeWAAbdSHWAbhAbgEbgIbhIbgObhObeWAbgAbfEbfIbgIbfObgO",
   "bdTHWAAbeWAbgAbfEbfIbgIbfObgObdWAbfAbeEbeIbfIbeObfObdYbeWAbgAbfEbfIbgIbfObgOxERN WuIvIuOvO",
   "wDS-CREE FINAL THbeTHbgAbgEbgIbgObgWAbiAbhEEbhIbiIbhObiOtYu-CREE COObaKOObaLOObaMOObaNOObaOO",
   "baPOObbWAAbaSOObaTOObaWbaYOOuAvAwIvYuEuIvIuOvOvYuWAwAvEvIwIvOwOdCELg CHARACTERhTAGgLATION XfR",
   "dDLEeYdNED FOODdOEcPITULUMdRICORNcR SLIDINGdD FILE BOXfINDEXk DIVIDERSdE OFeT",
   "f INSERTION POINTdIAN LETTER Ap2oBoC-18q39oDp2oEp2oGp2oIpIoKp2oLpDq2oMpBq2q3q4oNpDpGpNoOoPp2",
   "oQoRpRoSpHq2pSpTq2oTpTq2oUpUqUr2r3rUoXdONeUSEL HORSEdP STREAMEReENTRY SAWdRIAGE RETURNeOT",
   "cSTLEcTd FACEi WITH TEARS OF JOYoWRY SMILEcUCASIAN ALBANIAN CITATION MARKtLETTER ALTbbORbaBET",
   "baCARbcYNbbHAbdTbcIbcOYbbYAWbdYbaDATbbYANbbZAYbcYAYbaEBbbYNbaFAMbaGHEYSbbIMbaHEYTbaINYAbbRB",
   "bbWNbaJAYNbbHOXbaKARbbIWbaLANbbYITbaMAQbaNOWCbaONbaPENbbIWRbaQARbcYbaRATbaSEYKbbHAbdKbcOY",
   "baTASbbIWRbbYAYbaVEYZbaXEYNbaYAYDbbOWDbaZARLbbHAbcILdTION SIGNbCHbEDI SIGNeLLAcLTIC CROSS",
   "cNT SIGNeRE LINE SYMBOLgLINE LOW LINElOVERLINEcRESbGJbHAINSeRdKMA AU MARKhDANDAiIGIT EIGHT",
   "nFIVEoOURnNINEnONEnSEVENoIXnTHREEoWOnZEROiOUBLE DANDAhLETTER AAoBAApHAAoCAApHAAoDAApDAAqHAA",
   "pHAAoEoGAApHAAoHAAoIoJAApHAAoKAApHAAoLAApHAAoMAAoNAApGAApNAApYAAoPAApHAAoRAAoSAAoTAApHAApTAA",
   "qHAAoUoVAAoWAAoYAApYAAhMAAYYAAhO MARKhQUESTION MARKhSECTION MARKiIGN ANUSVARAmCANDRABINDU",
   "mVISARGAhVIRAMAiOWEL SIGN AtAtItUsEtIsItIsOtIsUtUdM CONSONANT SIGN FINAL HbaMbaNGuLAuRAuWAuYA",
   "fDIGIT EIGHTlFIVEmOURlNINElONElSEVENmIXlTHREEmWOlZEROfLETTER AnImBAnBAnHAmCHAoHAmDAnDAnHAmE",
   "mFINAL CHsGsKsLsNtGsPsRsSSsTsYmGAnHAmHAmImJAnHAmKAnHAmLAmMAnUEmNAnGAoUEnHAoJAoUEnUEmOmPAnHA",
   "nPAmRAmSAnSAmTAnHAmUmVAmYAfPUNCTUATION DANDAsOUBLE DANDArSPIRALrTRIPLE DANDAfVOWEL SIGN AArI",
   "rUqEIqIrIqOrEqUrEdRACTER TABULATIONu SETvWITH JUSTIFICATIONlIEeT WITH DOWNWARDS TREND",
   "lUPWARDS TRENDy AND YEN SIGNcECK MARKfER BOARDn FILLdERING MEGAPHONEeSE WEDGEdQUERED FLAG",
   "dROKEE LETTER AqDArErIrLArOrUrVqEqGArErIrOrUrVqHArErIrNArOrUrVqIqKAqLArErIrOrUrVqMArErIrOrUrV",
   "qNAsHrErIrOrUrVqOqQUAsEsIsOsUsVqSrArErIrOrUrVqTArErIrLAsEsIsOsUsVrSAsEsIsOsUsVqUqVqWArErIrOrU",
   "rVqYArErIrOrUrVjSMALL LETTER AwDAxExIxLAxOxUxVwEwGAxExIxOxUxVwHAxExIxNAxOxUxVwIwKAwLAxExIxOxU",
   "xVwMAxExIxOxUxVwNAyHxExIxOxUxVwOwQUAyEyIyOyUyVwSxAxExIxOxUxVwTAxExIxLAyEyIyOyUyVxSAyEyIyOyUyV",
   "wUwVwWAxExIxOxUxVwYAxExIxOxUxVeRIESfY BLOSSOMdSTNUTcI RHOdCKENdLDfREN CROSSINGdPMUNKdRON",
   "cOCOLATE BARdPSTICKSdRASMIAN LETTER ALEPHtYINsBETHsCURLED WAWsDALETHsGIMELsHEuTHsKAPHsLAMEDH",
   "sMEMsNUNsPEsRESHsSAMEKHtHINtMALL ALEPHsTAWsWAWsYODHsZAYINlNUMBER FOURsONEv HUNDREDsTENtHREE",
   "tWENTYuOcRISTMAS TREEcURCHbINEMA",
   "cRCLE DIVIDED BY HORIZONTAL BAR AND TOP HALF DIVIDED BY VERTICAL BAR",
   "hWITH ALL BUT UPPER LEFT QUADRANT BLACKmHORIZONTAL BARmLEFT HALF BLACKnOWER HALF BLACK",
   "mRIGHT HALF BLACKmSMALL CIRCLE TO THE RIGHTnUPERIMPOSED XmTWO HORIZONTAL STROKES TO THE RIGHT",
   "mUPPER HALF BLACKsRIGHT QUADRANT BLACKmVERTICAL FILLgD ANTICLOCKWISE ARROW",
   "v-ROTATED DIVISION SIGNjSTERISK OPERATORiBOLD XjULLETiC WITH OVERLAID BACKSLASHjCjD",
   "jROSS FORMEEu WITH FOUR DOTSbaTWO DOTSoPOMMEEnING LANESiDASHjIGIT EIGHToFIVEpOURoNINEoONE",
   "oSEVENpIXoTHREEpWOoZEROkVISION SIGNsLASHjOLLAR SIGN WITH OVERLAID BACKSLASHkT OPERATORiEQUALS",
   "iGREATER-THANiHANGUL CHIEUCHw AqIEUCu ApHIEUHu ApIEUNGu AvUpKHIEUKHw AqIYEOKv ApMIEUMu A",
   "pNIEUNu ApPHIEUPHw AqIEUPu ApRIEULu ApSIOSt ApTHIEUTHw AqIKEUTv AjEAVY WHITE RIGHTWARDS ARROW",
   "jORIZONTAL BAR WITH NOTCHjUMAN FIGUREiIDEOGRAPH ACCEPTtDVANTAGEtLLIANCEtTTENTIONsCENTRE",
   "tONGRATULATIONuPYuRRECTsEARTHtIGHTtNTERPRISEtXCELLENTsFEMALEtINANCIALuREuVEtOURsHAVEtIGHsITEM",
   "sKINDERGARTENtOTOsLABORtEFTtOWsMALEtEDICINEuTALtOONsNAMEtIGHTuNEsONEsPRINTsQUESTIONsRELIGION",
   "uSOURCEvTtIGHTsSCHOOLtECRETuVENtIXtOCIETYtPECIALtTOCKuUDYtUITABLEuNuPERVISEsTENtHREEtWOsWATER",
   "tOODjNFORMATION SOURCEjTALIC LATIN CAPITAL LETTER CbkRiKATAKANA ArErHAsEsIsOsUrIrKAsEsIsOsU",
   "rMAsEsIsOsUrNAsEsIsOsUrOrRAsEsIsOsUrSAsEsIsOsUrTAsEsIsOsUrUrWAsEsIsOrYAsOsU",
   "jOREAN CHARACTER CHAMKOzJUEUIiLATIN CAPITAL LETTER AbdBbdCbdDbdEbdFbdGbdHbdIbdJbdKbdLbdMbdN",
   "bdObdPbdQbdRbdSbdTbdUbdVbdWbdXbdYbdZoSMALL LETTER AbbBbbCbbDbbEbbFbbGbbHbbIbbJbbKbbLbbMbbNbbO",
   "bbPbbQbbRbbSbbTbbUbbVbbWbbXbbYbbZjESS-THANiMINUSjULTIPLICATION SIGN WITH CIRCUMFLEX ACCENT",
   "iNUMBER EIGHTEENuY ON BLACK SQUAREqLEVENpFIFTEENtYu ON BLACK SQUAREqORTYu EIGHTvFIVEwOURvNINE",
   "vON BLACK SQUARExEvSEVENwIXvTHREEwWOrURTEENpNINETEENpSEVENTEENvY ON BLACK SQUAREqIXTEEN",
   "tY ON BLACK SQUAREpTENs ON BLACK SQUAREqHIRTEENuYv EIGHTwFIVExOURwNINEwON BLACK SQUAREyE",
   "wSEVENxIXwTHREExWOqWELVEsNTYv EIGHTwFIVExOURwNINEwON BLACK SQUAREyEwSEVENxIXwTHREExWO",
   "iOPEN CENTRE EIGHT POINTED STARiPARALLELjERPENDICULARjLUSjOSTAL MARKiREVERSE SOLIDUS",
   "jING OPERATORiSQUAREiTIMESjRIANGLEq DOWNiVERTICAL BARiWHITE BULLEToSTARjZiXiZERO WITH SLASH",
   "eULATION FUNCTIONfMFLEX ACCENTfS TENTcTYSCAPEj AT DUSKbJK COMPATIBILITY IDEOGRAPH-2F800bg1bg2",
   "bg3bg4bg5bg6bg7bg8bg9bgAbgBbgCbgDbgEbgFbf10bg1bg2bg3bg4bg5bg6bg7bg8bg9bgAbgBbgCbgDbgEbgFbf20",
   "bg1bg2bg3bg4bg5bg6bg7bg8bg9bgAbgBbgCbgDbgEbgFbf30bg1bg2bg3bg4bg5bg6bg7bg8bg9bgAbgBbgCbgDbgE",
   "bgFbf40bg1bg2bg3bg4bg5bg6bg7bg8bg9bgAbgBbgCbgDbgEbgFbf50bg1bg2bg3bg4bg5bg6bg7bg8bg9bgAbgBbgC",
   "bgDbgEbgFbf60bg1bg2bg3bg4bg5bg6bg7bg8bg9bgAbgBbgCbgDbgEbgFbf70bg1bg2bg3bg4bg5bg6bg7bg8bg9bgA",
   "bgBbgCbgDbgEbgFbf80bg1bg2bg3bg4bg5bg6bg7bg8bg9bgAbgBbgCbgDbgEbgFbf90bg1bg2bg3bg4bg5bg6bg7bg8",
   "bg9bgAbgBbgCbgDbgEbgFbfA0bg1bg2bg3bg4bg5bg6bg7bg8bg9bgAbgBbgCbgDbgEbgFbfB0bg1bg2bg3bg4bg5bg6",
   "bg7bg8bg9bgAbgBbgCbgDbgEbgFbfC0bg1bg2bg3bg4bg5bg6bg7bg8bg9bgAbgBbgCbgDbgEbgFbfD0bg1bg2bg3bg4",
   "bg5bg6bg7bg8bg9bgAbgBbgCbgDbgEbgFbfE0bg1bg2bg3bg4bg5bg6bg7bg8bg9bgAbgBbgCbgDbgEbgFbfF0bg1bg2",
   "bg3bg4bg5bg6bg7bg8bg9bgAbgBbgCbgDbgEbgFbe900bg1bg2bg3bg4bg5bg6bg7bg8bg9bgAbgBbgCbgDbgEbgFbf10",
   "bg1bg2bg3bg4bg5bg6bg7bg8bg9bgAbgBbgCbgDbgEbgFbf20bg1bg2bg3bg4bg5bg6bg7bg8bg9bgAbgBbgCbgDbgE",
   "bgFbf30bg1bg2bg3bg4bg5bg6bg7bg8bg9bgAbgBbgCbgDbgEbgFbf40bg1bg2bg3bg4bg5bg6bg7bg8bg9bgAbgBbgC",
   "bgDbgEbgFbf50bg1bg2bg3bg4bg5bg6bg7bg8bg9bgAbgBbgCbgDbgEbgFbf60bg1bg2bg3bg4bg5bg6bg7bg8bg9bgA",
   "bgBbgCbgDbgEbgFbf70bg1bg2bg3bg4bg5bg6bg7bg8bg9bgAbgBbgCbgDbgEbgFbf80bg1bg2bg3bg4bg5bg6bg7bg8",
   "bg9bgAbgBbgCbgDbgEbgFbf90bg1bg2bg3bg4bg5bg6bg7bg8bg9bgAbgBbgCbgDbgEbgFbfA0bg1bg2bg3bg4bg5bg6",
   "bg7bg8bg9bgAbgBbgCbgDbgEbgFbfB0bg1bg2bg3bg4bg5bg6bg7bg8bg9bgAbgBbgCbgDbgEbgFbfC0bg1bg2bg3bg4",
   "bg5bg6bg7bg8bg9bgAbgBbgCbgDbgEbgFbfD0bg1bg2bg3bg4bg5bg6bg7bg8bg9bgAbgBbgCbgDbgEbgFbfE0bg1bg2",
   "bg3bg4bg5bg6bg7bg8bg9bgAbgBbgCbgDbgEbgFbfF0bg1bg2bg3bg4bg5bg6bg7bg8bg9bgAbgBbgCbgDbgEbgFbeA00",
   "bg1bg2bg3bg4bg5bg6bg7bg8bg9bgAbgBbgCbgDbgEbgFbf10bg1bg2bg3bg4bg5bg6bg7bg8bg9bgAbgBbgCbgD",
   "bcF900bf1bf2bf3bf4bf5bf6bf7bf8bf9bfAbfBbfCbfDbfEbfFbe10bf1bf2bf3bf4bf5bf6bf7bf8bf9bfAbfBbfC",
   "bfDbfEbfFbe20bf1bf2bf3bf4bf5bf6bf7bf8bf9bfAbfBbfCbfDbfEbfFbe30bf1bf2bf3bf4bf5bf6bf7bf8bf9bfA",
   "bfBbfCbfDbfEbfFbe40bf1bf2bf3bf4bf5bf6bf7bf8bf9bfAbfBbfCbfDbfEbfFbe50bf1bf2bf3bf4bf5bf6bf7bf8",
   "bf9bfAbfBbfCbfDbfEbfFbe60bf1bf2bf3bf4bf5bf6bf7bf8bf9bfAbfBbfCbfDbfEbfFbe70bf1bf2bf3bf4bf5bf6",
   "bf7bf8bf9bfAbfBbfCbfDbfEbfFbe80bf1bf2bf3bf4bf5bf6bf7bf8bf9bfAbfBbfCbfDbfEbfFbe90bf1bf2bf3bf4",
   "bf5bf6bf7bf8bf9bfAbfBbfCbfDbfEbfFbeA0bf1bf2bf3bf4bf5bf6bf7bf8bf9bfAbfBbfCbfDbfEbfFbeB0bf1bf2",
   "bf3bf4bf5bf6bf7bf8bf9bfAbfBbfCbfDbfEbfFbeC0bf1bf2bf3bf4bf5bf6bf7bf8bf9bfAbfBbfCbfDbfEbfFbeD0",
   "bf1bf2bf3bf4bf5bf6bf7bf8bf9bfAbfBbfCbfDbfEbfFbeE0bf1bf2bf3bf4bf5bf6bf7bf8bf9bfAbfBbfCbfDbfE",
   "bfFbeF0bf1bf2bf3bf4bf5bf6bf7bf8bf9bfAbfBbfCbfDbfEbfFbdA00bf1bf2bf3bf4bf5bf6bf7bf8bf9bfAbfBbfC",
   "bfDbfEbfFbe10bf1bf2bf3bf4bf5bf6bf7bf8bf9bfAbfBbfCbfDbfEbfFbe20bf1bf2bf3bf4bf5bf6bf7bf8bf9bfA",
   "bfBbfCbfDbfEbfFbe30bf1bf2bf3bf4bf5bf6bf7bf8bf9bfAbfBbfCbfDbfEbfFbe40bf1bf2bf3bf4bf5bf6bf7bf8",
   "bf9bfAbfBbfCbfDbfEbfFbe50bf1bf2bf3bf4bf5bf6bf7bf8bf9bfAbfBbfCbfDbfEbfFbe60bf1bf2bf3bf4bf5bf6",
   "bf7bf8bf9bfAbfBbfCbfDbe70bf1bf2bf3bf4bf5bf6bf7bf8bf9bfAbfBbfCbfDbfEbfFbe80bf1bf2bf3bf4bf5bf6",
   "bf7bf8bf9bfAbfBbfCbfDbfEbfFbe90bf1bf2bf3bf4bf5bf6bf7bf8bf9bfAbfBbfCbfDbfEbfFbeA0bf1bf2bf3bf4",
   "bf5bf6bf7bf8bf9bfAbfBbfCbfDbfEbfFbeB0bf1bf2bf3bf4bf5bf6bf7bf8bf9bfAbfBbfCbfDbfEbfFbeC0bf1bf2",
   "bf3bf4bf5bf6bf7bf8bf9bfAbfBbfCbfDbfEbfFbeD0bf1bf2bf3bf4bf5bf6bf7bf8bf9eRADICAL BAMBOOnLUE",
   "nOLT OF CLOTHoNEoXnRUSH ONEsTWOmC-SIMPLIFIED BIRDzCARTzDRAGONzEATbaVENzFISHbaLYbaROGzGATE",
   "baOLDzHORSEzLEAFbaONGzSALTbaEEbaHELLbaILKbaPEECHzTANNED LEATHERbaOOTHbaURTLEzWINDnHOKEnITY",
   "oVILIANnLIFFoOTHESnOWmDEATHnIVINATIONnOGmEAT ONEqTHREErWOnWEnYEmFIREnOOTmGHOSTnRASS ONEsTHREE",
   "tWOmHANDnEADpRT ONEsTWOnORNmJ-SIMPLIFIED DRAGONzEVENzTOOTHbaURTLEnADEmKNIFE ONEsTWOmLAME FOUR",
   "rONErTHREEsWOnONG ONErTWOmMEAToSHnOONoRTARoTHERoUND ONEsTWOmNET FOURqONEqTHREErWOmOLDmPAW ONE",
   "qTWOnERSONmRAINoMoPnEPEATmSEALoCOND ONEtTHREEuWOnHEEPnILKoMPLIFIED HALF TREE TRUNKyORNxWALK",
   "yHEATxYELLOWnMALL ONEsTWOnNAKEoOUT ONEsTWOnPIRIT ONEtTWOnUNmTABLEnHREADnIGERnURTLEmWALK ONE",
   "rTWOoTER ONEsTWOnEST ONErTWOeSTROKE BXGlDlHmGmPnWGmXWGmZnGnTnWoGnZoPoZpGlNlPmDmGmZlQlSmGmPmT",
   "mWnGnZmZnWGnZlTmNlWGlXGbLAMSHELL MOBILE PHONEdPPER BOARDfING HANDS SIGNdSSICAL BUILDING",
   "cEAR SCREEN SYMBOLcINKING BEER MUGSjGLASSESdPBOARDcOCK FACE EIGHT OCLOCKq-THIRTYmLEVEN OCLOCK",
   "r-THIRTYlFIVE OCLOCKp-THIRTYmOUR OCLOCKp-THIRTYlNINE OCLOCKp-THIRTYlONE OCLOCKo-THIRTY",
   "lSEVEN OCLOCKq-THIRTYmIX OCLOCKo-THIRTYlTEN OCLOCKo-THIRTYmHREE OCLOCKq-THIRTYmWELVE OCLOCK",
   "r-THIRTYnO OCLOCKo-THIRTYfWISE CLOSED CIRCLE ARROWlONTOUR INTEGRAL",
   "kDOWNWARDS AND UPWARDS OPEN CIRCLE ARROWSkGAPPED CIRCLE ARROWkINTEGRALkOPEN CIRCLE ARROW",
   "kRIGHT AND LEFT SEMICIRCLE ARROWSpWARDS AND LEFTWARDS OPEN CIRCLE ARROWS",
   "cb WITH CIRCLED ONE OVERLAYkTOP SEMICIRCLE ARROWlRIANGLE-HEADED OPEN CIRCLE ARROWdSE UP",
   "fD BOOKhINTERSECTION WITH SERIFShLOCK WITH KEYhMAILBOX WITH LOWERED FLAGuRAISED FLAGhSUBSET",
   "n OR EQUAL TOjPERSETp OR EQUAL TOhUMBRELLAiNION WITH SERIFSy AND SMASH PRODUCTdUD",
   "f WITH LIGHTNINGlRAINlSNOWlTORNADOdWN FACEbOATcCKROACHeTAIL GLASSdONUTcFFINcINcLLISION SYMBOL",
   "dONf EQUALSgSIGNcMBINING ACUTE ACCENTw BELOWqTONE MARKp-GRAVE-ACUTEqMACRON",
   "lLMOST EQUAL TO ABOVEbaBELOWlNNUITY SYMBOLmTICLOCKWISE ARROW ABOVEyRING OVERLAYlSTERISK ABOVE",
   "tBELOWkBINDU BELOWlREVEp BELOWp-MACRONmIDGE ABOVErBELOWkCANDRABINDUmRONp BELOWlEDILLA",
   "lIRCUMFLEX ACCENTbb BELOWlLOCKWISE ARROW ABOVEuRING OVERLAYlOMMA ABOVEv RIGHTqBELOW",
   "mNJOINING MACRONbb BELOWlYRILLIC DASIA PNEUMATAtHUNDRED MILLIONS SIGNbbTHOUSANDS SIGNtKAVYKA",
   "tLETTER AbaBEbbIG YUSbaCHEbaDEbbJERVbaEFbbLbbMbbNbbRbbSbc-TEbaFITAbaGHEbaHAbcRD SIGNbaIbbE",
   "bbOTIFIED AbjBIG YUSbjEbaKAbaLITTLE YUSbaMONOGRAPH UKbaObbMEGAbaPEbaSHAbcCHAbbOFT SIGNbaTE",
   "bbSEbaUbbKRAINIAN IEbaVEbaYATbbERUbbIbbUbaZEbbHEtMILLIONS SIGNtPALATALIZATIONvYEROKuOKRYTIE",
   "uSILI PNEUMATAtTEN MILLIONS SIGNuHOUSAND MILLIONS SIGNuITLOy LEFT HALFzRIGHT HALFtVZMET",
   "kDELETION MARKmVANAGARI DIGIT EIGHTbbFIVEbcOURbbNINEbbONEbbSEVENbcIXbbTHREEbcWObbZERO",
   "vLETTER AbcKAbcNAbcPAbcRAbcUbcVIvSIGN AVAGRAHAlIAERESISt BELOWt-RINGlOT ABOVEt LEFTuRIGHT",
   "oBELOWt LEFTnTED ACUTE ACCENTrGRAVE ACCENTmUBLE ACUTE ACCENTrBREVEw BELOWrCIRCUMFLEX ABOVE",
   "rGRAVE ACCENTrINVERTED BREVEbf BELOWrLOW LINErMACRONx BELOWrOPEN MARK BELOWsVERLINE",
   "rPARENTHESES ABOVEsLUS SIGN ABOVEbbBELOWrRIGHTWARDS ARROW BELOWtNG BELOWrTILDEw LEFT HALF",
   "xRIGHT HALFrVERTICAL LINE ABOVEbfBELOWbaSTROKE OVERLAYqD CIRCUMFLEX ACCENTmWN TACK BELOW",
   "oWARDS ARROWkENCLOSING CIRCLEba BACKSLASHuDIAMONDuKEYCAPuSCREENvQUARE",
   "uUPWARD POINTING TRIANGLElQUALS SIGN BELOWkFERMATAlOUR DOTS ABOVEkGLAGOLITIC LETTER AZU",
   "bcBIG YUSbdUKYbcCHRIVIbcDJERVIbdOBRObcFITAbdRITUbcGLAGOLIbcHERUbcIbdNITIAL IZHE",
   "bdOTATED BIG YUSbkSMALL YUSbdZHEbcKAKObcLJUDIJEbcMYSLITEbcNASHIbcONUbcPOKOJIbcRITSIbcSHAbeTA",
   "bdLOVObdMALL YUSbcTSIbdVRIDObcUKUbcVEDEbcYATIbdERIbfUbeSTUbdObdUbcZEMLJAbdHIVETE",
   "lRANTHA DIGIT FIVEzOURyONEySIXyTHREEzWOyZEROsLETTER AzKAzNAzPAzVInPHEME JOINERnVE ACCENT",
   "w BELOWqTONE MARKp-ACUTE-GRAVEqMACRONmEEK DIALYTIKA TONOSqKORONISqMUSICAL PENTASEMEyTETRASEME",
   "zRISEMEqPERISPOMENIqYPOGEGRAMMENIkHOMOTHETIC ABOVEmOK ABOVEmRNkINFINITYmVERTED BREVEy BELOW",
   "vIDGE BELOWtDOUBLE ARCH ABOVEbfBELOWlS BELOWkKATAKANA-HIRAGANA SEMI-VOICED SOUND MARK",
   "bcVOICED SOUND MARKmVYKA ABOVE LEFTxRIGHTkLATIN LETTER SMALL CAPITAL GblLblMblNblR",
   "qSMALL LETTER Abe WITH DIAERESISbeEbeLPHAbeObeVbdBbeETAbdCbe CEDILLAbdDbdEbeSHbeTHbdF",
   "beLATTENED OPEN A ABOVEbdGbdHbdIbeNSULAR DblGblRblTbdKbdLbe WITH DOUBLE MIDDLE TILDEbeONG S",
   "bdMbdNbdObe WITH DIAERESISbkLIGHT CENTRALIZATION STROKEbdPbdRbe BELOWbfROTUNDAbdSbeCHWAbdT",
   "beURNED W BELOWbdUbe WITH DIAERESISbkLIGHT CENTRALIZATION STROKEbdVbdWbe BELOWbdXbdZ",
   "lEFT ANGLE ABOVEvBELOWqRROW ABOVEvBELOWuHEAD ABOVEzBELOWpHALF RING ABOVEzBELOWrRPOON ABOVE",
   "pPARENTHESIS ABOVE LEFTbbBELOW LEFTpRIGHT ARROW ABOVEbbBELOWpTACK BELOWoWARDS ARROW OVERLAY",
   "uHARPOON WITH BARB DOWNWARDSlIGATURE LEFT HALFbc BELOWtRIGHT HALFbd BELOW",
   "nHT CENTRALIZATION STROKE BELOWlONG DOUBLE SOLIDUS OVERLAYpSOLIDUS OVERLAYqTROKE OVERLAY",
   "pVERTICAL LINE OVERLAYmW LINEkMACRONq BELOWrLEFT HALFba BELOWrRIGHT HALFbb BELOWq-ACUTErBREVE",
   "rGRAVElINUS SIGN BELOWkNOT TILDE ABOVElUMBER SIGN ABOVEkOGONEKq ABOVElLD PERMIC LETTER AN",
   "bcDOIbcNENOEbcSIIbcZATAlPEN MARK BELOWlVERLINEkPALATALIZED HOOK BELOWmRENTHESES ABOVEwBELOW",
   "wOVERLAYlLUS SIGN ABOVEuBELOWkRETROFLEX HOOK BELOWmVERSE SOLIDUS OVERLAYrD COMMA ABOVE",
   "lIGHT ARROW ABOVEwBELOWvHEAD ABOVEbbND DOWN ARROWHEAD BELOWbeUP ARROWHEAD BELOWbaBELOW",
   "qHALF RING ABOVEbaBELOWsRPOON ABOVEqPARENTHESIS ABOVE RIGHTbcBELOW RIGHTqTACK BELOW",
   "pWARDS HARPOON WITH BARB DOWNWARDSmNG ABOVEpBELOWpOVERLAYkSEAGULL BELOWlHORT SOLIDUS OVERLAY",
   "rTROKE OVERLAYqVERTICAL LINE OVERLAYlNAKE BELOWlQUARE BELOWsRACKETS ABOVE",
   "lTRONG CENTRALIZATION STROKE BELOWlUSPENSION MARKkTHREE DOTS ABOVElILDEp BELOW",
   "qLEFT HALF BELOWqOVERLAYqRIGHT HALF BELOWlRIPLE ACUTE ACCENTrDOTrUNDERDOTlURNED COMMA ABOVE",
   "kUP TACK ABOVEsBELOWmWARDS ARROW BELOWlR ABOVElS ABOVEkVERTICAL LINE ABOVEyBELOWtTILDE",
   "kWIDE BRIDGE ABOVEpINVERTED BRIDGE BELOWmGGLY LINE BELOWkX ABOVEmBELOWl-X BELOWkZIGZAG ABOVE",
   "rBELOWdETdMAeERCIAL ATlMINUS SIGNdPASSeLEMENTeOSITION SYMBOLeRESSIONcNFETTI BALLeOUNDED FACE",
   "eUSED FACEdGRUENT WITH DOT ABOVEdICAL TAPERdJUNCTIONdSTRUCTION SIGNnWORKERdTAINS AS MEMBER",
   "mNORMAL SUBGROUPbb OR EQUAL TOjWITH LONG HORIZONTAL STROKEoOVERBAR",
   "oVERTICAL BAR AT END OF HORIZONTAL STROKEeINUOUS UNDERLINE SYMBOLeOUR INTEGRALeROL KNOBS",
   "iSEQUENCE INTRODUCERdVENIENCE STOREcOKED RICEeIEfNGcPTIC CAPITAL LETTER AKHMIMIC KHEIxLFA",
   "wBOHAIRIC KHEIwCROSSED SHEIyYPTOGRAMMIC EIEbkGANGIAbkNIbkSHEIwDALDAxEIxIALECT-P ALEFbgHORI",
   "bgKAPAbgNIwEIEwFEIxIwGAMMAyNGIAwHATExORIwIAUDAwKAPAxHEIyIxSIwL-SHAPED HAxAULAwMIwNIwO",
   "xLD COPTIC AINbhDJAbhESHbhGANGIAbhHAbjTbiEIbiORIbhOOUbhSHEIbjIMAbaNUBIAN NGIbiYIbhSHIMAbhWAU",
   "xOUwPIxSIwROwSAMPIxHEIyIMAxIMAxOUwTAUxHETHEwUAwVIDAwZATAiOMBINING NI ABOVErSPIRITUS ASPER",
   "baLENIShEPACT DIGIT EIGHTtFIVEuOURtNINEtONEtSEVENuIXtTHREEuWOnNUMBER EIGHT HUNDREDzYuFIFTY",
   "wVE HUNDREDvORTYwUR HUNDREDuNINE HUNDREDyTYuONE HUNDREDuSEVEN HUNDREDzTYvIX HUNDREDxTYuTEN",
   "vHIRTYwREE HUNDREDvWENTYwO HUNDREDnTHOUSANDS MARKhFRACTION ONE HALFiULL STOP",
   "hMORPHOLOGICAL DIVIDERhOLD NUBIAN DIRECT QUESTION MARKsFULL STOPsINDIRECT QUESTION MARK",
   "sVERSE DIVIDERhSMALL LETTER AKHMIMIC KHEIvLFAuBOHAIRIC KHEIuCROSSED SHEIwYPTOGRAMMIC EIE",
   "biGANGIAbiNIbiSHEIuDALDAvEIvIALECT-P ALEFbeHORIbeKAPAbeNIuEIEuFEIvIuGAMMAwNGIAuHATEvORIuIAUDA",
   "uKAPAvHEIwIvSIuL-SHAPED HAvAULAuMIuNIuOvLD COPTIC AINbfDJAbfESHbfGANGIAbfHAbhTbgEIbgORIbfOOU",
   "bfSHEIbhIMAyNUBIAN NGIbgYIbfSHIMAbfWAUvOUuPIvSIuROuSAMPIvHEIwIMAvIMAvOUuTAUvHETHEuUAuVIDA",
   "uZATAiYMBOL KAIpHI ROoMI ROoPI ROoSHIMA SIMApTAUROSoTAU ROdYLEFT SYMBOLeRIGHT SIGNcRAL",
   "dNISH VERSE DIVIDERdRESPONDS TOcUCH AND LAMPdNTERBOREhSINKfING ROD TENS DIGIT EIGHTyFIVEzOUR",
   "yNINEyONEySEVENzIXyTHREEzWOnUNIT DIGIT EIGHTyFIVEzOURyNINEyONEySEVENzIXyTHREEzWO",
   "dPLE WITH HEARTcWd FACEbRcABcEDIT CARDdSCENT MOONcICKETh BAT AND BALLcOCODILEdISSANTdSS MARK",
   "gOF JERUSALEMjLORRAINEgPATTY WITH LEFT CROSSBARrRIGHT CROSSBARhOMMEEm WITH HALF-CIRCLE BELOW",
   "fED FLAGSiNEGATIVE SQUARED LATIN CAPITAL LETTER PiSWORDSfING LANESdWNcUTCHdZEIRO SIGN",
   "cYING CAT FACEhFACEdSTAL BALLbSIbUBE ROOTcCUMBERcNEIFORM NUMERIC SIGN EIGHT ASHbdDISHbdGESH2",
   "bdSHAR2bdUbe VARIANT FORMbdVARIANT FORM USSUbu3yLAMITE FIFTYbgORTYbfONE THIRDbfTWO THIRDS",
   "xFIVE ASHbf TENUbcBAN2bg VARIANT FORMbdURUbcDISHbcGESH2bgUbcSHAR2bgUbdIXTHS DISHbcU",
   "bd VARIANT FORMyOUR ASHbf TENUbcBAN2bg VARIANT FORMbdURUbcDISHbcGESH2bgUbcSHAR2bgUbcU",
   "bd VARIANT FORMbcVARIANT FORM LIMMUbu AbvBbu4xNIGIDAESHbdMINzNE ASHbcDISHbcGESH2bcSHAR2bcU",
   "bd VARIANT FORMbcVARIANT FORM ILIMMUbv Abv3bv4xOLD ASSYRIAN ONE QUARTERboSIXTHyNE BAN2bcURU",
   "bbEIGHTH ASHbcSHE3bbGESH2bfUbbHALF GURbbQUARTER ASHbjGURbbSHARUbbTHIRD DISHbhVARIANT FORM A",
   "xSEVEN ASHbdDISHbdGESH2bdSHAR2bdUbe VARIANT FORMbdVARIANT FORM IMIN AbvBbu3",
   "yHAR2 TIMES GAL PLUS DISHbsMINyIX ASHbe TENUbbDISHbbGESH2bbSHAR2bbUbc VARIANT FORM",
   "bbVARIANT FORM ASH9xTHREE ASHbg TENUbdBAN2beURUbh VARIANT FORMbdDISHbdGESH2bhUbdSHAR2",
   "bi VARIANT FORMbhUbi VARIANT FORMbdVARIANT FORM ESH16bt21yWO ASHbe TENUbbBAN2bcURUbbESHE3",
   "bbGESH2bfUbbSHAR2bfUbbTHIRDS DISHbiVARIANT FORM AkPUNCTUATION SIGN DIAGONAL COLONbkQUADCOLON",
   "bkTRICOLONbbOLD ASSYRIAN WORD DIVIDERbbVERTICAL COLONkSIGN Aq TIMES AxBADxGAN2 TENUxHAxIGI",
   "xLAGAR GUNUxMUSHxSAGq2qBr GUNUsTIMES ASH2yDUN3 GUNUyGALbaN2 TENUyHAyIGI GUNUzMINyLAGAByNUN",
   "bb TENUySHESHbaU2yU PLUS U PLUS Ur2s TIMES AzBALAGzGAN2 TENUzME PLUS ENzSHA3zTAK4qD",
   "r TIMES ESH2qKr TIMES ERIN2ySHITA PLUS GISHqLr TIMES ALyDIM2yGISHyHAyKAD3zIySHEyUSHrANrEPH",
   "qMARt TIMES KUGbaSHEqNr OVER ANsPLUS NAGA OPPOSING AN PLUS NAGAbcSQUAREDsTHREE TIMESrSHEqPIN",
   "qRADt TIMES KURrKABqSAL2rHs KABA TENUtOVER ASH OVER ASHbk CROSSING ASH OVER ASH OVER ASH",
   "bcTUG2 OVER TUG2 TUG2 OVER TUG2 PAPtZIDA TENUs2sGABpBArDs TIMES DISH TENUrG3rHAR2v TIMES AB2",
   "bcNIbcZArLs OVER BALsAGrRsA2qIr TIMES AyGARyIGI GUNUqUr CROSSING BUsOVER BU ABbaTIMES NA2baUN",
   "rLUGu OVER BULUGrRs2pDAr TIMES TAK4rGs KISIM5 TIMES A PLUS MASHbhMARbgBALAGbhIbgGA",
   "bi PLUS MASHbhIbiR2bhUDbgHAbgIRbi PLUS LUbgKAKbgLAbhUbi PLUS MASH2biMbgNEbgPAP PLUS PAPbgSI",
   "bgTAK4bgU2 PLUS GIR2boMASHbhSHtTIMES KURs3rMrRsA3t4qIrBrMs TIMES IGIzSHEzU U Us2t TIMES UDrN",
   "s KASKAL U GUNU DISHrSHt PLUS SHUqUr GUNUsOVER DUsSHESHIGrBs TIMES ESH2zSHEs2rGs TIMES ANSHE",
   "baSHbc AT LEFTzDINbaUNzERIN2zGAbaIbbR2 GUNUbbSHzHAbaIzIGI GUNUzKASKALbaURbbSHU2bf PLUS KASKAL",
   "zLAK-020bbMbc TIMES KURbaUH PLUS GISHzMASHbaESbaIzNIzPIzSHEbaI GUNUsUDrHrNs3t GUNUy GUNUs4rR2",
   "pEq OVER E NUN OVER NUNrTIMES PAPq2r TIMES A PLUS HA PLUS DAyGARyKURyMIyPAPySALzHEyUqDINqGIR",
   "qLqNr CROSSING ENsOPPOSING ENsSQUAREDsTIMES GAN2bc TENUyMEqRENrIN2u XqSH2t CROSSING ESH2qZEN",
   "t SHESHIG TIMES ASHbiHIbiIGI GUNUbiLAbkLbiMEbkSbiSUuTIMES Abb PLUS LALbk TIMES LALbbNbaBAD",
   "baDUN3 GUNUbj GUNUbaGUDbaHAbc GUNUbaIGI GUNUbaKASKALbg SQUAREDbbU3baLAbcL TIMES LALbbIbbU",
   "baSHEbbUbaU2bbDpGAr GUNUr2s OVER GA2tTIMES A PLUS DA PLUS HAbgHAbgIGIbaB2 TENU PLUS TABbaN",
   "bb PLUS KAK PLUS AbaSHbc2bd PLUS GALzBADbbHAR2bbR PLUS RAbaURbc PLUS RAzDAbaIbbM GUNU",
   "bdTIMES SHEbaUBbbG TIMES IGI GUNUbjKASKALzELbb PLUS LAbaNbb TIMES GAN2 TENUbaRENzGAbbN2 TENU",
   "bbRbc PLUS DIbiNEbaIbb4bc PLUS AbbR2 PLUS SUzHA PLUS AbhLU PLUS ESH2bbLbc PLUS LAbaI PLUS LI",
   "baUB2zIGI GUNUbaSH PLUS HU PLUS ASHzKAKbbSKALbaIDbc PLUS LALbaU3 PLUS ANbbSHU2 PLUS KASKALzLA",
   "bbMbc TIMES KURbaUHzME PLUS ENbaIbaUSHzNEbb PLUS E2bhGIbaUNbc OVER NUNzPAzSALbbRbaHE",
   "bc PLUS TURbbIDbcMbaUMzTAK4zUbaDbb PLUS DUzZIZ2rBAt CROSSING GABAuROTATED NINETY DEGREESrD",
   "s OVER GAD GAR OVER GARrLs GAD OVER GAD GAR OVER GARsAMrMrNs2t CROSSING GAN2uOVER GAN2uTENUrR",
   "s3rSHANqE22rSHTINw TIMES KURbdUqIr CROSSING GIsTIMES EyUr4s CROSSING GI4tOVER GI4rDIMrGrR2",
   "t GUNUs3t TIMES A PLUS IGIbaGAN2 TENUbaIGIbaLU PLUS IGIbaPArSALsHt CROSSING GISHuTENU",
   "vIMES BADbaGISH CROSSING GISHbaTAK4qUr CROSSING GUr2s GUNUtTIMES IGI GUNUzKAK",
   "bc TIMES IGI GUNUzNUNzSAL PLUS TUG2rDs OVER GUD LUGALtPLUS GISH TIMES TAK4tTIMES A PLUS KUR",
   "zKURrLrMs TIMES SHErRs7sUNtSHpHAr GUNUsTENUw GUNUrLqIr TIMES ASHbb OVER HI TIMES ASHbb2yBAD",
   "yDISHyGADyKINyNUNySHEyUqUrB2t TIMES ANbaHALbaKASKALbaLISHbaUDrL2rSHpIq AqBqDIMt OVER IDIM BUR",
   "beSQUAREDqGrIs DIBtGUNUtOVER IGI SHIR OVER SHIR UD OVER UDtRIqLr TIMES GAN2 TENUr2qM",
   "r CROSSING IMsOPPOSING IMsSQUAREDsTIMES TAK4rINqNqRqSHpKAr TIMES AzDba PLUS KU3zNSHEzSH2bb3",
   "yBADbaLAGbaRzIzUyERIN2zSH2yGAbaLbaN2 TENUbaRbb PLUS SHA3 PLUS AzIbaR2baSHbc CROSSING GISH",
   "bdPLUS SARzUbaDbaR7yHI TIMES ASH2yIGIzMyKAbaKzIbaDyLIzUbaMyMEba PLUS DUbgGIbgTEzI",
   "ba PLUS NUNUZyNEzUNyPAzIyRUySAbaRzHAbaEbaIDbaUbbLzIGzUHURyTARzUyUz U Uz2zDzMUM TIMES PAzRba2",
   "zSHyZIr2s CROSSING KA2rBrD2s3s4s5t OVER KAD5rKs TIMES IGI GUNUrLs CROSSING KALtTIMES BADrM2s4",
   "rP ELAMITErSKALv LAGAB TIMES U OVER LAGAB TIMES U",
   "wOVER KASKAL LAGAB TIMES U OVER LAGAB TIMES UqESH2qIr TIMES BADyUzDrDrNrSALsHsIM5",
   "v OVER KISIM5qUr OVER HI TIMES ASH2 KU OVER HI TIMES ASH2r3r4s VARIANT FORMr7rLs GUNUrNrR",
   "s OPPOSING KURrSHU2qWU318pLArGABu SQUAREDvTIMES Abc PLUS DA PLUS HAbiGARbiLALbcLbcN",
   "bcSH ZIDA TENUbbBADbcIbbDARbbENbbGAbdRbcIbcUDbe PLUS GUDbbHAbdLbcI TIMES NUNbbIGI GUNUbcM",
   "bd PLUS HAbjLUbbKIbdNbcU3bdLbe PLUS HI PLUS AbbLAGABbcISHbcUbdLbbMEbd PLUS ENbcUSHbbNE",
   "bbSHE PLUS SUMbdITA PLUS GISH PLUS ERIN2brTENUbdU2bf PLUS SHU2bcUMbbTAGbdK4",
   "bcE PLUS A PLUS SU PLUS NAbbUbc PLUS AbiU PLUS Ubc2 PLUS ASHbcDbcSHbbZU OVER ZUtRu GUNU",
   "z OVER LAGAR GUNU SHEvTIMES SHEbe PLUS SUMrHSHUrK-003u21v5u30u50v1u62u79 OVER LAK-079 GUNUu80",
   "v1 OVER LAK-081u92t130u42t210v9u20v5v8u38u65v6t343v7v8u83v4u90t441v9w TIMES GUbdIGI",
   "bdPAP PLUS LU3bmPAP PLUS LU3bdU2 PLUS BAu50v7u70u83u90v2v3v5t550t608u17w TIMES ASHbdBAD",
   "bdDUN3 GUNU GUNUbdKU3bdLAbdTARbeEbdU2beDbeRUDAu36u48w TIMES DUBbdGAbdIGIbg GUNUbdNI",
   "bdPAP PLUS PAP PLUS LU3bdSHESH PLUS KIbdUDbeRUDAt724u49rLs TIMES LALrMs TIMES KURbc PLUS RUqI",
   "rLrMMU2rSHqUr TIMES BADr2s CROSSING LU2tGUNU TIMES ASHtOPPOSING LU2tSHESHIGba TIMES BAD",
   "uQUAREDtTENUuIMES ALzBADzDISHzESH2bd PLUS LALbeTENUzGAN2 TENUzHALbaI TIMES BADzIMzKAD2bc3",
   "bd PLUS ASHbaIzLA PLUS ASHbbGABzME PLUS ENzNEbaUzPAPbc PLUS PAP PLUS LU3zSHUbaI PLUS ASH",
   "bbK2 PLUS BUzTAK4baUG2r3rGALu OPPOSING LUGALwVER LUGALvSHESHIGrHrLrMs OVER LUMbb GAR OVER GAR",
   "pMAr GUNUsTIMES TAK4r2rHrRrSHt2qErSsHqIr PLUS ZA7rNqUr OVER MUrGs GUNUrNSUBrRGU2rSH",
   "t CROSSING MUSHuOVER MUSHbd TIMES A PLUS NAbkGAbkKAKuTIMES AbaKURbaZAt3u GUNUvTIMES A",
   "bc PLUS DIbbDIbbZApNAr2r4rGAt INVERTEDuOPPOSING NAGAuTIMES SHU TENUtRrMs NUTILLUs2qEr SHESHIG",
   "sTIMES AyUDqIr TIMES Er2rMs TIMES GAN2 TENUbbR PLUS GAN2 TENUrNs9sDA2v TIMES ANbdSH",
   "bf PLUS ASHbcBALbcDIM GUNUbcGIbeSHbdUDbeLbcHIbcKESH2bcLAK-050bcMASHbdE PLUS GAN2 TENUbcNEbdUN",
   "bcPAP PLUS PAPbcSHEbf PLUS A ANbmSHbo PLUS ASHbcUbd PLUS Ubd2 PLUS ASHbdRUDAbdSHrSAGqUr11",
   "t OVER NU11 BUR OVER BURuROTATED NINETY DEGREESuTENUrNs CROSSING NUNbf LAGAR OVER LAGAR",
   "tLAGAR TIMES GARbfMASHbfSALbi OVER NUN LAGAR TIMES SALbfUSHtOVER NUNtTENUsUZ",
   "u AB2 TIMES ASHGABbfBIbfDUGbfGUDbfIGI GUNUbfKAD3bfLAbfNEbfSILA3bfU2vKISIM5 TIMES BIbk UpPArD",
   "rNrPqESH2u ASTERISKqIr CROSSING PIsTIMES AzByBIzUyEyIzByUz2rR2sIGu OPPOSING PIRIGvTIMES KAL",
   "bbUDbbZApRArBqIqUpSArGs GUNUx TIMES HAtNUTILLUtOVER SAGtTIMES AzDUbbBzENzHAzIGI GUNUzKAKbaUR",
   "zLUMzMIzNUNzSALbaHE AT LEFTbbIDzTABbbK4zU2baBbaMbaRbaSHrLs LAGAB TIMES ASH2rNGA2rRqHAs3",
   "t TIMES AbaBADbaGISHbaNEbaSHU2baTURbaUbb PLUS As6t TENUsB6sR2rEs HUtOVER SHE",
   "bb GAD OVER GAD GAR OVER GARbcTAB OVER TAB GAR OVER GARtPLUS HUB2yNAM2ySARsG9sNsSHu2uLAMrID",
   "t TIMES AbaIMsMt TIMES AbaBALbbULUGbaDINbaGARbaIGIbd GUNUbaKUSHU2baLULbaMUGbaSALsNIGsR",
   "t OVER SHIR BUR OVER BURuTENUsTArUs OVER INVERTED SHUs2t PLUS DUG TIMES NIzE2 TIMES ANsBURqI",
   "r GUNUsTIMES TAK4rGs4t OVER SIG4 SHU2rK2rLA3qUr OVER SUrDs2rHURrMsASHrRs9pTAr ASTERISKsGUNU",
   "sTIMES HIyMIrBs OVER TAB NI OVER NI DISH OVER DISHtSQUAREDrGs TIMES BIzGUDzSHEbbUzTUG2zUDrK4",
   "t PLUS SAGrRqEr GUNUqIr TENUr2rLrRs OVER TIRbb GAD OVER GAD GAR OVER GARtTIMES TAK4qUrG2rKrM",
   "s TIMES GAN2 TENUzTHREE DISHrRs OVER TUR ZA OVER ZApUq GUDrOVER U PA OVER PA GAR OVER GAR",
   "ySUR OVER SURyU REVERSED OVER U REVERSEDrUs Uq2qBqDr GUNUsKUSHU2sSHESHIGz TIMES BADsTIMES BAD",
   "yMIyU PLUS U PLUS Ubn GUNUrUGqMr TIMES LAGAByMEba PLUS DAySHA3yUrBINrUMt TIMES KASKALbaPAqN",
   "r GUNUqRr CROSSING URsSHESHIGr2s INVERTEDtTIMES A PLUS HAbgNAbaLzHAzNUNzU2bb PLUS ASHbhBIbaD",
   "r4rIs3rUs TIMES AbaSHGABzBARzDARA3baUNzGAbbLbbN2 TENUbbRbaUzHAzIGIbaMbaSHzKIzLAK-668baU3bbM",
   "zMINzPAzSHEbaIG4zTUzU PLUS GUDbaDbaRUDAsDAu TIMES UqSHs TIMES AzKUbbRzTAK4s2sUMXsXqTUKIqZ3",
   "s TIMES KASKALrUpZAr SQUARED TIMES KURsTENUr7rGrMXqE2qIr OVER ZIr3rBs KABA TENUrGrZ2qU",
   "r OVER ZU PLUS SARr5s TIMES AzTHREE DISH TENUrBURrMcP ON BLACK SQUAREeWITH STRAWdCAKEdIDO",
   "cRLING STONEeY BRACKET EXTENSIONgLOGICAL ANDoORiOPdRENCY EXCHANGEjSIGNeY AND RICE",
   "dVED STEM PARAGRAPH SIGN ORNAMENTcSTARDeOMScT OF MEATbYCLONEcLINDRICITYcPRIOT SYLLABLE ArErI",
   "rJAsOrKAsEsIsOsUrLAsEsIsOsUrMAsEsIsOsUrNAsEsIsOsUrOrPAsEsIsOsUrRAsEsIsOsUrSAsEsIsOsUrTAsEsIsO",
   "sUrUrWAsEsIsOrXAsErZAsOeO-MINOAN SIGN CM001w2w4w5w6w7w8w9v10w1w2xBw3w5w7w9v21w3w4w5w6w7w8w9",
   "v30w3w4w5w6w7w8w9v40w1w4w6w7w9v50w1w2w3w4w5w6w8w9v60w1w2w3w4w6w7w8w9v70w1w2w3w4w5xBw6w8w9v80",
   "w1w2w3w4w5w6w7w8w9v90w1w2w4w5w6w7w8w9u100w1w2w3w4w5w7w8w9v10w2w4u301w2",
   "cRILLIC CAPITAL LETTER Az WITH BREVEbfDIAERESISzBKHASIAN CHEbl WITH DESCENDERbiDZEbiHA",
   "zLEUT KAyBARRED Obg WITH DIAERESISbaSHKIR KAzEzIG YUSbaNOCULAR OzLENDED YUSzROAD OMEGA",
   "zYELORUSSIAN-UKRAINIAN IyCCHEzHEbb WITH DESCENDERbiIAERESISbhVERTICAL STROKEzLOSED LITTLE YUS",
   "zROSSED OyDCHEzEzJEbbRVzOUBLE MONOCULAR ObfOzWEzZEbbLObaHEbaWEbaZEbbHEyEz WITH DIAERESISzFzL",
   "ba WITH DESCENDERbgHOOKbgMIDDLE HOOKbgTAILzMba WITH TAILzNba WITH DESCENDERbgHOOKbgLEFT HOOK",
   "bgMIDDLE HOOKbgTAILzRba WITH TICKzSba WITH DESCENDERyFITAyGHEbb WITH DESCENDERbhMIDDLE HOOK",
   "bhSTROKEbn AND HOOKbhUPTURNzJEyHAba WITH DESCENDERbgHOOKbgSTROKEbaRD SIGNzWEyI",
   "z WITH DIAERESISbfGRAVEbfMACRONzEba WITH BREVEbgGRAVEzObaTAbbIFIED AbhBIG YUS",
   "bhCLOSED LITTLE YUSbhEbhLITTLE YUSbhYATzZHITSAbf WITH DOUBLE GRAVE ACCENTyJEyKA",
   "ba WITH DESCENDERbgHOOKbgSTROKEbgVERTICAL STROKEzHAKASSIAN CHEzJEzOMI DEbeJEbeZJEbdLJEbdNJE",
   "bdSJEbdTJEbdZJEbaPPAzSIyLHAzITTLE YUSzJEyMONOCULAR ObcGRAPH UKyNEUTRAL YERzJEyO",
   "z WITH DIAERESISzMEGAbd WITH TITLOzTyPEba WITH DESCENDERbgMIDDLE HOOKzSIyQAyREVERSED DZEbhTSE",
   "bhYUbhZEzHAzOUND OMEGAySCHWAbd WITH DIAERESISzEMISOFT SIGNzHAbaCHAbaHAbc WITH DESCENDER",
   "baORT Ibf WITH TAILbeUbaWEzOFT DEbdELbeMbdSIGNzTRAIGHT Ubi WITH STROKEyTCHEzE",
   "ba WITH DESCENDERbgMIDDLE HOOKzSEbaHEbaSEbaWEzWEyUz WITH DIAERESISbgOUBLE ACUTEbfMACRONzK",
   "baRAINIAN IEyVEyWEyYAbaEbaTzERUbc WITH BACK YERbiDIAERESISzIzNzUyZEba WITH DESCENDER",
   "bhIAERESISbaMLYAzHEbb WITH BREVEbhDESCENDERbiIAERESISbaWEsIGATURE A IEbaEN GHEbaTE TSEjKAVYKA",
   "jLETTER MULTIOCULAR OqPALOCHKAqSMALL CAPITAL ELjPAYEROKjSMALL LETTER Ax WITH BREVEbdDIAERESIS",
   "xBKHASIAN CHEbj WITH DESCENDERbgDZEbgHAxLEUT KAwBARRED Obe WITH DIAERESISySHKIR KAxExIG YUS",
   "yNOCULAR OxLENDED YUSxROAD OMEGAxYELORUSSIAN-UKRAINIAN IwCCHExHEz WITH DESCENDERbgIAERESIS",
   "bfVERTICAL STROKExLOSED LITTLE YUSxROSSED OwDCHExExJEzRVxOUBLE MONOCULAR ObdOxWExZEzLOyHEyWE",
   "yZEzHEwEx WITH DIAERESISxFxLy WITH DESCENDERbeHOOKbeMIDDLE HOOKbeTAILxMy WITH TAILxN",
   "y WITH DESCENDERbeHOOKbeLEFT HOOKbeMIDDLE HOOKbeTAILxRy WITH TICKxSy WITH DESCENDERwFITAwGHE",
   "z WITH DESCENDERbfMIDDLE HOOKbfSTROKEbl AND HOOKbfUPTURNxJEwHAy WITH DESCENDERbeHOOKbeSTROKE",
   "yRD SIGNxWEwIx WITH DIAERESISbdGRAVEbdMACRONxEy WITH BREVEbeGRAVExOyTAzIFIED AbfBIG YUS",
   "bfCLOSED LITTLE YUSbfEbfLITTLE YUSbfYATxZHITSAbd WITH DOUBLE GRAVE ACCENTwJEwKA",
   "y WITH DESCENDERbeHOOKbeSTROKEbeVERTICAL STROKExHAKASSIAN CHExJExOMI DEbcJEbcZJEbbLJEbbNJE",
   "bbSJEbbTJEbbZJEyPPAxSIwLHAxITTLE YUSxJExONG-LEGGED DEwMONOCULAR ObaGRAPH UKwNARROW O",
   "xEUTRAL YERxJEwOx WITH DIAERESISxMEGAbb WITH TITLOxTwPALOCHKAxEy WITH DESCENDERbeMIDDLE HOOK",
   "xSIwQAwREVERSED DZEbfTSEbfYUbfZExHAxOUND OMEGAbbED VEwSCHWAbb WITH DIAERESISxEMISOFT SIGNxHA",
   "yCHAyHAba WITH DESCENDERyORT Ibd WITH TAILbcUyWExOFT DEbbELbcMbbSIGNxTRAIGHT Ubg WITH STROKE",
   "wTALL HARD SIGNbbTEbbYATxCHExEy WITH DESCENDERbeMIDDLE HOOKxHREE-LEGGED TExSEyHEySEyWExWEwU",
   "x WITH DIAERESISbeOUBLE ACUTEbdMACRONxKyRAINIAN IExNBLENDED UKwVEwWExIDE ESwYAyEyTxERU",
   "ba WITH BACK YERbgDIAERESISxIxNxUwZEy WITH DESCENDERbfIAERESISyMLYAxHEz WITH BREVEbfDESCENDER",
   "bgIAERESISyWEqIGATURE A IEyEN GHEyTE TSEjTHOUSANDS SIGNaDAGGERg KNIFEhWITH LEFT GUARD",
   "mRIGHT GUARDcLET SYMBOLcNCERdGOcRK SHADEgUNGLASSEScSH SYMBOLfWITH LEFT UPTURNeED LOW LINE",
   "hOVERLINEhTRIANGLE-HEADED RIGHTWARDS ARROWcTA LINK ESCAPEbC1c2c3c4cSbEAF PERSONcCIDUOUS TREE",
   "eMAL EXPONENT SYMBOLiSEPARATOR KEY SYMBOLdREASE FONT SIZE SYMBOLcERcGREE CELSIUShFAHRENHEIT",
   "hSIGNcLdETEdIVERY TRUCKdTA EQUAL TOcNTISTRY SYMBOL LIGHT DOWN AND HORIZONTALbq WITH CIRCLE",
   "bwTRIANGLEbwWAVExUP AND HORIZONTALbo WITH CIRCLEbuTRIANGLEbuWAVExVERTICAL AND BOTTOM LEFT",
   "brRIGHTbkTOP LEFTboRIGHTbkWAVEbgWITH CIRCLEblTRIANGLEcPARTMENT STOREcRELICT HOUSE BUILDING",
   "cSCENDING NODEdERET CAPITAL LETTER AYxBEExCHEExDEExEFyLyMyNzGyRySzHyTHyWxGAYxHxJEExKAYxLONG A",
   "bdHbcEbcIbcObdOxOIyWxPEExSHORT AbeHbdEbdIbdObeOxTEEyHEExVEExWUxYEExZEEyHEEiSMALL LETTER AY",
   "vBEEvCHEEvDEEvEFwLwMwNxGwRwSxHwTHwWvGAYvHvJEEvKAYvLONG AbbHbaEbaIbaObbOvOIwWvPEEvSHORT AbcH",
   "bbEbbIbbObcOvTEEwHEEvVEEvWUvYEEvZEEwHEEfTg ISLANDdKTOP COMPUTERiWINDOW",
   "cVANAGARI ABBREVIATION SIGNmCUTE ACCENTlCARETlDANDAmIGIT EIGHTrFIVEsOURrNINErONErSEVENsIX",
   "rTHREEsWOrZEROmOUBLE DANDAlGAP FILLERmRAVE ACCENTlHEADSTROKElJAIN OMlLETTER AtAtItUtWtYsBAtBA",
   "tHAsCAuNDRA AzEzOtHAsDAtDAuDAvHAuHAtHAsEsFAsGAtGAtHAuHAtLOTTAL STOPsHAtEAVY YAsItIsJAtHAtJA",
   "sKAtHAuHAsLAtLAuLAsMAuRWARI DDAsNAtGAtNAuNAtYAsOtEtOEsPAtHAsQAsRAtHAtRAsSAtHAuORT AyEyOtSAsTA",
   "tHAtTAuHAsUtEtUuEsVAtOCALIC LbbLbaRbbRsYAtYAsZAtHAlOMlSIGN ANUSVARArVAGRAHAqCANDRABINDU",
   "bb AVAGRAHAbcTHREEbdWObcVIRAMAqDOUBLE CANDRABINDU VIRAMAqHIGH SPACING DOT",
   "qINVERTED CANDRABINDUqNUKTAqPUSHPIKAqSIDDHAMrPACING CANDRABINDUqVIRAMAsSARGA",
   "mTRESS SIGN ANUDATTAxUDATTAlVOWEL SIGN AAxIxUxWxYwCANDRA EbdLONG EbdOwEwIxIwOxExOE",
   "wPRISHTHAMATRA EwSHORT EbcOwUxExUyEwVOCALIC LbfLbeRbfRdICE CONTROL FOURpONEpSTRINGpTHREEqWO",
   "bIAERESISdMETER SIGNeOND OPERATORiSHAPE WITH A DOT INSIDEiTARGETiWITH BOTTOM HALF BLACK",
   "nLEFT HALF BLACKnRIGHT HALF BLACKnTOP HALF BLACKcE FACE-1j2j3j4j5j6dSEL LOCOMOTIVE",
   "cFFERENCE BETWEENcGIT EIGHTl COMMAmFULL STOPgFIVEk COMMAlFULL STOPhOURk COMMAlFULL STOPgNINE",
   "k COMMAlFULL STOPgONEj COMMAkFULL STOPgSEVENl COMMAmFULL STOPhIXj COMMAkFULL STOPgTHREE",
   "l COMMAmFULL STOPhWOj COMMAkFULL STOPgZEROk COMMAlFULL STOPdRAM FOR EARTHqLY HEAVENuUMAN",
   "lGREATER YANGuINlHEAVENLY EARTHmUMAN EARTHlLESSER YANGtINcMENSION ORIGIN",
   "cNGBAT CIRCLED SANS-SERIF DIGIT EIGHTbhFIVEbiOURbhNINEbhONEbhSEVENbiIXbhTHREEbiWObhZERO",
   "bbNUMBER TENiNEGATIVE CIRCLED DIGIT EIGHTbfFIVEbgOURbfNINEbfONEbfSEVENbgIXbfTHREEbgWO",
   "zNUMBER TENzSANS-SERIF DIGIT EIGHTbqFIVEbrOURbqNINEbqONEbqSEVENbrIXbqTHREEbrWObqZERO",
   "bkNUMBER TENcRECT CURRENT SYMBOL FORM TWOhHITcSABLED CARePPOINTED BUT RELIEVED FACEnFACE",
   "dCONTINUOUS UNDERLINE SYMBOLdGUISED FACEcTTO MARKcVES AKURU DIGIT EIGHTsFIVEtOURsNINEsONE",
   "sSEVENtIXsTHREEtWOsZEROnOUBLE DANDAmEND OF TEXT MARKmGAP FILLERmINITIAL RAmLETTER AuAtBAuHA",
   "tCAuHAtDAuDAvHAuHAtEtGAuHAtHAtIuItJAtKAuHAtLAuLAtMAtNAuGAuNAuYAtOtPAuHAtRAtSAuHAuSAtTAuHAuTA",
   "tUuUtVAtYAuYAtZAmMEDIAL RAtYAmPREFIXED NASAL SIGNmSIGN ANUSVARArCANDRABINDUrHALANTArNUKTA",
   "mVIRAMAnOWEL SIGN AAyIxExIyIxOxUyUdIDESeNG MASKeSION SIGNkLASHjTIMESdORCE SYMBOLcYA LAMP",
   "cZZY FACEgSYMBOLbLEbNA DOUBLE HELIXbO NOT LITTER SYMBOLcCUMENTi WITH PICTUREoTEXT",
   "s AND PICTUREcDOcES NOT CONTAIN AS MEMBERuNORMAL SUBGROUPbj OR EQUALjDIVIDE",
   "p WITH REVERSED NEGATION SLASHjFORCEjPRECEDEq OR EQUALlOVEjSUCCEEDq OR EQUALcGd FACE",
   "dRA ABBREVIATION SIGNgLETTER AoAoIoUnBAoHAnCAoHAnDAoDApHAoHAnEnGAoHAnHAnIoInJAoHAnKAoHAnLAnMA",
   "nNAoGAoNAoYAnOnPAoHAnRAoRAnSAoHAoSAnTAoHAoTApHAnUoUnVAnYAgSIGN ANUSVARAlNUKTAlVIRAMAnSARGA",
   "gVOWEL SIGN AAsIsUrErIsIrOrUsUrVOCALIC RbaRcLLAR SIGNdPHINcMINO TILE HORIZONTAL BACKw-00-00",
   "bb1bb2bb3bb4bb5bb6y1-00bb1bb2bb3bb4bb5bb6y2-00bb1bb2bb3bb4bb5bb6y3-00bb1bb2bb3bb4bb5bb6y4-00",
   "bb1bb2bb3bb4bb5bb6y5-00bb1bb2bb3bb4bb5bb6y6-00bb1bb2bb3bb4bb5bb6mVERTICAL BACKu-00-00z1z2z3z4",
   "z5z6w1-00z1z2z3z4z5z6w2-00z1z2z3z4z5z6w3-00z1z2z3z4z5z6w4-00z1z2z3z4z5z6w5-00z1z2z3z4z5z6",
   "w6-00z1z2z3z4z5z6cNG SIGNcORcT ABOVEeMINUSeOPERATORePLUSdTED CIRCLEiROSShFENCEhLINE FACE",
   "hOBELOShRIGHT-POINTING ANGLEhSOLIDUSiQUAREhTRANSPOSITION MARKERcUBLE ACUTE ACCENT",
   "hCIRCLED DIGIT EIGHTvFIVEwOURvNINEvONEvSEVENwIXvTHREEwWOpNUMBER TENiOLON EQUALiURLY LOOP",
   "hDAGGERiOWN TACKhEXCLAMATION MARKhHIGH-REVERSED-9 QUOTATION MARKiYPHENhINTEGRALlRSECTION",
   "hLEFT ARC GREATER-THAN BRACKETiOGICAL ANDpORjW LINEk-9 QUOTATION MARK",
   "lREVERSED-9 QUOTATION MARKhNESTED GREATER-THANoLESS-THANx WITH UNDERBARhOBLIQUE HYPHENhPLUS",
   "iRECEDESjIMEm QUOTATION MARKhQUESTION MARKhRIGHT ARC LESS-THAN BRACKEThSOLIDUS OPERATOR",
   "iQUARE INTERSECTIONoUNIONiTACKED COMMAjROKE NOT SIGNiUBSETjCCEEDSjPERSETjSPENSION MARKhUNION",
   "iP TACKhVERTICAL BARt DOUBLE LEFT TURNSTILEbbRIGHT TURNSTILEuLEFT TURNSTILEqLINE",
   "hWAVY OVERLINEg-ENDED MULTIMAPhLINE EQUAL TO OR GREATER-THANyLESS-THAN",
   "mSLANTED EQUAL TO OR GREATER-THANbgLESS-THANuGREATER-THAN OR EQUAL TOuLESS-THAN OR EQUAL TO",
   "hSTRUCK CAPITAL CwGAMMAwHwNwPxIwQwRwZoITALIC CAPITAL DvSMALL DbbEbbIbbJoN-ARY SUMMATION",
   "oSMALL GAMMAuPIgD FEMALE SIGNiMALE SIGNiSYMBOLdGHNUTcVE OF PEACEcWN ARROWHEADfFISH TAIL",
   "fRIGHT DIAGONAL ELLIPSISfTACKj WITH CIRCLE BELOWe-POINTING RED TRIANGLEoSMALL RED TRIANGLE",
   "oTRIANGLE WITH LEFT HALF BLACKbcRIGHT HALF BLACKeWARD FACING HOOKu WITH DOTqNOTCHED HOOK",
   "bc WITH DOTiS ANCORAlRROWp AND RIGHT ONE EIGHTH BLOCKqFROM BARqLEFTWARDS OF UPWARDS ARROW",
   "qTO BARqWITH CORNER LEFTWARDSvDOUBLE STROKEvEQUILATERAL ARROWHEADvHORIZONTAL STROKE",
   "vLARGE TRIANGLE ARROWHEADvMEDIUM TRIANGLE ARROWHEADvNOTCHED TAILvSMALL EQUILATERAL ARROWHEAD",
   "bbTRIANGLE ARROWHEADvTIP LEFTWARDSzRIGHTWARDSkBLACK ARROWqCIRCLED WHITE ARROW",
   "kCOMPRESSED ARROWkDASHED ARROWlOUBLE ARROWkFINGER-POST ARROW",
   "kHARPOON WITH BARB LEFT BESIDE DOWNWARDS HARPOON WITH BARB RIGHT",
   "boUPWARDS HARPOON WITH BARB RIGHTbhFROM BARbhTO BARbgWARDSbcRIGHT FROM BARbiTO BARbhWARDS",
   "lEAVY ARROWqCOMPRESSED ARROWkPAIRED ARROWSkQUADRUPLE ARROWkROCKETkSANS-SERIF ARROW",
   "lQUARED ARROWkTRIANGLE ARROWHEADs-HEADED ARROWbf LEFTWARDS OF UPWARDS TRIANGLE-HEADED ARROW",
   "bgTO BARbgWITH BOLD SHAFTblDOUBLE HORIZONTAL STROKEblHEAVY SHAFTblLONG TIP LEFTWARDS",
   "buRIGHTWARDSblMEDIUM SHAFTblNARROW SHAFTblVERY HEAVY SHAFTbaDASHED ARROWbaPAIRED ARROWS",
   "baZIGZAG ARROWnPLE ARROWlWO HEADED ARROWn-HEADED ARROW WITH TRIANGLE ARROWHEADSkWHITE ARROW",
   "v WITHIN TRIANGLE ARROWHEADkZIGZAG ARROWbRACHMA SIGNdFTING POINT RIGHTWARDS ARROWdGONg FACE",
   "cESScIVE SLOW SIGNcOMEDARY CAMELdOLING FACEdP OF BLOODeLETcUM WITH DRUMSTICKSbUCKcMPLING",
   "cPLOYAN AFFIX ATTACHED E HOOKyI HOOKyLEFT-TO-RIGHT SECANTySECANTyTAILbaNGENTbf HOOK",
   "pHIGH ACUTEuCIRCLEuDOTuGRAVEuLINEvONG GRAVEuTIGHT ACUTEuVERTICALbc SECANTuWAVE",
   "pLEFT HORIZONTAL SECANTqOW ACUTEuRROWtCIRCLEtDOTtGRAVEtLINEuONG GRAVEtTIGHT ACUTEtVERTICAL",
   "bb SECANTtWAVEpMID HORIZONTAL SECANTtVERTICAL SECANTpRIGHT HORIZONTAL SECANTjDOUBLE MARK",
   "jLETTER ArOUqBqDr SrHqErErUqFr NqGr R SqHrLqIrEqJr Mt SsNt SsSt WITH DOTsWITH DOT",
   "baS INSIDE AND ABOVEqKr MsR SrKqLrHrONG IvUqMr Nt SsSsWITH DOTqNr Mt SsSsWITH DOTrASAL AwIwO",
   "wUqOrArOHrUrWqPr NrERNIN AMyNqRr SrHrOMANIAN IzUqSr Jt SsKt RsMsNsPt RsSsTt RsWITH DOT",
   "ba BELOWrHORT IrLOAN ANwDHwEExHxNwJwONxWwUqTr R SsSrHqUr NrHrIqVrOCALIC MqWr RrArEIrHrIrOsWqX",
   "rWqYEjPUNCTUATION CHINOOK FULL STOPjSIGN O WITH CROSSjTHICK LETTER SELECTORbVDaE-MAIL SYMBOL",
   "bAGLEcRd OF MAIZEhRICEeWITH HEARING AIDdTHf GLOBE AMERICASnSIA-AUSTRALIAmEUROPE-AFRICAhROUND",
   "cST SYRIAC CROSSbDITORIAL CORONISbGGcYPTIAN HIEROGLYPH A001x2x3x4x5yAx6yAyBx7x8x9w10x1x2x3x4",
   "yAx5x6x7yAx8x9w20x1x2x3x4x5x6x7x8x9w30x1x2yAx3x4x5x6x7x8x9w40yAx1x2yAx3yAx4x5yAx6x7x8x9w50x1",
   "x2x3x4x5x6x7x8x9w60x1x2x3x4x5x6x7x8x9w70vA001y2y3y4y5y6y7zAzBy8y9x10y1y2y3y4y5y6y7y8y9x20y1y2",
   "y3y4y5y6y7y8y9x30y1y2uB001x2x3x4x5yAx6x7x8x9vEGIN SEGMENTuC001x2yAyByCx3x4x5x6x7x8x9w10yAx1x2",
   "x3x4x5x6x7x8x9w20x1x2x3x4uD001x2x3x4x5x6x7x8yAx9w10x1x2x3x4x5x6x7x8x9w20x1x2x3x4x5x6x7yAx8x9",
   "w30x1yAx2x3x4yAx5x6x7x8x9w40x1x2x3x4x5x6yAx7x8yAx9w50yAyByCyDyEyFyGyHyIx1x2yAx3x4yAx5x6x7x8x9",
   "w60x1x2x3x4x5x6x7yAyByCyDyEyFyGyHuE001x2x3x4x5x6x7x8yAx9yAw10x1x2x3x4x5x6yAx7yAx8x9w20yAx1x2",
   "x3x4x5x6x7x8yAx9w30x1x2x3x4yAx6x7x8vND SEGMENTuF001yAx2x3x4x5x6x7x8x9w10x1x2x3yAx4x5x6x7x8x9",
   "w20x1yAx2x3x4x5x6x7x8x9w30x1yAx2x3x4x5x6x7yAx8yAx9w40x1x2x3x4x5yAx6yAx7yAx8x9w50x1yAyByCx2x3",
   "uG001x2x3x4x5x6yAx7yAyBx8x9w10x1yAx2x3x4x5x6x7x8x9w20yAx1x2x3x4x5x6yAx7x8x9w30x1x2x3x4x5x6yA",
   "x7yAx8x9w40x1x2x3yAx4x5yAx6x7x8x9w50x1x2x3x4uH001x2x3x4x5x6yAx7x8vORIZONTAL JOINERuI001x2x3x4",
   "x5yAx6x7x8x9yAw10yAx1yAx2x3x4x5vNSERT AT BOTTOM ENDblSTARTbeTOP ENDbiSTARTuK001x2x3x4x5x6x7x8",
   "uL001x2yAx3x4x5x6yAx7x8uM001yAyBx2x3yAx4x5x6x7x8x9w10yAx1x2yAyByCyDyEyFyGyHx3x4x5yAx6yAx7yAx8",
   "x9w20x1x2yAx3x4yAx5x6x7x8yAx9w30x1yAx2x3yAyBx4x5x6x7x8x9w40yAx1x2x3x4uN001x2x3x4x5x6x7x8x9w10",
   "x1x2x3x4x5x6x7x8yAyBx9w20x1x2x3x4x5yAx6x7x8x9w30x1x2x3yAx4yAx5yAx6x7yAx8x9w40x1x2vL001y2y3y4",
   "y5zAy6y7y8y9x10y1y2y3y4y5y6y7zAy8y9x20vU001y2y3y4y5y6y7y8y9x10zAy1zAy2y3y4y5y6y7y8zAy9x20y1y2",
   "zAuO001yAx2x3x4x5yAx6yAyByCyDyEyFx7x8x9w10yAyByCx1x2x3x4x5x6x7x8x9yAw20yAx1x2x3x4yAx5yAx6x7x8",
   "x9yAw30yAx1x2x3yAx4x5x6yAyByCyDx7x8x9w40x1x2x3x4x5x6x7x8x9w50yAyBx1vVERLAY MIDDLEuP001yAx2x3",
   "yAx4x5x6x7x8x9w10x1uQ001x2x3x4x5x6x7uR001x2yAx3yAyBx4x5x6x7x8x9w10yAx1x2x3x4x5x6yAx7x8x9w20x1",
   "x2x3x4x5x6x7x8x9uS001x2yAx3x4x5x6yAx7x8x9w10x1x2x3x4yAyBx5x6x7yAx8x9w20x1x2x3x4x5x6yAyBx7x8x9",
   "w30x1x2x3x4x5yAx6x7x8x9w40x1x2x3x4x5x6uT001x2x3yAx4x5x6x7yAx8yAx9yAw10x1yAx2x3x4x5x6yAx7x8x9",
   "w20x1x2x3x4x5x6x7x8x9w30x1x2yAx3yAx4x5x6uU001x2x3x4x5x6yAyBx7x8x9w10x1x2x3x4x5x6x7x8x9w20x1x2",
   "x3yAx4x5x6x7x8x9yAw30x1x2yAx3x4x5x6x7x8x9w40x1x2uV001yAyByCyDyEyFyGyHyIx2yAx3x4x5x6x7yAyBx8x9",
   "w10x1yAyByCx2yAyBx3x4x5x6x7x8x9w20yAyByCyDyEyFyGyHyIyJyKyLx1x2x3yAx4x5x6x7x8yAx9yAw30yAx1yAx2",
   "x3yAx4x5x6x7yAx8x9w40yAvERTICAL JOINERuW001x2x3yAx4x5x6x7x8x9yAw10yAx1x2x3x4yAx5x6x7yAx8yAx9",
   "w20x1x2x3x4yAx5uX001x2x3x4yAyBx5x6yAx7x8yAuY001yAx2x3x4x5x6x7x8uZ001x2yAyByCyDx3yAyBx4yAx5yA",
   "x6x7x8x9w10x1x2x3x4x5yAyByCyDyEyFyGyHyIx6yAyByCyDyEyFyGyH",
   "bIGHT PETALLED OUTLINED BLACK FLORETTEhOINTED BLACK STARoPINWHEEL STARoRECTILINEAR BLACK STAR",
   "gSPOKED ASTERISKgTEARDROP-SPOKED PROPELLER ASTERISKfH NOTEbJECT SYMBOLbLBASAN LETTER ApBEpCE",
   "qHEpDEqHEpEqIpFEpGEqHAMMArEqJEpHEpIpJEpKEqHEpLEqLEpMEpNAqDEqEqJEpOpPEpQEpREqREpSEqHEpTEqHEpU",
   "pVEpXEpYpZEqHEcECTRIC ARROWjLIGHT BULBjPLUGjTORCHiAL INTERSECTIONdMENT OFk OPENING DOWNWARDS",
   "tUPWARDSlWITH DOT ABOVEqLONG HORIZONTAL STROKEqOVERBARqTWO HORIZONTAL STROKESqUNDERBAR",
   "qVERTICAL BAR AT END OF HORIZONTAL STROKEdPHANTdVATORcFcYMAIC LETTER ALEPHqYINpBETHpDALETH",
   "pGIMELpHErTHpKAPHpLAMEDHpMEMpNUNpPEpQOPHpRESHpSADHErMEKHqHINpTAWqETHpWAWpYODHpZAYIN",
   "jIGATURE ZAYIN-YODHbM DASHdQUADdSPACEcOJI COMPONENT BALDqCURLY HAIRqRED HAIRqWHITE HAIR",
   "gMODIFIER FITZPATRICK TYPE-1-2bg3bg4bg5bg6cPHASIS SYMBOLdTY DOCUMENTgNESThOTEk PADnGEgPAGEkS",
   "gSETj WITH LEFT ARROW ABOVEpOVERBARpRIGHT ARROW ABOVEpSMALL CIRCLE ABOVEbN DASHdQUADdSPACE",
   "cD OF GUARDED AREAhLINEhMEDIUMhPROOFkTECTED AREAhSELECTED AREAhTEXTiRANSMISSIONt BLOCK",
   "eWITH LEFTWARDS ARROW ABOVEcQdUIRYcTER SYMBOLcVELOPEi WITH DOWNWARDS ARROW ABOVEoLIGHTNINGbOL",
   "cMcTbPAbQUAL AND PARALLEL TOgTO BY DEFINITIONjOR GREATER-THANmLESS-THANmPRECEDESmSUCCEEDS",
   "fS COLONhSIGNl ABOVE LEFTWARDS ARROWsPLUS SIGNsRIGHTWARDS ARROWsTILDE OPERATOR",
   "nND SLANTED PARALLELbg WITH TILDE ABOVEmWITH BUMPY ABOVErDOT BELOWrINFINITY BELOW",
   "rTWO DOTS ABOVE AND TWO DOTS BELOWhWITH ASTERISKdIANGULAR TOeVALENT TOlWITH FOUR DOTS ABOVE",
   "bRASE TO THE LEFTnRIGHTcIS FORM ONEkTWOcROR-BARRED BLACK CIRCLEtDIAMONDtSQUAREnWHITE CIRCLE",
   "tDIAMONDtSQUAREbSAcCdAPEcTIMATED SYMBOLiSbTBcHIOPIC COLON",
   "lMBINING GEMINATION AND VOWEL LENGTH MARKbeMARKtVOWEL LENGTH MARKmMAjDIGIT EIGHTpFIVEqOUR",
   "pNINEpONEpSEVENqIXpTHREEqWOjFULL STOPjNUMBER EIGHTYqFIFTYrORTYqHUNDREDqNINETYqSEVENTYrIXTY",
   "qTENt THOUSANDrHIRTYrWENTYjPARAGRAPH SEPARATORkREFACE COLONjQUESTION MARKjSECTION MARK",
   "lMICOLONkYLLABLE BAuAtBAvAuEvEuIuOuUtEuEtItOuAtUtWAuEvEuIsCAuAtCAvAuEvEuHAwAvEwEvHAxAwExEwIwO",
   "wUvIvOvUuIuOuUtEuEtHAvAuEvEuIuOvAuUuWAtItOuAtUtWAsDAuAtDAvAuEvEuHAAvEwEvIvOvUuIuOvAuUuWAtEuE",
   "tItOuAtUtWAtZAAuEvEuIuOuUsFAuAtEuEtItOtUtWAuEvEuItYAsGAuAtEuEtGAvAuEvEuIuOuUuWAwAvEwEvItI",
   "tLOTTAL AbbAbaEbbEbaIbaObbAbaUbaWAtOuAtUuRAGE BWEEbbIzFWEEbbIzGWEbcEbbIzHHWAzKWEbcEbbIzMWEE",
   "bbIzPWEEbbIzQWEbcEbbItWAvAuEvEuItYAvAuEvEuIuOuUsHAuAtEuEtHAvAuEvEuIuOuUuWAvEwEvIuYAwAvEwEvIvO",
   "vUtItOuAtUsJAuAtEuEtItOuAtUtWAsKAuAtEuEtItOuAtUtWAvAuEvEuItXAvAuEvEuIuOuUuWAwAvEwEvItYAvAuEvE",
   "uIuOuUsLAuAtEuEtItOuAtUtWAsMAuAtEuEtItOuAtUtWAuEvEuItYAsNAuAtEuEtItOuAtUtWAtYAvAuEvEuIuOvAuU",
   "uWAsPAuAtEuEtHAvAvRYNGEAL AbeAbdEbeEbdIbdObdUuEvEuIuOvAuUuWAtItOuAtUtWAuEvEuIsQAuAtEuEtHAvAuE",
   "vEuIuOuUuWAwAvEwEvItItOuAtUtWAvAuEvEuItYAvAuEvEuIuOuUsRAuAtEuEtItOuAtUtWAtYAsSAuAtE",
   "uBATBEIT BWAbcFWAbcMWAbcPWAuEtHAvAuEvEuIuOvAuUuWAtItOuAtSAvAuEvEuIuOuUtUtWAtZAvAuEvEuIuOuUuWA",
   "sTAuAtEuEtHAvAuEvEuIuOvAuUuWAtItOuAtSAvAuEvEuIuOuUuWAtTHAAvEwEvIvOvUtUtWAtZAvAuEvEuIuOvAuUsVA",
   "uAtEuEtItOtUtWAsWAuAtEuEtItOuAtUsXAuAtEuEtItOuAtUtWAvAuEvEuItYAvAuEvEuIuOuUsYAuAtEuEtItOuAtU",
   "sZAuAtEuEtHAvAuEvEuIuOuUuWAtItOuAtUtWAtZAvAuEvEuIuOuUjTONAL MARK CHIRETuDERETz-HIDETvIFAT",
   "uHIDETuKENATvURTuRIKRIKuSHORT RIKRIKuYIZETjWORDSPACEcXbULER CONSTANTcRO SIGNe-CURRENCY SIGN",
   "ePEAN CASTLEjPOST OFFICEbVERGREEN TREEbXCESSdLAMATION MARKmQUESTION MARKcPRESSIONLESS FACE",
   "cTENDED ARABIC-INDIC DIGIT EIGHTbcFIVEbdOURbcNINEbcONEbcSEVENbdIXbcTHREEbdWObcZERO",
   "dRATERRESTRIAL ALIENeEMELY HEAVY FIVE SPOKED ASTERISKqGREEK CROSSqSALTIRErIX SPOKED ASTERISK",
   "qWHITE CIRCLEwSQUAREbYEdGLASSESdSaFACE HOLDING BACK TEARSfMASSAGEfPALM",
   "fSAVOURING DELICIOUS FOODgCREAMING IN FEARfTHROWING A KISSfWITH COLD SWEATmWBOY HAT",
   "kDIAGONAL MOUTHkFINGER COVERING CLOSED LIPSkHEAD-BANDAGEkLOOK OF TRIUMPHkMEDICAL MASKlONOCLE",
   "kNO GOOD GESTUREkOK GESTURElNE EYEBROW RAISEDlPEN EYES AND HAND OVER MOUTHpMOUTH",
   "u AND COLD SWEATvVOMITINGkPARTY HORN AND PARTY HATlEEKING EYElLEADING EYESkROLLING EYES",
   "kSTUCK-OUT TONGUEba AND TIGHTLY-CLOSED EYESbfWINKING EYEkTEARS OF JOYlHERMOMETER",
   "kUNEVEN EYES AND WAVY MOUTHjOUT MOUTHdSIMILE SIGNdTORYcIRYcLAFELdLEN LEAF",
   "eING DIAGONAL CROSSING NORTH EAST ARROWbaRISING DIAGONALrIN WHITE CIRCLE IN BLACK SQUAREcMILY",
   "cRSI SYMBOLcTHER CHRISTMAScX ICONeMACHINEbEARFUL FACEdTHERcMALE SIGNdININE ORDINAL INDICATOR",
   "cNCERcRRIS WHEELeYbFbIELD HOCKEY STICK AND BALLcGURE DASHhSPACEcLE CABINETfFOLDERfSEPARATOR",
   "dM FRAMESfPROJECTORcNITE PART INTEGRALcREe ENGINEgXTINGUISHEReCRACKEReWORK SPARKLERiS",
   "dST PLACE MEDALgQUARTER MOONs SYMBOLtWITH FACEgSTRONG ISOLATEcSHe CAKE WITH SWIRL DESIGNeEYE",
   "eING POLE AND FISHdTED HAND SIGNcVE DOT MARKjPUNCTUATIONbLAG IN HOLEdMINGOdT SHOEeBREADeNESS",
   "cEUR-DE-LISdXED BICEPScOPPY DISKdRAL HEARTdWERg PLAYING CARDSiUNCTUATION MARKcUSHED FACEcY",
   "dING DISChENVELOPEhSAUCERbOGdGYcLDERcNDUEcOTePRINTScR ALLdCESdK AND KNIFEo WITH PLATE",
   "eED PARAGRAPHOSeINGdM FEEDdTUNE COOKIEcUNTAINdR BALLOON-SPOKED ASTERISKfCLUB-SPOKED ASTERISK",
   "gORNER ARROWS CIRCLING ANTICLOCKWISEfDOT MARKjPUNCTUATIONfLEAF CLOVERfPOINTED BLACK STAR",
   "fTEARDROP-SPOKED ASTERISKe-PER-EM SPACEeTH ROOTcX FACEbRACTION NUMERATOR ONEjSLASH",
   "dME WITH AN XlPICTURElTILEScEEZING FACEdNCH FRANC SIGNjIEScIED SHRIMPcOG FACE",
   "dNT-FACING BABY CHICKgTILTED SHADOWED WHITE RIGHTWARDS ARROWdWNfING FACE WITH OPEN MOUTHbScI",
   "bUEL PUMPcLL BLOCKfMOON SYMBOLkWITH FACEfOUTER JOINfSTOPeWIDTH AMPERSANDlPOSTROPHElSTERISK",
   "kBROKEN BARkCENT SIGNlIRCUMFLEX ACCENTlOLONmMMAoERCIAL ATkDIGIT EIGHTqFIVErOURqNINEqONEqSEVEN",
   "rIXqTHREErWOqZEROlOLLAR SIGNkEQUALS SIGNlXCLAMATION MARKkFULL STOPkGRAVE ACCENT",
   "mEATER-THAN SIGNkHYPHEN-MINUSkLATIN CAPITAL LETTER AbfBbfCbfDbfEbfFbfGbfHbfIbfJbfKbfLbfMbfN",
   "bfObfPbfQbfRbfSbfTbfUbfVbfWbfXbfYbfZqSMALL LETTER AbdBbdCbdDbdEbdFbdGbdHbdIbdJbdKbdLbdMbdNbdO",
   "bdPbdQbdRbdSbdTbdUbdVbdWbdXbdYbdZlEFT CURLY BRACKETpPARENTHESISpSQUARE BRACKET",
   "pWHITE PARENTHESISmSS-THAN SIGNlOW LINEkMACRONkNOT SIGNlUMBER SIGNkPERCENT SIGNlLUS SIGN",
   "lOUND SIGNkQUESTION MARKmOTATION MARKkREVERSE SOLIDUSlIGHT CURLY BRACKETqPARENTHESIS",
   "qSQUARE BRACKETqWHITE PARENTHESISkSEMICOLONlOLIDUSkTILDEkVERTICAL LINEkWON SIGNkYEN SIGN",
   "cNCTION APPLICATIONdERAL URNcSEbVS1d2d3d4aGAME DIEcRLICbEARe WITH HANDLESjOUT HUBcM STONEdINI",
   "cNIEcOMETRIC PROPORTIONjALLY EQUAL TOrIVALENT TOdRGIAN CAPITAL LETTER AENzNyBANyCANzHARbaIN",
   "zILyDONyENyGANzHANyHAEbaRzEzIEzOEyINyJHANzILyKANzHARyLASyMANyNARyONyPARzHARyQARyRAEySANzHIN",
   "yTANbaRyUNyVINyWEyXANyYNyZENzHARjLETTER AENrINrNqBANqCANrHARsINrILqDONqELIFIrNqFIqGANrHANqHAE",
   "sRtD SIGNrErIErOEqINqJHANrILqKANrHARqLABIAL SIGNsSqMANqNARqONqPARrHARqQARqRAEqSANrHINqTANsR",
   "rURNED GANqUNqVINqWEqXANqYNqZENrHARjMTAVRULI CAPITAL LETTER AENbiINbiNbhBANbhCANbiHARbjINbiIL",
   "bhDONbhELIFIbiNbhFIbhGANbiHANbhHAEbjRbkD SIGNbiEbiIEbiOEbhINbhJHANbiILbhKANbiHARbhLABIAL SIGN",
   "bjSbhMANbhNARbhONbhPARbiHARbhQARbhRAEbhSANbiHINbhTANbjRbiURNED GANbhUNbhVINbhWEbhXANbhYNbhZEN",
   "biHARjPARAGRAPH SEPARATORjSMALL LETTER AENxNwBANwCANxHARyINxILwDONwENwGANxHANwHAEyRxExIExOE",
   "wINwJHANxILwKANxHARwLASwMANwNARwONwPARxHARwQARwRAEwSANxHINwTANyRwUNwVINwWEwXANwYNwZENxHAR",
   "cRMAN PENNY SIGNcTA MARKbHOSTbIMEL SYMBOLcRAFFE FACEdLeS SYMBOLbLAGOLITIC CAPITAL LETTER AZU",
   "baBIG YUSbbUKYbaCAUDATE CHRIVIbbHRIVIbaDJERVIbbOBRObbZELObaFITAbbRITUbaGLAGOLIbaHERUbaI",
   "bbNITIAL IZHEbbOTATED BIG YUSbiSMALL YUSbbZHEbdITSAbaKAKObaLATINATE MYSLITEbbJUDIJEbaMYSLITE",
   "baNASHIbaONUbbTUbaPEbbOKOJIbaRITSIbaSHAbcTAbePICbbLOVObbMALL YUSbj WITH TAILbbPIDERY HA",
   "baTROKUTASTI AbbSIbbVRIDObaUKUbaVEDEbaYATIbbERIbdUbcSTUbbObbUbaZEMLJAbbHIVETE",
   "lSMALL LETTER AZUyBIG YUSzUKYyCAUDATE CHRIVIzHRIVIyDJERVIzOBROzZELOyFITAzRITUyGLAGOLIyHERUyI",
   "zNITIAL IZHEzOTATED BIG YUSbgSMALL YUSzZHEbbITSAyKAKOyLATINATE MYSLITEzJUDIJEyMYSLITEyNASHI",
   "yONUzTUyPEzOKOJIyRITSIySHAbaTAbcPICzLOVOzMALL YUSbh WITH TAILzPIDERY HAyTROKUTASTI AzSIzVRIDO",
   "yUKUyVEDEyYATIzERIbbUbaSTUzOzUyZEMLJAzHIVETEdSS OF MILKcEICH STARKcOBE WITH MERIDIANSdVES",
   "dWING STARbOAL NETdTcGGLEScLFERcRILLAcTHIC LETTER AHSApIHVUSoBAIRKANoDAGSoEISoFAIHUoGIBAoHAGL",
   "pWAIRoIGGWSpUJAoJERoKUSMAoLAGUSoMANNAoNAUTHSpINE HUNDREDsTYoOTHALoPAIRTHRAoQAIRTHRAoRAIDA",
   "oSAUILoTEIWSpHIUTHoURUSoWINJAbRADUATION CAPdNTHA AU LENGTH MARKiLETTER AqAqIqUpBAqHApCAqHApDA",
   "qDArHAqHApEEpGAqHApHApIqIpJAqHApKAqHApLAqLApMApNAqGAqNAqYApOOpPAqHApRApSAqHAqSApTAqHAqTArHApU",
   "qUpVAqEDIC ANUSVARAvDOUBLE ANUSVARAqOCALIC LyLxRyRpYAiOMiSIGN ANUSVARAoVAGRAHAnCANDRABINDU",
   "oOMBINING ANUSVARA ABOVEnNUKTAnPLUTAnVIRAMApSARGAiVOWEL SIGN AAuIuUtEEtIuItOOtUuUtVOCALIC L",
   "bcLbbRbcRdPESdVE ACCENTcEATER-THAN ABOVE DOUBLE-LINE EQUAL ABOVE LESS-THAN",
   "tLESS-THAN ABOVE DOUBLE-LINE EQUALtRIGHTWARDS ARROWtSIMILAR ABOVE LESS-THANbbOR EQUAL",
   "uLANTED EQUAL ABOVE LESS-THAN ABOVE SLANTED EQUALoND NOT APPROXIMATErSINGLE-LINE NOT EQUAL TO",
   "nBESIDE LESS-THANoUT NOT EQUAL TOyIVALENT TOnCLOSED BY CURVEbc ABOVE SLANTED EQUAL",
   "nEQUAL TO OR LESS-THANnOR APPROXIMATEqEQUAL TOtIVALENT TOqLESS-THANqSLANTED EQUAL TO",
   "bg WITH DOT ABOVEbv LEFTbqINSIDEoVER EQUAL TOrLAPPING LESS-THANnSIGNnWITH CIRCLE INSIDEsDOT",
   "sQUESTION MARK ABOVEdEK ACROPHONIC ATTIC FIFTYbc STATERSbdTALENTSbeHOUSANDbl STATERSzVE",
   "bb HUNDREDbj STATERSbkTALENTSbcSTATERSbcTALENTSbdHOUSANDbk TALENTSxONE DRACHMAbbHALF",
   "bcUNDRED STATERSbjTALENTSbbQUARTERbbTHOUSAND STATERSbkTALENTSxTEN MNASbbSTATERSbbTALENTS",
   "bcHOUSAND STATERSrCARYSTIAN FIVE HUNDREDsYRENAIC TWO DRACHMASrDELPHIC FIVE MNAS",
   "rEPIDAUREAN FIVE HUNDREDbcTWObf DRACHMASrHERAEUM ONE PLETHRONuMIONIAN FIFTYbcONEbcTEN",
   "rMESSENIAN TENrNAXIAN FIVE HUNDREDrSTRATIAN FIFTY MNASrTHESPIAN FIFTYbcVE HUNDREDbfTHOUSAND",
   "baONEbd HUNDREDbeTHOUSANDbaTENbbHIRTYbcREE HUNDREDbbWOsROEZENIAN FIFTYbh ALTERNATE FORMbeVE",
   "bg HUNDREDbcTENbf ALTERNATE FORMhNO TELEIAhROURA SIGNiTABE SIGNgBETA SYMBOL",
   "gCAPITAL DOTTED LUNATE SIGMA SYMBOLoKAI SYMBOLoLETTER ALPHAba WITH DASIAbl AND OXIA",
   "bu AND PROSGEGRAMMENIbqPERISPOMENIcb AND PROSGEGRAMMENIbrROSGEGRAMMENIbqVARIA",
   "bv AND PROSGEGRAMMENIbgMACRONbgOXIAbgPROSGEGRAMMENIbhSILIbl AND OXIAbu AND PROSGEGRAMMENI",
   "bqPERISPOMENIcb AND PROSGEGRAMMENIbrROSGEGRAMMENIbqVARIAbv AND PROSGEGRAMMENIbgTONOSbgVARIA",
   "bhRACHYwRCHAIC SAMPIvBETAvCHIvDELTAvEPSILONbc WITH DASIAbn AND OXIAbsVARIAbiOXIAbiPSILI",
   "bn AND OXIAbsVARIAbiTONOSbiVARIAwTAy WITH DASIAbj AND OXIAbs AND PROSGEGRAMMENIboPERISPOMENI",
   "bz AND PROSGEGRAMMENIbpROSGEGRAMMENIboVARIAbt AND PROSGEGRAMMENIbeOXIAbePROSGEGRAMMENIbfSILI",
   "bj AND OXIAbs AND PROSGEGRAMMENIboPERISPOMENIbz AND PROSGEGRAMMENIbpROSGEGRAMMENIboVARIA",
   "bt AND PROSGEGRAMMENIbeTONOSbeVARIAvGAMMAvHETAvIOTAz WITH DASIAbk AND OXIAbpPERISPOMENI",
   "bpVARIAbgIALYTIKAbfMACRONbfOXIAbfPSILIbk AND OXIAbpPERISPOMENIbpVARIAbfTONOSbfVARIAbgRACHY",
   "vKAPPAvLAMDAvMUvNUvOMEGAba WITH DASIAbl AND OXIAbu AND PROSGEGRAMMENIbqPERISPOMENI",
   "cb AND PROSGEGRAMMENIbrROSGEGRAMMENIbqVARIAbv AND PROSGEGRAMMENIbgOXIAbgPROSGEGRAMMENIbhSILI",
   "bl AND OXIAbu AND PROSGEGRAMMENIbqPERISPOMENIcb AND PROSGEGRAMMENIbrROSGEGRAMMENIbqVARIA",
   "bv AND PROSGEGRAMMENIbgTONOSbgVARIAxICRONbc WITH DASIAbn AND OXIAbsVARIAbiOXIAbiPSILI",
   "bn AND OXIAbsVARIAbiTONOSbiVARIAvPAMPHYLIAN DIGAMMAwHIwIwSIvRHOy WITH DASIAvSANwHOwIGMAvTAU",
   "wHETAvUPSILONbc WITH DASIAbn AND OXIAbsPERISPOMENIbsVARIAbjIALYTIKAbiMACRONbiOXIAbiTONOS",
   "biVARIAbjRACHYvXIvYOTvZETApUNATE SIGMA SYMBOLoREVERSED DOTTED LUNATE SIGMA SYMBOL",
   "xLUNATE SIGMA SYMBOLoTHETA SYMBOLgDASIAl AND OXIAqPERISPOMENIqVARIAhIALYTIKA AND OXIA",
   "uPERISPOMENIuVARIAqTONOShRACHMA SIGNgFIVE OBOLS SIGNhOUR OBOLS SIGNgGRAMMA SIGN",
   "gINDICTION SIGNiSTRUMENTAL NOTATION SYMBOL-1bk1bk2bk3bk4bk7bk8bk9bj2bk3bk4bk5bk6bk7bk9bj30bk2",
   "bk6bk7bk8bk9bj4bk0bk2bk3bk5bk7bk8bk9bj5bk0bk1bk2bk3bk4bj7bj8gKAI SYMBOLiPPA SYMBOLhORONIS",
   "hYATHOS BASE SIGNgLETTER ARCHAIC KOPPAnDIGAMMAnKOPPAnSAMPIoMALL CAPITAL GAMMAbbLAMDAbbOMEGA",
   "bbPIbcSIbbRHOoTIGMAnYOThITRA SIGNhOWER NUMERAL SIGNhUNATE EPSILON SYMBOLnSIGMA SYMBOL",
   "gMETRETES SIGNhUSICAL LEIMMAgNUMERAL SIGNgOBOL SIGNhNE HALF SIGNt ALTERNATE FORMkQUARTER SIGN",
   "hUNKIA SIGNhXIAgPERISPOMENIhHI SYMBOLhI SYMBOLhROSGEGRAMMENIhSILIl AND OXIAqPERISPOMENIqVARIA",
   "gQUESTION MARKgREVERSED LUNATE EPSILON SYMBOLhHO SYMBOLkWITH STROKE SYMBOLgSINUSOID SIGN",
   "hMALL DOTTED LUNATE SIGMA SYMBOLmLETTER ALPHAy WITH DASIAbj AND OXIAbs AND YPOGEGRAMMENI",
   "boPERISPOMENIbz AND YPOGEGRAMMENIboVARIAbt AND YPOGEGRAMMENIboYPOGEGRAMMENIbeMACRONbeOXIA",
   "bi AND YPOGEGRAMMENIbePERISPOMENIbp AND YPOGEGRAMMENIbfSILIbj AND OXIAbs AND YPOGEGRAMMENI",
   "boPERISPOMENIbz AND YPOGEGRAMMENIboVARIAbt AND YPOGEGRAMMENIboYPOGEGRAMMENIbeTONOSbeVARIA",
   "bj AND YPOGEGRAMMENIbfRACHYbeYPOGEGRAMMENIuRCHAIC KOPPAbbSAMPItBETAtCHItDELTAuIGAMMAtEPSILON",
   "ba WITH DASIAbl AND OXIAbqVARIAbgOXIAbgPSILIbl AND OXIAbqVARIAbgTONOSbgVARIAuTAw WITH DASIA",
   "bh AND OXIAbq AND YPOGEGRAMMENIbmPERISPOMENIbx AND YPOGEGRAMMENIbmVARIAbr AND YPOGEGRAMMENI",
   "bmYPOGEGRAMMENIbcOXIAbg AND YPOGEGRAMMENIbcPERISPOMENIbn AND YPOGEGRAMMENIbdSILIbh AND OXIA",
   "bq AND YPOGEGRAMMENIbmPERISPOMENIbx AND YPOGEGRAMMENIbmVARIAbr AND YPOGEGRAMMENI",
   "bmYPOGEGRAMMENIbcTONOSbcVARIAbh AND YPOGEGRAMMENIbcYPOGEGRAMMENItFINAL SIGMAtGAMMAtHETAtIOTA",
   "x WITH DASIAbi AND OXIAbnPERISPOMENIbnVARIAbeIALYTIKAbm AND OXIAbrPERISPOMENIbrTONOSbrVARIA",
   "bdMACRONbdOXIAbdPERISPOMENIbeSILIbi AND OXIAbnPERISPOMENIbnVARIAbdTONOSbdVARIAbeRACHYtKAPPA",
   "uOPPAtLAMDAtMUtNUtOMEGAy WITH DASIAbj AND OXIAbs AND YPOGEGRAMMENIboPERISPOMENI",
   "bz AND YPOGEGRAMMENIboVARIAbt AND YPOGEGRAMMENIboYPOGEGRAMMENIbeOXIAbi AND YPOGEGRAMMENI",
   "bePERISPOMENIbp AND YPOGEGRAMMENIbfSILIbj AND OXIAbs AND YPOGEGRAMMENIboPERISPOMENI",
   "bz AND YPOGEGRAMMENIboVARIAbt AND YPOGEGRAMMENIboYPOGEGRAMMENIbeTONOSbeVARIA",
   "bj AND YPOGEGRAMMENIbeYPOGEGRAMMENIvICRONba WITH DASIAbl AND OXIAbqVARIAbgOXIAbgPSILI",
   "bl AND OXIAbqVARIAbgTONOSbgVARIAtPAMPHYLIAN DIGAMMAuHIuIuSItRHOw WITH DASIAbcPSILItSAMPIvNuHO",
   "uIGMAuTIGMAtTAUuHETAtUPSILONba WITH DASIAbl AND OXIAbqPERISPOMENIbqVARIAbhIALYTIKAbp AND OXIA",
   "buPERISPOMENIbuTONOSbuVARIAbgMACRONbgOXIAbgPERISPOMENIbhSILIbl AND OXIAbqPERISPOMENIbqVARIA",
   "bgTONOSbgVARIAbhRACHYtXItZETAmREVERSED DOTTED LUNATE SIGMA SYMBOLvLUNATE SIGMA SYMBOL",
   "hUBSCRIPT SMALL LETTER BETAbdCHIbdGAMMAbdPHIbdRHOhYMBOL TAU RHOgTALENT SIGNhHETA SYMBOL",
   "iREE OBOLS SIGNmQUARTERS SIGNhONOShRYBLION BASE SIGNhWO OBOLS SIGNkTHIRDS SIGN",
   "gUPSILON WITH ACUTE AND HOOK SYMBOLtDIAERESIS AND HOOK SYMBOLtHOOK SYMBOLgVARIA",
   "hOCAL NOTATION SYMBOL-1bd0bd1bd2bd3bd4bd5bd6bd7bd8bd9bc2bd0bd1bd2bd3bd4bc3bc4bc5bd0bd1bd2bd3",
   "bd4bc6bc7bc8bc9gXESTES SIGNgYEAR SIGNhPOGEGRAMMENIgZERO SIGNeN APPLEgBOOKgHEARTgSALAD",
   "cIMACING FACEdNNING CAT FACE WITH SMILING EYESjFACEn WITH ONE LARGE AND ONE SMALL EYE",
   "tSMILING EYESuTAR EYEScOUP MARKgSEPARATORdWING HEARTbSbUARANI SIGNeDSMANcIDE DOGdTAR",
   "cJARATI ABBREVIATION SIGNjDIGIT EIGHTpFIVEqOURpNINEpONEpSEVENqIXpTHREEqWOpZEROjLETTER ArArIrU",
   "qBArHAqCArHAqDArDAsHArHAqEqGArHAqHAqIrIqJArHAqKArHAqLArLAqMAqNArGArNArYAqOqPArHAqRAqSArHArSA",
   "qTArHArTAsHAqUrUqVArOCALIC LzLyRzRqYAqZHAjOMjRUPEE SIGNjSIGN ANUSVARApVAGRAHAoCANDRABINDU",
   "pIRCLE NUKTA ABOVEoMADDAHoNUKTAoSHADDApUKUNoTHREE-DOT NUKTA ABOVEpWO-CIRCLE NUKTA ABOVE",
   "oVIRAMAqSARGAjVOWEL CANDRA EwOpSIGN AAvIvUuCANDRA EbbOuEuIvIuOuUvUuVOCALIC LbdLbcRbdR",
   "cNJALA GONDI DIGIT EIGHTuFIVEvOURuNINEuONEuSEVENvIXuTHREEvWOuZEROoLETTER AwAwIwUvBAwHAvCAwHA",
   "vDAwDAxHAwHAvEEvGAwHAvHAvIwIvJAwHAvKAwHAvLAwLAvMAvNAwGAvOOvPAwHAvRAvSAvTAwHAwTAxHAvUwUvVAvYA",
   "oOMoSIGN ANUSVARAtVISARGAoVIRAMApOWEL SIGN AAbaIbaUzEEzIbaIzOOzUbaUcRMUKHI ABBREVIATION SIGN",
   "kDDAKjDIGIT EIGHTpFIVEqOURpNINEpONEpSEVENqIXpTHREEqWOpZEROjEK ONKARjIRIjLETTER ArArIrUqBArHA",
   "qCArHAqDArDAsHArHAqEEqFAqGArHAsHAqHAqIrIqJArHAqKArHAsHAqLArLAqMAqNArGArNArYAqOOqPArHAqRArRA",
   "qSArHAqTArHArTAsHAqUrUqVAqYAqZAjSIGN ADAK BINDIoBINDIoNUKTAoUDAAToVIRAMAqSARGAoYAKASHjTIPPI",
   "jURAjVOWEL SIGN AAvIvUuEEuIvIuOOuUvUaHADEScIR SPACEeCUTcLFWIDTH BLACK SQUAREkDOWNWARDS ARROW",
   "kFORMS LIGHT VERTICALkHANGUL FILLERrLETTER AzEyCHIEUCHzIEUCyEzOzUyHIEUHyIzEUNGyKHIEUKHzIYEOK",
   "be-SIOSyMIEUMyNIEUNbd-CIEUCbeHIEUHyOzEyPHIEUPHzIEUPbd-SIOSyRIEULbd-HIEUHbeKIYEOKbeMIEUM",
   "bePHIEUPHbfIEUPbeSIOSbeTHIEUTHySIOSzSANGCIEUCbdKIYEOKbdPIEUPbdSIOSbdTIKEUTyTHIEUTHzIKEUTyUyWA",
   "baEzEbaOzIyYAbaEzEbaOzIzOzUkIDEOGRAPHIC COMMAwFULL STOPkKATAKANA LETTER AbaEbaHAbbEbbIbbObbU",
   "baIbaKAbbEbbIbbObbUbaMAbbEbbIbbObbUbaNbbAbbEbbIbbObbUbaObaRAbbEbbIbbObbUbaSAbbEbbIbbMALL AbgE",
   "bgIbgObgTUbgUbgYAbhObhUbbObbUbaTAbbEbbIbbObbUbaUbaWAbbObaYAbbObbUtMIDDLE DOT",
   "tSEMI-VOICED SOUND MARKtVOICED SOUND MARKs-HIRAGANA PROLONGED SOUND MARKkLEFT CORNER BRACKET",
   "oWARDS ARROWkRIGHT CORNER BRACKETpWARDS ARROWkUPWARDS ARROWkWHITE CIRCLEcMBURGERdMER",
   "g AND PICKlSICKLElWRENCHdSAeTER FACEcND WITH INDEX AND MIDDLE FINGERS CROSSED",
   "qFINGER AND THUMB CROSSEDeBAGgLLeSHAKEdGUL CHOSEONG CEONGCHIEUMCHIEUCHbcIEUCbbSIOSbcSANGCIEUC",
   "bgSIOSrHIEUCHx-HIEUHyKHIEUKHtTUEUMCHIEUCHzIEUCySIOSzSANGCIEUCbdSIOSrIEUCv-IEUNGqFILLERqHIEUH",
   "v-SIOSqIEUNGv-CHIEUCHxIEUCwHIEUHwKIYEOKwMIEUMwPANSIOSxHIEUPHxIEUPwRIEULwSIOSwTHIEUTHxIKEUT",
   "qKAPYEOUNMIEUMyPHIEUPHzIEUPyRIEULySSANGPIEUPrHIEUKHrIYEOKw-TIKEUTqMIEUMv-KIYEOKwPIEUPwSIOS",
   "wTIKEUTqNIEUNv-CIEUCwHIEUHwKIYEOKwPIEUPwSIOSwTIKEUTqPANSIOSrHIEUPHx-HIEUHyPIEUPrIEUPv-CHIEUCH",
   "xIEUCwHIEUHwKHIEUKHxIYEOKwNIEUNwPHIEUPHwSIOSba-CIEUCbbKIYEOKbbPIEUPbbTHIEUTHbcIKEUTxSANGSIOS",
   "wTHIEUTHxIKEUTqRIEULv-CIEUCwHIEUHwKAPYEOUNPIEUPxHIEUKHxIYEOKwMIEUMwNIEUNwPIEUPwSIOS",
   "xSANGKIYEOKbbPIEUPbbTIKEUTwTIKEUTqSIOSu-CHIEUCHwIEUCvHIEUHvIEUNGvKHIEUKHwIYEOKvMIEUMvNIEUN",
   "vPHIEUPHwIEUPba-KIYEOKvRIEULvSSANGSIOSvTHIEUTHwIKEUTrSANGCIEUCba-HIEUHvHIEUHvIEUNGvKIYEOK",
   "vNIEUNvPIEUPvRIEULvSIOSz-PIEUPvTHIEUTHwIKEUTvYEORINHIEUHqTHIEUTHrIKEUTw-CIEUCxKIYEOKxMIEUM",
   "xPIEUPxRIEULxSIOSqYEORINHIEUHsSIEUNGhDOUBLE DOT TONE MARKhFILLERhJONGSEONG CHIEUCHsIEUC",
   "w-PIEUPxSSANGPIEUPrHIEUHw-MIEUMxNIEUNxPIEUPxRIEULrIEUNGw-KHIEUKHyIYEOKxSSANGKIYEOK",
   "rKAPYEOUNMIEUMzPHIEUPHbaIEUPzRIEULsHIEUKHsIYEOKx-CHIEUCHyHIEUHyKHIEUKHyNIEUNyPIEUPyRIEULySIOS",
   "bc-KIYEOKrMIEUMw-CHIEUCHyIEUCxHIEUHxKIYEOKxNIEUNxPANSIOSyIEUPbc-SIOSxRIEULxSIOSySANGNIEUN",
   "bcSIOSrNIEUNw-CHIEUCHyIEUCxHIEUHxKIYEOKxPANSIOSxRIEULxSIOSxTHIEUTHyIKEUTrPANSIOS",
   "y-KAPYEOUNPIEUPzPIEUPsHIEUPHy-PIEUPzSIOSzTHIEUTHsIEUPw-CHIEUCHyIEUCxHIEUHxMIEUMxPHIEUPHxRIEUL",
   "bc-PHIEUPHxSIOSbb-TIKEUTxTIKEUTrRIEULw-HIEUHxKAPYEOUNPIEUPyHIEUKHyIYEOKbd-HIEUHbeSIOSxMIEUM",
   "bc-HIEUHbdKIYEOKbdSIOSxNIEUNxPANSIOSyHIEUPHyIEUPbc-HIEUHbdPHIEUPHbdSIOSbdTIKEUTxSIOS",
   "ySANGKIYEOKbcSIOSxTHIEUTHyIKEUTbd-HIEUHxYEORINHIEUHbi-HIEUHzSIEUNGrSIOSv-CHIEUCHxIEUCwHIEUH",
   "wKAPYEOUNPIEUPxIYEOKwMIEUMwPANSIOSxIEUPwRIEULwTHIEUTHxIKEUTsSANGCIEUCwIEUNGwKIYEOKwMIEUM",
   "wNIEUNwPIEUPwRIEULbb-KHIEUKHwSIOSba-KIYEOKbbTIKEUTwTIKEUTbc-PIEUPwYESIEUNGrTHIEUTHsIKEUT",
   "x-CHIEUCHzIEUCyKIYEOKyPIEUPyRIEULySIOSbc-KIYEOKyTHIEUTHrYEORINHIEUHtSIEUNGz-HIEUHbaKHIEUKH",
   "bbIYEOKbaMIEUMbaPANSIOSbaSIOSbbSANGKIYEOKiUNGSEONG As-EUtOtUsEsRAEAw-AxEyOxIxUrEsOt-EUuOuUsU",
   "t-AuEvOvUuOuUrFILLERrIs-AuRAEAtEUtItOu-ItUtYAv-OvEuEvOuOuUrOs-EuOtOu-ItUtYAvEuEvOsE",
   "rSSANGARAEArUs-AuEtEO-EUtI-ItUtYEvOrWAtEsEtOsIrYAt-OuUuYOtEsEtOu-OvUvYAsIt-UsOt-AvEuEOuIuOuYA",
   "wEvEOsUt-AvEuEvOuIuOuUuYEwOhLETTER ApEpRAEAtEoCHIEUCHpIEUCoEpOpUoHIEUHoIpEUNGoKAPYEOUNMIEUM",
   "wPHIEUPHxIEUPwSSANGPIEUPpHIEUKHpIYEOKu-SIOSoMIEUMt-PANSIOSvIEUPuSIOSoNIEUNt-CIEUCuHIEUH",
   "uPANSIOSuSIOSuTIKEUToOpEoPANSIOSpHIEUPHpIEUPt-CIEUCuKIYEOKuSIOSy-KIYEOKzTIKEUTuTHIEUTHvIKEUT",
   "oRIEULt-HIEUHuKIYEOKba-SIOSuMIEUMuPANSIOSvHIEUPHvIEUPz-SIOSuSIOSuTHIEUTHvIKEUTuYEORINHIEUH",
   "oSIOSs-CIEUCtKIYEOKtNIEUNtPIEUPtTIKEUTpSANGCIEUCtHIEUHtIEUNGtKIYEOKtNIEUNtPIEUPtSIOStTIKEUT",
   "oTHIEUTHpIKEUToUoWAqEpEqOpIoYAqEpEqOrRINHIEUHqSIEUNGw-PANSIOSxSIOSpIpOq-IrYAtEpUq-IrYEtO",
   "hSINGLE DOT TONE MARKeZHOU NUMERAL EIGHTrFIVEsOURrNINErONErSEVENsIXrTENsHIRTYtREEsWENTYtO",
   "dIFI ROHINGYA DIGIT EIGHTwFIVExOURwNINEwONEwSEVENxIXwTHREExWOwZEROqLETTER AxBAxCAxDAyDAxFAxGA",
   "xHAxJAxKAyHAyINNA WAbdYAxLAxMAxNAyGAyYAxPAxRAyRAxSAyHAxTAyTAxVAxWAxYAxZAqMARK NA KHONNAvSAKIN",
   "qSIGN HARBAHAYvTAHALAxNAxSSIqVOWEL AwEwIwOwUdUNOO LETTER ApBApDApGApHApIpKApLApMApNAqGApPApRA",
   "pSApTApUpWApYAiSIGN PAMUDPODiVOWEL SIGN ItUcPPY PERSON RAISING ONE HANDcRD DISKcTCHING CHICK",
   "dRAN LETTER ALEPHpYNoBETHoDALETH-RESHoGIMELoHEqTHoKAPHoLAMEDHoMEMoNUNoPEoQOPHoSADHEqMEKHpHIN",
   "oTAWpETHoWAWoYODHoZAYNhNUMBER FIVEoONEr HUNDREDoTENpWENTYbEADPHONEeSTONEj GRAVEYARD SYMBOL",
   "dR-NO-EVIL MONKEYeT DECORATIONgHANDSgWITH ARROWlRIBBONlTIP ON THE LEFTdVY AMPERSAND ORNAMENT",
   "hRROW SHAFT WIDTH ONEbb HALFbcTHIRDyTWO THIRDShSTERISKgBALLOT X",
   "hLACK CURVED DOWNWARDS AND RIGHTWARDS ARROWtUPWARDS AND RIGHTWARDS ARROWmHEART",
   "l-FEATHERED NORTH EAST ARROWwRIGHTWARDS ARROWwSOUTH EAST ARROWgCHECK MARKjVRON SNOWFLAKE",
   "hIRCLEm WITH CIRCLE INSIDEsSTROKE AND TWO DOTS ABOVEmD SALTIRE",
   "hONCAVE-POINTED BLACK RIGHTWARDS ARROWgDASHED TRIANGLE-HEADED RIGHTWARDS ARROWhIVISION SIGN",
   "hOLLAR SIGNiUBLE COMMA QUOTATION MARK ORNAMENTnTURNED COMMA QUOTATION MARK ORNAMENT",
   "iWNWARDS ARROW WITH EQUILATERAL ARROWHEADbbLARGE EQUILATERAL ARROWHEAD",
   "gEIGHT POINTED BLACK STARuPINWHEEL STARuRECTILINEAR BLACK STARmSPOKED ASTERISK",
   "mTEARDROP-SPOKED PROPELLER ASTERISKhQUALS SIGNhXCLAMATION MARK ORNAMENTxSYMBOL",
   "gFIVE POINTED BLACK STARlSPOKED ASTERISKhOUR BALLOON-SPOKED ASTERISKgGREEK CROSS",
   "gHEART EXCLAMATION MARK ORNAMENThORIZONTAL FILLgINTERROBANG ORNAMENTgLARGE CIRCLEiTIN CROSS",
   "hEFT-POINTING ANGLE BRACKET ORNAMENTbaQUOTATION MARK ORNAMENT",
   "kWARDS ARROW WITH EQUILATERAL ARROWHEADbbLARGE EQUILATERAL ARROWHEADhIGATURE OPEN ET ORNAMENT",
   "hOW DOUBLE COMMA QUOTATION MARK ORNAMENTkSINGLE COMMA QUOTATION MARK ORNAMENT",
   "jER RIGHT-SHADOWED WHITE RIGHTWARDS ARROWgMINUS SIGNhULTIPLICATION XgNORTH EAST ARROW",
   "rPOINTING BUDbaVINE LEAFmWEST POINTING BUDbaVINE LEAFgOPEN CENTRE CROSShUTLINED BLACK STAR",
   "hVAL WITH OVAL INSIDEgPLUS SIGNgRIGHT-POINTING ANGLE BRACKET ORNAMENT",
   "bbQUOTATION MARK ORNAMENTlWARDS ARROWw WITH EQUILATERAL ARROWHEAD",
   "bcLARGE EQUILATERAL ARROWHEADhOUND-TIPPED RIGHTWARDS ARROWgSALTIRE",
   "iNS-SERIF INTERROBANG ORNAMENThCRIPT LIGATURE ET ORNAMENThINGLE COMMA QUOTATION MARK ORNAMENT",
   "nTURNED COMMA QUOTATION MARK ORNAMENTiX POINTED BLACK STARkSPOKED ASTERISKhOUTH EAST ARROW",
   "rPOINTING BUDbaVINE LEAFmWEST POINTING BUDbaVINE LEAFhPARKLE",
   "gTEARDROP-SHANKED RIGHTWARDS ARROWqPOKED ASTERISKwPINWHEEL ASTERISK",
   "hRIANGLE-HEADED RIGHTWARDS ARROWhWELVE POINTED BLACK STARvPINWHEEL STAR",
   "gUPPER RIGHT-SHADOWED WHITE RIGHTWARDS ARROWiWARDS ARROW WITH EQUILATERAL ARROWHEAD",
   "zLARGE EQUILATERAL ARROWHEADgVERTICAL BARgWEDGE-TAILED RIGHTWARDS ARROWhHITE CIRCLE",
   "mDOWN-POINTING TRIANGLEmSQUAREhIDE-HEADED RIGHTWARDS ARROWcBREW ACCENT ATNAH HAFUKHoDARGApEHI",
   "oETNAHTAoGERESHu MUQDAMrSHAYIMoILUYoMAHAPAKHpERKHAu KEFULApUNAHoOLEoPASHTAqZERoQADMA",
   "qRNEY PARAoREVIAoSEGOLpHALSHELEToTELISHA GEDOLAwQETANAqVIRpIPEHAoYERAH BEN YOMOqTIV",
   "oZAQEF GADOLuQATANqRQApINORhLETTER ALEFs WITH MAPIQyPATAHyQAMATSqTERNATIVE AYINbaPLUS SIGN",
   "pYINoBETr WITH DAGESHxRAFEoDALETt WITH DAGESHoFINAL KAFx WITH DAGESHuMEMuNUNuPEw WITH DAGESH",
   "uTSADIoGIMELt WITH DAGESHoHEq WITH MAPIQqToKAFr WITH DAGESHxRAFEoLAMEDt WITH DAGESHoMEM",
   "r WITH DAGESHoNUNr WITH DAGESHoPEq WITH DAGESHwRAFEoQOFr WITH DAGESHoRESHs WITH DAGESHoSAMEKH",
   "u WITH DAGESHpHINs WITH DAGESHbe AND SHIN DOTbkIN DOTySHIN DOTzIN DOToTAVr WITH DAGESHpET",
   "r WITH DAGESHpSADIt WITH DAGESHoVAVr WITH DAGESHxHOLAMoWIDE ALEFtDALETtFINAL MEMtHEtKAFtLAMED",
   "tRESHtTAVoYODr WITH DAGESHxHIRIQoZAYINt WITH DAGESHiIGATURE ALEF LAMEDqYIDDISH DOUBLE VAV",
   "bfYODyVAV YODyYOD YOD PATAHhMARK LOWER DOTmMASORA CIRCLEmUPPER DOThPOINT DAGESH OR MAPIQ",
   "nHATAF PATAHtQAMATStSEGOLoIRIQoOLAMs HASER FOR VAVnJUDEO-SPANISH VARIKAnMETEGnPATAHnQAMATS",
   "t QATANoUBUTSnRAFEnSEGOLoHEVApIN DOToIN DOTnTSEREiUNCTUATION GERESHwSHAYIMtMAQAFtNUN HAFUKHA",
   "tPASEQtSOF PASUQhYOD TRIANGLEcDGEHOGcLICOPTERdLSCHREIBER PAUSE SYMBOLdM SYMBOL",
   "eET WITH WHITE CROSScNTAIGANA LETTER A-1u2u3uWOsE-1u2u3u4u5u6sHA-1w0w1v2v3v4v5v6v7v8v9tE-1v2",
   "v3v4v5v6v7tI-1v2v3v4v5v6v7tO-1v2v3v4v5v6v7v8tU-1v2v3sI-1u2u3u4sKA-1w0w1v2v3v4v5v6v7v8v9vKE",
   "tE-1v2v3v4v5v6tI-1v2v3v4v5v6v7v8tO-1v2v3vKItU-1v2v3v4v5v6v7sMA-1v2v3v4v5v6v7tE-1v2vMAtI-1v2v3",
   "v4v5v6v7tO-1v2v3v4v5v6tU-1v2v3v4sN-MU-MO-1ba2tA-1v2v3v4v5v6v7v8v9tE-1v2v3v4v5v6vKOtI-1v2v3v4",
   "v5v6v7vTEtO-1v2v3v4v5tU-1v2v3sO-1u2u3sRA-1v2v3v4tE-1v2v3v4tI-1v2v3v4v5v6v7tO-1v2v3v4v5v6tU-1",
   "v2v3v4v5v6sSA-1v2v3v4v5v6v7v8tE-1v2v3v4v5tI-1v2v3v4v5v6tO-1v2v3v4v5v6v7tU-1v2v3v4v5v6v7v8",
   "sTA-1v2v3v4tE-1v2v3v4v5v6v7v8v9tI-1v2v3v4v5v6v7tO-1v2v3v4v5v6vRAtU-1v2v3v4vTOsU-1u2u3u4u5",
   "sWA-1v2v3v4v5tE-1v2v3v4tI-1v2v3v4v5tO-1v2v3v4v5v6v7sYA-1v2v3v4v5vYOtO-1v2v3v4v5v6tU-1v2v3v4",
   "cRBdMITIAN CONJUGATE MATRIXcXAGRAM FOR ABUNDANCEoFTER COMPLETIONoPPROACHnBEFORE COMPLETION",
   "oITING THROUGHoREAKTHROUGHnCOMING TO MEETpNFLICTqTEMPLATIONnDARKENING OF THE LIGHToECREASE",
   "pLIVERANCEpVELOPMENToIFFICULTY AT THE BEGINNINGpSPERSIONoURATIONnENTHUSIASMnFELLOWSHIP",
   "oOLLOWINGnGATHERING TOGETHERoRACEpEAT POSSESSIONvWERuREPONDERANCEtTAMINGnHOLDING TOGETHER",
   "nINCREASEpFLUENCEpNER TRUTHqOCENCEnLIMITATIONnMODESTYpUTH CORNERSnOBSTRUCTIONoPPOSITION",
   "qRESSIONnPEACEoROGRESSoUSHING UPWARDnRETREATqURNpVOLUTIONnSMALL PREPONDERANCEtTAMING",
   "oPLITTING APARToTANDSTILLnTHE ABYSMAL WATERsRMYtOUSING THUNDERrCAULDRONsLINGING FIRE",
   "sREATIVE HEAVENrFAMILYrGENTLE WINDrJOYOUS LAKErKEEPING STILL MOUNTAINrMARRYING MAIDEN",
   "rRECEPTIVE EARTHrWANDERERsELLoREADINGnWAITINGoORK ON THE DECAYEDnYOUTHFUL FOLLYbIBISCUS",
   "cGH BRIGHTNESS SYMBOLfOCTET PRESETfVOLTAGE SIGNe-HEELED SHOEfSPEED TRAINq WITH BULLET NOSE",
   "cKING BOOTcNDU TEMPLEcPPOPOTAMUScRAGANA DIGRAPH YORIjITERATION MARKjLETTER ArRCHAIC WUyYEqBA",
   "rErIrOrUqDArErIrOrUqEqGArErIrOrUqHArErIrOrUqIqKArErIrOrUqMArErIrOrUqNrArErIrOrUqOqPArErIrOrU",
   "qRArErIrOrUqSArErIrMALL AwEwIwKAxEwOwTUwUwWAxExIxOwYAxOxUrOrUqTArErIrOrUqUqVUqWArErIrOqYArOrU",
   "qZArErIrOrUjVOICED ITERATION MARKcSTORIC SITEbOCHOcLEdLOW QUILT SQUARE ORNAMENT",
   "bc IN BLACK SQUAREcMOTHETICcNEY POTfBEEcOKcPcRIZONTAL BARmLACK HEXAGONrOCTAGONlELLIPSIS",
   "lLINE EXTENSIONlMALE WITH STROKE SIGNlONE EIGHTH BLOCK-1358bc2bc3bc4bc5bc6bc7lSCAN LINE-1v3v7",
   "v9lTAB KEYoULATIONv SETwWITH JUSTIFICATIONmRAFFIC LIGHTdSEf FACEgRACINGcSPITALcT BEVERAGEeDOG",
   "ePEPPEReSPRINGSdELcURGLASSj WITH FLOWING SANDdSEf BUILDINGoSgWITH GARDENbRYVNIA SIGNbTcJcS",
   "bUGGING FACEcNDRED POINTS SYMBOLcSHED FACEcTbYGIEAcPHENg BULLEThWITH DIAERESISg-MINUS",
   "gATION POINTdODIASTOLEcSTERESIS SYMBOLaI LOVE YOU HAND SIGNbCE CREAMfUBE",
   "eHOCKEY STICK AND PUCKeSKATEbDENTICAL TOm AND SLANTED PARALLELkWITH DOT ABOVEgFICATION CARD",
   "dOGRAPHIC ANNOTATION BOTTOM MARKxEARTH MARKxFIRST MARKyOUR MARKbbTH MARKxHEAVEN MARK",
   "xLINKING MARKxMAN MARKyIDDLE MARKxONE MARKxREVERSE MARKxSECOND MARKxTHIRD MARKzREE MARK",
   "yOP MARKyWO MARKmCLOSING MARKnOMMAmDEPARTING TONE MARKoSCRIPTION CHARACTER ABOVE TO BELOW",
   "brMIDDLE AND BELOWbiFULL SURROUNDbiLEFT TO MIDDLE AND RIGHTbqRIGHTbiOVERLAID",
   "biSURROUND FROM ABOVEbwBELOWbwLEFTbxOWER LEFTbwUPPER LEFTccRIGHTmENTERING TONE MARKmFULL STOP",
   "mHALF FILL SPACEmITERATION MARKmLEVEL TONE MARKmNUMBER ZEROmRISING TONE MARKmSPACE",
   "mTALLY MARK FIVEyOURxONExTHREEyWOnELEGRAPH LINE FEED SEPARATOR SYMBOLwSYMBOL FOR APRILbiUGUST",
   "bhDAY EIGHTbqEENbmLEVENblFIFTEENbnVEbmOURbpTEENblNINEbpTEENblONEblSEVENbqTEENbmIXboTEENblTEN",
   "bmHIRTEENbqYbr-ONEbnREEbmWELVEboNTYbr-EIGHTbsFIVEbtOURbsNINEbsONEbsSEVENbtIXbsTHREEbtWObnO",
   "biECEMBERbhFEBRUARYbhHOUR EIGHTbrEENbnLEVENbmFIFTEENboVEbnOURbqTEENbmNINEbqTEENbmONEbmSEVEN",
   "brTEENbnIXbpTEENbmTENbnHIRTEENboREEbnWELVEbpNTYbs-FOURbtONEbtTHREEbuWOboObmZERObhJANUARYbiULY",
   "bjNEbhMARCHbjYbhNOVEMBERbhOCTOBERbhSEPTEMBERmVARIATION INDICATORbMAGE OF",
   "i OR APPROXIMATELY EQUAL TOcPdERIAL ARAMAIC LETTER ALEPHzYINyBETHyDALETHyGIMELyHEbaTHyKAPH",
   "yLAMEDHyMEMyNUNyPEyQOPHyRESHySADHEbaMEKHzHINyTAWzETHyWAWyYODHyZAYINrNUMBER ONEbb HUNDRED",
   "bcTHOUSANDyTENbb THOUSANDzHREEzWENTYbaOrSECTION SIGNbNBOX TRAYcCOMING ENVELOPEfPLETE INFINITY",
   "dREASE FONT SIZE SYMBOLiS ASfMENTcDdEXf POINTING AT THE VIEWERdIAN RUPEE SIGN",
   "eC SIYAQ ALTERNATE LAKH MARKmFRACTION ONE HALFzQUARTERvTHREE QUARTERSmLAKH MARK",
   "mNUMBER ALTERNATE ONEbdTEN THOUSANDbeWOtEIGHTy HUNDREDzTHOUSANDyYz THOUSANDtFIFTYy THOUSAND",
   "vVEx HUNDREDyTHOUSANDuORTYy THOUSANDvURx HUNDREDyTHOUSANDtKARORyANtLAKHxANtNINEx HUNDRED",
   "yTHOUSANDxTYz THOUSANDtONEw HUNDREDxTHOUSANDtPREFIXED EIGHTbcFIVEbdOURbcNINEbcONEbcSEVENbdIX",
   "bcTHREEbdWOtSEVENy HUNDREDzTHOUSANDyTYba THOUSANDuIXw HUNDREDxTHOUSANDwTYy THOUSANDtTEN",
   "w THOUSANDuHIRTYz THOUSANDvREEy HUNDREDzTHOUSANDuWENTYz THOUSANDvOw HUNDREDxTHOUSAND",
   "mPLACEHOLDERmRUPEE MARKcFINITYi NEGATED WITH VERTICAL BARdORMATION DESK PERSONmSEPARATOR FOUR",
   "wONEwTHREExWOnOURCEcHIBIT ARABIC FORM SHAPINGiSYMMETRIC SWAPPING",
   "cPUT SYMBOL FOR LATIN CAPITAL LETTERSxLETTERSxSMALL LETTERSrNUMBERSrSYMBOLS",
   "cSCRIPTIONAL PAHLAVI LETTER ALEPHbdBETHbdDALETHbdGIMELbdHEbfTHbdKAPHbdLAMEDHbdMEM-QOPHbdNUN",
   "bdPEbdSADHEbfMEKHbeHINbdTAWbeETHbdWAW-AYIN-RESHbdYODHbdZAYINwNUMBER FOURbdONEbg HUNDRED",
   "bhTHOUSANDbdTENbeHREEbeWENTYbfOqRTHIAN LETTER ALEPHbfYINbeBETHbeDALETHbeGIMELbeHEbgTHbeKAPH",
   "beLAMEDHbeMEMbeNUNbePEbeQOPHbeRESHbeSADHEbgMEKHbfHINbeTAWbfETHbeWAWbeYODHbeZAYINxNUMBER FOUR",
   "beONEbh HUNDREDbiTHOUSANDbeTENbfHREEbfWENTYbgOdERTION SYMBOLcTEGRALi AROUND A POINT OPERATOR",
   "kVERAGE WITH SLASHjEXTENSIONjWITH DOUBLE STROKEoINTERSECTIONoLEFTWARDS ARROW WITH HOOK",
   "oOVERBARoTIMES SIGNoUNDERBARqIONeRCALATEfIOR PRODUCTfLINEAR ANNOTATION ANCHORxSEPARATOR",
   "xTERMINATORgOCKED FEMALE AND MALE SIGNfROBANGfSECTIONm ABOVE BAR ABOVE UNIONtUNION",
   "nBESIDE AND JOINED WITH INTERSECTIONnWITH DOTsLOGICAL ANDsOVERBARcVERSE BULLETiCHECK MARK",
   "nER BOARD FILLiDOWNWARDS ARROW WITH TIP LEFTWARDSiMEDIUM SHADEiWHITE CIRCLE",
   "fTED EXCLAMATION MARKjINTERROBANGjLAZY SkOW KAVYKAt WITH KAVYKA ABOVEjOHM SIGNjPENTAGRAM",
   "jQUESTION MARKjUNDERTIEdISIBLE PLUSkSEPARATORkTIMESbZAKAYA LANTERNaJACK-O-LANTERN",
   "cPANESE BANK SYMBOLjCASTLEjDOLLSjGOBLINjINDUSTRIAL STANDARD SYMBOLjOGREjPOST OFFICE",
   "jSYMBOL FOR BEGINNERcRcVANESE CONSONANT SIGN CAKRAyKERETyPENGKALjDIGIT EIGHTpFIVEqOURpNINE",
   "pONEpSEVENqIXpTHREEqWOpZEROjLEFT RERENGGANlTTER ArIqBAs MURDAqCAs MURDAqDAs MAHAPRANArDA",
   "t MAHAPRANAqEqGAs MURDAqHAqIr KAWIrIqJAs MAHAPRANAqKAs MURDAtSASAKqLAqMAqNAs MURDArGAt LELET",
   "z RASWADIrYAt MURDAqOqPAs CEREKtMURDAqRAs AGUNGqSAs MAHAPRANAuURDAqTAs MURDArTAt MAHAPRANAqU",
   "qWAqYAjPADA ADEGs ADEGpNDAPoISEN-ISENoLINGSApUHURqNGSIoMADYAoPANGKATpISELEHoTIRTA TUMETES",
   "oWINDUlNGKONnRANGKEPjRIGHT RERENGGANjSIGN CECAKt TELUoLAYARoPANYANGGAoWIGNYAN",
   "jTURNED PADA PISELEHjVOWEL SIGN DIRGA MUREuPEPETuSUKUy MENDUTuTALINGwRUNGvOLONGuWULUy MELIK",
   "bEANSbIGSAW PUZZLE PIECEbOINcYSTICKbUGGLINGcNOcPITERaKAABAcITHI ABBREVIATION SIGNhDANDA",
   "iOUBLE DANDAoSECTION MARKhENUMERATION SIGNhLETTER ApApIpUoBApHAoCApHAoDApDAqDHAqHApHAoEoGApHA",
   "oHAoIpIoJApHAoKApHAoLAoMAoNApGApNApYAoOoPApHAoRApHAoSApHApSAoTApHApTAqHAoUpUoVAoYA",
   "hNUMBER SIGNs ABOVEhSECTION MARKiIGN ANUSVARAmCANDRABINDUmNUKTAmVIRAMAoSARGAhVOWEL SIGN AAtI",
   "tUsEsItIsOsUtUsVOCALIC RcNGAROOeXI RADICAL AGAINqNDqRRIVEsOWqXEpBADGERrMBOOqEANqIGrRDrTTER",
   "qLACKrOODrUEqOATrDYrLT OF CLOTHrNErWqRANCHrISTLErUSHpCARTrULDRONrVEqHILDqITYqLANsWrIFFrOTHES",
   "qOLORrMPARErRPSErVERrWpDEATHrERqIPPERrSHsTINGUISHrVINATIONqO NOTrGrORrTsTED CLIFFwTENTrUBLE X",
   "rWN BOXqRAGONrUMrYpEARsTHrTqIGHTqMBROIDERYqNCLOSURErTERqVENtINGqYEpFACErNGrTHERqEATHERqIELD",
   "rGHTrRErSHqLUTErYqOOTqRAGRANTrOGqURpGATEqHOSTqOr SLOWLYrLDqRAINsSSpHAIRrLBERDsF TREE TRUNKrND",
   "qEADsRTrMPqIDING ENCLOSUREqOOKrRNsSEpICEqNCHrSECTpJADErRpKNIFEpLACKrMEqEAFsTHERrEKrGSqIDrFE",
   "rNEqONGt STRIDEpMANqEATrLONqILLETrNISTERqOONrRNINGsTARrUNDtTAINsTHpNETqOSErTpOLDqNEsSELF",
   "qPEN BOXrPOSEpPIGqLOWqOWERqRIVATErOFOUNDpRAINrPrTqEDqICErGHT OPEN BOXrVERqOOFqUN",
   "pSACRIFICIAL WINErLTrYqCHOLARrRIPTqEALrCONDrErLFqHEEPsLLrOOTsRT TAILED BIRDwHREADqICKNESSrLK",
   "qKINqLASHsVErICEqMALLqNOUTqOUNDqPEARsECHrIRITrOONrROUTqQUAREqTANDrEAMsPrONEsPtPINGqUNqWEET",
   "pTABLErLLrNNED LEATHERqENqIGERrLEqONGUErOTHqRACKrEErIPODqURBANsTLEqWOs HANDSpUSEpVALLEY",
   "qILLAGEpWALKt ENCLOSURErTERqEAPONrSTqHEATrITEqINDsEqOMANrRKqRAPrONGpYELLOW",
   "dNADA AI LENGTH MARKiDIGIT EIGHToFIVEpOURoNINEoONEoSEVENpIXoTHREEpWOoZEROiLENGTH MARKkTTER A",
   "qAqIqUpBAqHApCAqHApDAqDArHAqHApEqEpFApGAqHApHApIqIpJAqHApKAqHApLAqLArLApMApNArKAARA POLLUqGA",
   "qNAqYApOqOpPAqHApRAqRApSAqHAqSApTAqHAqTArHApUqUpVAqOCALIC LyLxRyRpYAiSIGN ANUSVARAoVAGRAHA",
   "nCANDRABINDUnJIHVAMULIYAnNUKTAnSIDDHAMoPACING CANDRABINDUnUPADHMANIYAnVIRAMApSARGA",
   "iVOWEL SIGN AAuIuUtEuEtIuItOuOtUuUtVOCALIC LbcLbbRbcRcTAKANA DIGRAPH KOTOjITERATION MARK",
   "jLETTER ArRCHAIC EyWUyYEzIqBArErIrOrUqDArErIrOrUqEqGArErIrOrUqHArErIrOrUqIqKArErIrOrUqMArErI",
   "sNNAN NASALIZED TONE-1bm2bm3bm4bm5bm7bm8xTONE-2bc3bc4bc5bc7bc8rOrUqNrArErIrOrUqOqPArErIrOrU",
   "qRArErIrOrUqSArErIrMALL AwEwHAxExIxOxUwIwKAxExUwMUwNxUwOwRAxExIxOxUwSIxUwTOxUwUwWAxExIxOwYAxO",
   "xUrOrUqTArErIrOrUqUqVArErIrOrUqWArErIrOqYArOrUqZArErIrOrUjMIDDLE DOTjVOICED ITERATION MARK",
   "i-HIRAGANA DOUBLE HYPHENsPROLONGED SOUND MARKsSEMI-VOICED SOUND MARKsVOICED SOUND MARK",
   "cYAH LI DIGIT EIGHTpFIVEqOURpNINEpONEpSEVENqIXpTHREEqWOpZEROjLETTER AqBAqCAqDAqGAqHArTAqIqKA",
   "rHAqLAqMAqNArGArYAqOErOqPArHAqRAqSArHAqTArHAqVAqWAqYAqZAjSIGN CWIoSHYAjTONE CALYAt PLOPHU",
   "oPLOPHUjVOWEL EqEpOpUqEbELVIN SIGNcYdBOARDi AND MOUSEdCAP TENbHAROSHTHI DIGIT FOURrONErTHREE",
   "sWOlFRACTION ONE HALFlLETTER AsBAtHAsCAtHAsDAtDAuHAtHAsGAtHAsHAsJAsKAtHAtKAsLAsMAsNAtNAtYAsPA",
   "tHAsRAsSAtHAtSAsTAtHAtTAuHAuTAvHAsVAtHAsYAsZAlNUMBER ONE HUNDREDwTHOUSANDsTENtWENTY",
   "lPUNCTUATION CIRCLEyRESCENT BARxDANDAyOTzUBLE DANDAxLINESyOTUSxMANGALAMxSMALL CIRCLE",
   "lSIGN ANUSVARAqBAR ABOVEqCAUDAqDOT BELOWsUBLE RING BELOWqVISARGAlVIRAMAmOWEL LENGTH MARK",
   "rSIGN EwIwOwUwVOCALIC RcITAN SMALL SCRIPT CHARACTER-18B00bi1bi2bi3bi4bi5bi6bi7bi8bi9biAbiBbiC",
   "biDbiEbiFbh10bi1bi2bi3bi4bi5bi6bi7bi8bi9biAbiBbiCbiDbiEbiFbh20bi1bi2bi3bi4bi5bi6bi7bi8bi9biA",
   "biBbiCbiDbiEbiFbh30bi1bi2bi3bi4bi5bi6bi7bi8bi9biAbiBbiCbiDbiEbiFbh40bi1bi2bi3bi4bi5bi6bi7bi8",
   "bi9biAbiBbiCbiDbiEbiFbh50bi1bi2bi3bi4bi5bi6bi7bi8bi9biAbiBbiCbiDbiEbiFbh60bi1bi2bi3bi4bi5bi6",
   "bi7bi8bi9biAbiBbiCbiDbiEbiFbh70bi1bi2bi3bi4bi5bi6bi7bi8bi9biAbiBbiCbiDbiEbiFbh80bi1bi2bi3bi4",
   "bi5bi6bi7bi8bi9biAbiBbiCbiDbiEbiFbh90bi1bi2bi3bi4bi5bi6bi7bi8bi9biAbiBbiCbiDbiEbiFbhA0bi1bi2",
   "bi3bi4bi5bi6bi7bi8bi9biAbiBbiCbiDbiEbiFbhB0bi1bi2bi3bi4bi5bi6bi7bi8bi9biAbiBbiCbiDbiEbiFbhC0",
   "bi1bi2bi3bi4bi5bi6bi7bi8bi9biAbiBbiCbiDbiEbiFbhD0bi1bi2bi3bi4bi5bi6bi7bi8bi9biAbiBbiCbiDbiE",
   "biFbhE0bi1bi2bi3bi4bi5bi6bi7bi8bi9biAbiBbiCbiDbiEbiFbhF0bi1bi2bi3bi4bi5bi6bi7bi8bi9biAbiBbiC",
   "biDbiEbiFbgC00bi1bi2bi3bi4bi5bi6bi7bi8bi9biAbiBbiCbiDbiEbiFbh10bi1bi2bi3bi4bi5bi6bi7bi8bi9biA",
   "biBbiCbiDbiEbiFbh20bi1bi2bi3bi4bi5bi6bi7bi8bi9biAbiBbiCbiDbiEbiFbh30bi1bi2bi3bi4bi5bi6bi7bi8",
   "bi9biAbiBbiCbiDbiEbiFbh40bi1bi2bi3bi4bi5bi6bi7bi8bi9biAbiBbiCbiDbiEbiFbh50bi1bi2bi3bi4bi5bi6",
   "bi7bi8bi9biAbiBbiCbiDbiEbiFbh60bi1bi2bi3bi4bi5bi6bi7bi8bi9biAbiBbiCbiDbiEbiFbh70bi1bi2bi3bi4",
   "bi5bi6bi7bi8bi9biAbiBbiCbiDbiEbiFbh80bi1bi2bi3bi4bi5bi6bi7bi8bi9biAbiBbiCbiDbiEbiFbh90bi1bi2",
   "bi3bi4bi5bi6bi7bi8bi9biAbiBbiCbiDbiEbiFbhA0bi1bi2bi3bi4bi5bi6bi7bi8bi9biAbiBbiCbiDbiEbiFbhB0",
   "bi1bi2bi3bi4bi5bi6bi7bi8bi9biAbiBbiCbiDbiEbiFbhC0bi1bi2bi3bi4bi5bi6bi7bi8bi9biAbiBbiCbiDbiE",
   "biFbhD0bi1bi2bi3bi4bi5uFILLERcMER CURRENCY SYMBOL RIELgDIGIT EIGHTmFIVEnOURmNINEmONEmSEVENnIX",
   "mTHREEnWOmZEROgINDEPENDENT VOWEL LYbaYyQAAbaIbaQbaUzEzIbaIzOO TYPE ONEbhTWOzUbaKbaUbbVyRYbaY",
   "gLETTER BAnCAoHApOoOnDAoOnHAnKAoHApOoOnLAoOnMOnNGOoNOoOoYOnPHApOoOnQAnROnSAoHAoSOnTAoHApOoO",
   "oTHAqOnVOnYOgSIGN AHSDAmTTHACANmVAKRAHASANYAlBANTOCnRIYOOSANnTHAMASATmEYYALlCAMNUC PII KUUH",
   "mOENGlKAKABATmHANmOOMUUTlLEK TOOlMUUSIKATOANlNIKAHITlPHNAEK MUANlREAHMUKmOBATlSAMYOK SANNYA",
   "lTOANDAKHIATmRIISAPlVIRIAMlYUUKALEAPINTUhYMBOL BEI KOETrROCoUON KOETsROCnDAP KOETrROC",
   "q-BEI KOETvROCsUON KOETwROCrMUOY KOETwROCrPII KOETvROCsRAM KOETwROCnLEK ATTAK BEIyUONxMUOY",
   "xPIIyRAMbb-BEIbdUONbcMUOYbcPIIxSONnMUOY KOETsROCnPATHAMASAToII KOETrROCoRAM KOETsROC",
   "r-BEI KOETwROCtUON KOETxROCsMUOY KOETxROCsPII KOETwROCnTUTEYASATgVOWEL INHERENT AAwQmSIGN AA",
   "sEsIsUrErIsEsIrOEsOrUsAsUrYsAsYcOJKI ABBREVIATION SIGNhDANDAiOUBLE DANDAoSECTION MARK",
   "hLETTER ApApIpUoBApBApHAoCApHAoDApDAqDAqHApHAoEoGApGApHAoHAoIoJApJAoKApHAoLApLAoMAoNApGApNA",
   "pYAoOoPApHAoRAoSAoTApHApTAqHAoUoVAoYAhSECTION MARKiIGN ANUSVARAmNUKTAmSHADDAnUKUNmVIRAMA",
   "hVOWEL SIGN AAtItUsEsItIsOsUhWORD SEPARATORcUDAWADI DIGIT EIGHTqFIVErOURqNINEqONEqSEVENrIX",
   "qTHREErWOqZEROkLETTER AsAsIsUrBAsBAsHArCAsHArDAsDAtDAtHAsHArErGAsGAsHArHArIsIrJAsHAsJArKAsHA",
   "rLArMArNAsGAsNAsYArOrPAsHArRAsRArSAsHArTAsHAsTAtHArUsUrVArYAkSIGN ANUSVARApNUKTApVIRAMA",
   "kVOWEL SIGN AAwIwUvEvIwIvOvUwUbIMONOcP SIGNcSSe MARKeING CAT FACE WITH CLOSED EYESiFACE",
   "m WITH CLOSED EYESsSMILING EYEScTEcWIFRUITbNEELING PERSONcOTbOALAcREAN STANDARD SYMBOLbRONOS",
   "aL B BAR SYMBOLbAB COATdELcCROSSE STICK AND BALLcDDERdY BEETLEcNGUAGE TAGcO CANCELLATION MARK",
   "eDIGIT EIGHTkFIVElOURkNINEkONEkSEVENlIXkTHREElWOkZEROeELLIPSISeHO MOhNOeKO LAeLETTER BOlCOlDO",
   "lFO FAYpONoSUNGoTAMlHO SUNGoTAMlKHMU GOqNYOnO SUNGpTAMmOlLOn LINGpOOTlMOlNGOmOmYOlOlPALI BHA",
   "qCHAqDDAsHArHAqGHAqJHAqLLAqNNArYAqTTAsHAmHO SUNGpTAMmOlROlSANSKRIT SHAvSAmO SUNGoTAMlTHO SUNG",
   "pTAMmOlWOlYOeNIGGAHITAeSEMIVOWEL SIGN LOtNYOfIGN PALI VIRAMAeTONE MAI CATAWAnEKnTHOoI",
   "eVOWEL SIGN AqAqIqMqYpEqIpIqIpMAI KANuONpOpUqUpYqYcRGE BLUE CIRCLElDIAMONDlSQUAREhROWN CIRCLE",
   "mSQUAREgCIRCLEgDOWN TACKgGREEN CIRCLEmSQUAREgLEFT TRIANGLE OPERATOR",
   "gONE DOT OVER TWO DOTS PUNCTUATIONkRING OVER TWO RINGS PUNCTUATIONhRANGE CIRCLEnDIAMOND",
   "nSQUAREgPURPLE CIRCLEnSQUAREgRED CIRCLEkSQUAREgTRIPLE VERTICAL BAR OPERATOR",
   "hWO DOTS OVER ONE DOT PUNCTUATIONkRINGS OVER ONE RING PUNCTUATIONgUP TACKgYELLOW CIRCLE",
   "nSQUAREfR THANl OR EQUAL TOdI SIGNcST QUARTER MOONr SYMBOLsWITH FACEcTIN CAPITAL LETTER A",
   "w WITH ACUTEbcBREVEbh AND ACUTEbmDOT BELOWbmGRAVEbmHOOK ABOVEbmTILDEbcCARONbdIRCUMFLEX",
   "bm AND ACUTEbrDOT BELOWbrGRAVEbrHOOK ABOVEbrTILDEbcDIAERESISbl AND MACRONbdOT ABOVE",
   "bl AND MACRONbgBELOWbeUBLE GRAVEbcGRAVEbcHOOK ABOVEbcINVERTED BREVEbcMACRONbcOGONEK",
   "bcRING ABOVEbm AND ACUTEbhBELOWbcSTROKEbcTILDEwAwEx WITH ACUTEbdMACRONwFRICAN DwLPHA",
   "wNGLICANA WwOwUwVx WITH HORIZONTAL BARwYvBw WITH DOT ABOVEbgBELOWbcFLOURISHbcHOOKbcLINE BELOW",
   "bcSTROKEbcTOPBARwETAwROKEN LvCw WITH ACUTEbcBARbcCARONbdEDILLAbj AND ACUTEbdIRCUMFLEX",
   "bcDOT ABOVEbcHOOKbcPALATAL HOOKbcSTROKEwHIwLOSED INSULAR GwONwUATRILLObe WITH COMMAvD",
   "w WITH CARONbdEDILLAbdIRCUMFLEX BELOWbcDOT ABOVEbgBELOWbcHOOKbcLINE BELOW",
   "bcSHORT STROKE OVERLAYbdMALL LETTER Zbq WITH CARONbdTROKEbcTOPBARwZx WITH CARONvEw WITH ACUTE",
   "bcBREVEbcCARONbdEDILLAbj AND BREVEbdIRCUMFLEXbm AND ACUTEbrDOT BELOWbrGRAVEbrHOOK ABOVE",
   "brTILDEbnBELOWbcDIAERESISbdOT ABOVEbgBELOWbeUBLE GRAVEbcGRAVEbcHOOK ABOVEbcINVERTED BREVE",
   "bcMACRONbi AND ACUTEbnGRAVEbcOGONEKbcSTROKEbcTILDEbh BELOWwGYPTOLOGICAL AINbkLEFwNGwSHwTxHwZH",
   "y REVERSEDzWITH CARONvFw WITH DOT ABOVEbcHOOKbcSTROKEvGw WITH ACUTEbcBREVEbcCARONbdEDILLA",
   "bdIRCUMFLEXbcDOT ABOVEbcHOOKbcMACRONbcOBLIQUE STROKEbcSTROKEwAMMAwHAwLOTTAL AbdIbdSTOPbdUvH",
   "w WITH BREVE BELOWbcCARONbdEDILLAbdIRCUMFLEXbcDESCENDERbdIAERESISbdOT ABOVEbgBELOWbcHOOK",
   "bcSTROKEwALF HwENGwWAIRvIw WITH ACUTEbcBREVEbcCARONbdIRCUMFLEXbcDIAERESISbl AND ACUTE",
   "bdOT ABOVEbgBELOWbeUBLE GRAVEbcGRAVEbcHOOK ABOVEbcINVERTED BREVEbcMACRONbcOGONEKbcSTROKE",
   "bcTILDEbh BELOWwNSULAR DbdFbdGbdRbdSbdTwOTAwSvJw WITH CIRCUMFLEXbdROSSED-TAILbcSTROKEvK",
   "w WITH ACUTEbcCARONbdEDILLAbcDESCENDERbdIAGONAL STROKEbdOT BELOWbcHOOKbcLINE BELOW",
   "bcOBLIQUE STROKEbcSTROKEbi AND DIAGONAL STROKEvLw WITH ACUTEbcBARbdELTbcCARONbdEDILLA",
   "bdIRCUMFLEX BELOWbcDOT BELOWbl AND MACRONbeUBLE BARbcHIGH STROKEbcLINE BELOWbcMIDDLE DOT",
   "bjTILDEbcSMALL LETTER JbdTROKEwJvMw WITH ACUTEbcDOT ABOVEbgBELOWbcHOOKwIDDLE SCOTS S",
   "bb-WELSH LLbiVvNw WITH ACUTEbcCARONbdEDILLAbdIRCUMFLEX BELOWbcDESCENDERbdOT ABOVEbgBELOW",
   "bcGRAVEbcLEFT HOOKbdINE BELOWbdONG RIGHT LEGbcOBLIQUE STROKEbcSMALL LETTER JbcTILDEwJvO",
   "w WITH ACUTEbcBREVEbcCARONbdIRCUMFLEXbm AND ACUTEbrDOT BELOWbrGRAVEbrHOOK ABOVEbrTILDE",
   "bcDIAERESISbl AND MACRONbdOT ABOVEbl AND MACRONbgBELOWbeUBLE ACUTEbjGRAVEbcGRAVEbcHOOK ABOVE",
   "beRNbg AND ACUTEblDOT BELOWblGRAVEblHOOK ABOVEblTILDEbcINVERTED BREVEbcLONG STROKE OVERLAY",
   "beOPbcMACRONbi AND ACUTEbnGRAVEbdIDDLE TILDEbcOGONEKbi AND MACRONbcSTROKEbi AND ACUTEbcTILDE",
   "bh AND ACUTEbmDIAERESISbmMACRONwIwLD POLISH OwMEGAwOwPEN EbaOwUvPw WITH ACUTEbcDOT ABOVE",
   "bcFLOURISHbcHOOKbcSQUIRREL TAILbdTROKEbi THROUGH DESCENDERvQw WITH DIAGONAL STROKE",
   "bcSTROKE THROUGH DESCENDERvRw ROTUNDAxWITH ACUTEbcCARONbdEDILLAbcDOT ABOVEbgBELOW",
   "bl AND MACRONbeUBLE GRAVEbcINVERTED BREVEbcLINE BELOWbcOBLIQUE STROKEbcSTROKEbcTAIL",
   "wEVERSED C WITH DOTbeEbeHALF HbeOPEN EwUM ROTUNDAvSw WITH ACUTEbh AND DOT ABOVEbcCARON",
   "bh AND DOT ABOVEbdEDILLAbdIRCUMFLEXbdOMMA BELOWbcDOT ABOVEbgBELOWbl AND DOT ABOVEbcHOOK",
   "bcOBLIQUE STROKEbcSHORT STROKE OVERLAYbdWASH TAILwALTILLOwCHWAxRIPT GwHARP SwIGMOID S",
   "wMALL CAPITAL IbbQ WITH HOOK TAILvTw WITH CARONbdEDILLAbdIRCUMFLEX BELOWbdOMMA BELOW",
   "bcDIAGONAL STROKEbdOT ABOVEbgBELOWbcHOOKbcLINE BELOWbcRETROFLEX HOOKbcSTROKEwHORN",
   "ba WITH STROKEbm THROUGH DESCENDERwONE FIVEbaSIXbaTWOwRESILLOwURNED AbdLPHAbcHbcINSULAR GbcK",
   "bcLbcMbcTbcVwZvUw BARxWITH ACUTEbcBREVEbcCARONbdIRCUMFLEXbm BELOWbcDIAERESISbl AND ACUTE",
   "bqCARONbqGRAVEbqMACRONbmBELOWbdOT BELOWbeUBLE ACUTEbjGRAVEbcGRAVEbcHOOK ABOVEbeRNbg AND ACUTE",
   "blDOT BELOWblGRAVEblHOOK ABOVEblTILDEbcINVERTED BREVEbcMACRONbi AND DIAERESISbcOGONEK",
   "bcRING ABOVEbcSTROKEbcTILDEbh AND ACUTEbiBELOWwPSILONvVw WITH DIAGONAL STROKEbdOT BELOWbcHOOK",
   "bcTILDEwENDwISIGOTHIC ZwOLAPUK AEbdOEbdUEwYvWw WITH ACUTEbcCIRCUMFLEXbcDIAERESISbdOT ABOVE",
   "bgBELOWbcGRAVEbcHOOKwYNNvXw WITH DIAERESISbdOT ABOVEvYw WITH ACUTEbcCIRCUMFLEXbcDIAERESIS",
   "bdOT ABOVEbgBELOWbcGRAVEbcHOOKbg ABOVEbcLOOPbcMACRONbcSTROKEbcTILDEwOGHvZw WITH ACUTEbcCARON",
   "bdIRCUMFLEXbcDESCENDERbdOT ABOVEbgBELOWbcHOOKbcLINE BELOWbcPALATAL HOOKbcSTROKEbdWASH TAIL",
   "pIGATURE IJxOEhROSSgEPIGRAPHIC LETTER ARCHAIC MyI LONGAzNVERTED MyREVERSED FbhPySIDEWAYS I",
   "gLETTER AINoLVEOLAR CLICKnBIDENTAL PERCUSSIVEpLABIAL CLICKwPERCUSSIVEnDENTAL CLICK",
   "nGLOTTAL STOPz WITH STROKEnINVERTED GLOTTAL STOPbi WITH CURLboSTROKEnLATERAL CLICK",
   "nPHARYNGEAL VOICED FRICATIVEnRETROFLEX CLICKbc WITH RETROFLEX HOOKpVERSED ESH LOOP",
   "wGLOTTAL STOP WITH STROKEnSINOLOGICAL DOToMALL CAPITAL AbcEbbBbcARRED BbbCbbDbbEbcTHbcZHbbF",
   "bbGbc WITH HOOKbbHbbIbcNVERTED RbbJbbKbbLbc WITH BELTbiSTROKEbbMbbNbbObcEbcPEN ObcUbbPbbQbbR",
   "bc WITH RIGHT LEGbcEVERSED NbkRbcUMbbSbbTbcURNED EbiGbiKbiMbiRbbUbbVbbWbbYbbZoTRETCHED C",
   "y WITH CURLnTWO WITH STROKEnVOICED LARYNGEAL SPIRANTnWYNNnYR",
   "gSMALL CAPITAL LETTER I WITH STROKEbbU WITH STROKEmLETTER Au REVERSED-SCHWAvWITH ACUTEbaBREVE",
   "bf AND ACUTEbkDOT BELOWbkGRAVEbkHOOK ABOVEbkTILDEbaCARONbbIRCUMFLEXbk AND ACUTEbpDOT BELOW",
   "bpGRAVEbpHOOK ABOVEbpTILDEbaDIAERESISbj AND MACRONbbOT ABOVEbj AND MACRONbeBELOWbcUBLE GRAVE",
   "baGRAVEbaHOOK ABOVEbaINVERTED BREVEbaMACRONbaOGONEKbaRETROFLEX HOOKbbIGHT HALF RINGbcNG ABOVE",
   "bk AND ACUTEbfBELOWbaSTROKEbaTILDEuAuEv WITH ACUTEbbMACRONuLPHAy WITH RETROFLEX HOOK",
   "uNGLICANA WuOuUuVv WITH HORIZONTAL BARuYtBu WITH DOT ABOVEbeBELOWbaFLOURISHbaHOOKbaLINE BELOW",
   "baMIDDLE TILDEbaPALATAL HOOKbaSTROKEbaTOPBARuARRED ALPHAbaEbaOvSELINE ESHuETAuLACKLETTER EbfO",
   "bg WITH STROKEuOTTOM HALF OuROKEN LtCu WITH ACUTEbaBARbaCARONbbEDILLAbh AND ACUTEbbIRCUMFLEX",
   "bbURLbaDOT ABOVEbaHOOKbaPALATAL HOOKbaRETROFLEX HOOKbaSTROKEuHIw WITH LOW LEFT SERIF",
   "bgRIGHT RINGuLOSED INSULAR GbaOMEGAbbPEN EbaREVERSED OPEN EuONuUATRILLObc WITH COMMAtD",
   "u WITH CARONbbEDILLAbbIRCUMFLEX BELOWbbURLbaDOT ABOVEbeBELOWbaHOOKbe AND TAILbaLINE BELOW",
   "baMIDDLE TILDEbaPALATAL HOOKbaSHORT STROKE OVERLAYbbTROKEbaTAILbbOPBARuB DIGRAPHuELTA",
   "vZH DIGRAPHbf WITH PALATAL HOOKblRETROFLEX HOOKuOTLESS IbbJbc WITH STROKEbo AND HOOKvUBLE R",
   "bb WITH CROSSED-TAILbaTHORNbaWYNNuUMuZv DIGRAPHbd WITH CURLbjRETROFLEX HOOKwWITH CARONtE",
   "u WITH ACUTEbaBREVEbaCARONbbEDILLAbh AND BREVEbbIRCUMFLEXbk AND ACUTEbpDOT BELOWbpGRAVE",
   "bpHOOK ABOVEbpTILDEblBELOWbaDIAERESISbbOT ABOVEbeBELOWbcUBLE GRAVEbaFLOURISHbaGRAVE",
   "baHOOK ABOVEbaINVERTED BREVEbaMACRONbg AND ACUTEblGRAVEbaNOTCHbaOGONEKbaRETROFLEX HOOK",
   "baSTROKEbaTILDEbf BELOWuGYPTOLOGICAL AINbiLEFuNGw WITH CROSSED-TAILbcPALATAL HOOKuSH",
   "w WITH CURLbcDOUBLE BARbm AND CURLbcPALATAL HOOKbcRETROFLEX HOOKuTvHuZHw REVERSEDxWITH CARON",
   "bdURLbcPALATAL HOOKbcRETROFLEX HOOKbcTAILtFu WITH DOT ABOVEbaHOOKbaMIDDLE TILDEbaPALATAL HOOK",
   "baSTROKEuENG DIGRAPHbf WITH TRILLtGu WITH ACUTEbaBREVEbaCARONbbEDILLAbbIRCUMFLEXbaDOT ABOVE",
   "baHOOKbaMACRONbaOBLIQUE STROKEbaPALATAL HOOKbaSTROKEuAMMAuHAuLOTTAL AbbIbbSTOPbbUtH",
   "u WITH BREVE BELOWbaCARONbbEDILLAbbIRCUMFLEXbaDESCENDERbbIAERESISbbOT ABOVEbeBELOWbaHOOK",
   "baLINE BELOWbaPALATAL HOOKbaSTROKEuALF HuENGx WITH HOOKuVtIu WITH ACUTEbaBREVEbaCARON",
   "bbIRCUMFLEXbaDIAERESISbj AND ACUTEbbOT BELOWbcUBLE GRAVEbaGRAVEbaHOOK ABOVEbaINVERTED BREVE",
   "baMACRONbaOGONEKbaRETROFLEX HOOKbaSTROKEbg AND RETROFLEX HOOKbaTILDEbf BELOWuNSULAR DbbFbbG",
   "bbRbbSbbTvVERTED ALPHAbcOEuOTAx WITH STROKEwIFIED EuStJu WITH CARONbbIRCUMFLEXbbROSSED-TAIL",
   "baSTROKEtKu WITH ACUTEbaCARONbbEDILLAbaDESCENDERbbIAGONAL STROKEbbOT BELOWbaHOOKbaLINE BELOW",
   "baOBLIQUE STROKEbaPALATAL HOOKbaSTROKEbg AND DIAGONAL STROKEuRAtLu WITH ACUTEbaBARbbELT",
   "be AND PALATAL HOOKbaCARONbbEDILLAbbIRCUMFLEX BELOWbbURLbaDOT BELOWbj AND MACRONbcUBLE BAR",
   "bhMIDDLE TILDEbaFISHHOOKbaHIGH STROKEbaINVERTED LAZY SbaLINE BELOWbaMIDDLE DOTbhRINGbhTILDE",
   "baPALATAL HOOKbaRETROFLEX HOOKbo AND BELTbaSTROKEuAMBDA WITH STROKEuENIS FvZH",
   "x WITH RETROFLEX HOOKuJuONG Sz WITH DIAGONAL STROKEbgOT ABOVEbfHIGH STROKEuS DIGRAPHuUM",
   "uZ DIGRAPHtMu WITH ACUTEbaCROSSED-TAILbaDOT ABOVEbeBELOWbaHOOKbaMIDDLE TILDEbaPALATAL HOOK",
   "uIDDLE SCOTS Sz-WELSH LLbgVuUMtNu PRECEDED BY APOSTROPHEvWITH ACUTEbaCARONbbEDILLA",
   "bbIRCUMFLEX BELOWbbROSSED-TAILbbURLbaDESCENDERbbOT ABOVEbeBELOWbaGRAVEbaLEFT HOOKbbINE BELOW",
   "bbONG RIGHT LEGbaMIDDLE TILDEbaOBLIQUE STROKEbaPALATAL HOOKbaRETROFLEX HOOKbaTILDEuJuUMtO",
   "u WITH ACUTEbaBREVEbaCARONbbIRCUMFLEXbk AND ACUTEbpDOT BELOWbpGRAVEbpHOOK ABOVEbpTILDE",
   "baDIAERESISbj AND MACRONbbOT ABOVEbj AND MACRONbeBELOWbcUBLE ACUTEbhGRAVEbaGRAVEbaHOOK ABOVE",
   "bcRNbe AND ACUTEbjDOT BELOWbjGRAVEbjHOOK ABOVEbjTILDEbaINVERTED BREVEbaLONG STROKE OVERLAY",
   "bcOPbcW RING INSIDEbaMACRONbg AND ACUTEblGRAVEbaOGONEKbg AND MACRONbaRETROFLEX HOOKbaSTROKE",
   "bg AND ACUTEbaTILDEbf AND ACUTEbkDIAERESISbkMACRONuIuLD POLISH OuMEGAuOuPEN E",
   "z WITH RETROFLEX HOOKyOz WITH RETROFLEX HOOKbfSTROKEzEuUtPu WITH ACUTEbaDOT ABOVEbaFLOURISH",
   "baHOOKbaMIDDLE TILDEbaPALATAL HOOKbaSQUIRREL TAILbbTROKEbg THROUGH DESCENDERuHItQ",
   "u WITH DIAGONAL STROKEbaHOOKbe TAILbaSTROKE THROUGH DESCENDERuP DIGRAPHtRu ROTUNDAvWITH ACUTE",
   "baCARONbbEDILLAbbROSSED-TAILbaDOT ABOVEbeBELOWbj AND MACRONbcUBLE GRAVEbaFISHHOOK",
   "bi AND MIDDLE TILDEbnPALATAL HOOKbaINVERTED BREVEbaLINE BELOWbbONG LEGbaMIDDLE TILDE",
   "baOBLIQUE STROKEbaPALATAL HOOKbaSTROKEbaTAILzOUT HANDLEuAMS HORNuEVERSED Cbd WITH DOTbcEbdNG",
   "bcHALF HbcKbcOPEN Ebi WITH HOOKboRETROFLEX HOOKbcR WITH FISHHOOKbcSCRIPT GuUMw ROTUNDAtS",
   "u WITH ACUTEbf AND DOT ABOVEbaCARONbf AND DOT ABOVEbbEDILLAbbIRCUMFLEXbbOMMA BELOWbbURL",
   "baDOT ABOVEbeBELOWbj AND DOT ABOVEbaHOOKbaMIDDLE TILDEbaOBLIQUE STROKEbaPALATAL HOOK",
   "baSHORT STROKE OVERLAYbbWASH TAILuAKHA YATvLTILLOuCHWAy WITH HOOKbeRETROFLEX HOOKvRIPT G",
   "bb WITH CROSSED-TAILbaRbb WITH RINGuHARP SuIDEWAYS DIAERESIZED UbcObd WITH STROKEbdPEN O",
   "bcTURNED MbcUvGMOID SuQUAT REVERSED ESHuTIRRUP RtTu WITH CARONbbEDILLAbbIRCUMFLEX BELOW",
   "bbOMMA BELOWbbURLbaDIAERESISbdGONAL STROKEbbOT ABOVEbeBELOWbaHOOKbe AND RETROFLEX HOOK",
   "baLINE BELOWbaMIDDLE TILDEbaPALATAL HOOKbaRETROFLEX HOOKbaSTROKEuAILLESS PHI",
   "uC DIGRAPH WITH CURLuESH DIGRAPHbf WITH PALATAL HOOKblRETROFLEX HOOKuH WITH STRIKETHROUGHvORN",
   "y WITH STROKEbk THROUGH DESCENDERuONE FIVEySIXyTWOvP HALF OuRESILLOuS DIGRAPH",
   "bd WITH RETROFLEX HOOKuUMvRNED AbbEbbLPHAbaDELTAbaEbaGbaHbb WITH FISHHOOKbp AND TAILbaI",
   "bbNSULAR GbaKbaLbaMbb WITH LONG LEGbaO OPEN-Obi WITH STROKEbbEbc WITH HORIZONTAL STROKE",
   "biSTROKEbbPEN EbaRbb WITH HOOKbhLONG LEGbp AND RETROFLEX HOOKbhMIDDLE TILDEbhPALATAL HOOK",
   "bhTAILbaTbb WITH CURLbaUIbaVbaWbaYbb WITH BELTuZtUu BARy WITH SHORT RIGHT LEGvWITH ACUTE",
   "baBREVEbaCARONbbIRCUMFLEXbk BELOWbaDIAERESISbj AND ACUTEboCARONboGRAVEboMACRONbkBELOW",
   "bbOT BELOWbcUBLE ACUTEbhGRAVEbaGRAVEbaHOOK ABOVEbcRNbe AND ACUTEbjDOT BELOWbjGRAVE",
   "bjHOOK ABOVEbjTILDEbaINVERTED BREVEbaLEFT HOOKbaMACRONbg AND DIAERESISbaOGONEK",
   "baRETROFLEX HOOKbbING ABOVEbaSHORT RIGHT LEGbbTROKEbaTILDEbf AND ACUTEbgBELOWuEuIuMuOuPSILON",
   "ba WITH STROKEtVu WITH CURLbaDIAGONAL STROKEbbOT BELOWbaHOOKbaPALATAL HOOKbaRIGHT HOOKbaTILDE",
   "uENDuISIGOTHIC ZuOLAPUK AEbbOEbbUEuYtWu WITH ACUTEbaCIRCUMFLEXbaDIAERESISbbOT ABOVEbeBELOW",
   "baGRAVEbaHOOKbaRING ABOVEtXu WITH DIAERESISbbOT ABOVEbaLONG LEFT LEGbn AND LOW RIGHT RING",
   "boWITH SERIFbcW RIGHT RINGbaPALATAL HOOKtYu WITH ACUTEbaCIRCUMFLEXbaDIAERESISbbOT ABOVE",
   "beBELOWbaGRAVEbaHOOKbe ABOVEbaLOOPbaMACRONbaRING ABOVEbaSHORT RIGHT LEGbbTROKEbaTILDEuOGHtZ",
   "u WITH ACUTEbaCARONbbIRCUMFLEXbbURLbaDESCENDERbbOT ABOVEbeBELOWbaHOOKbaLINE BELOW",
   "baMIDDLE TILDEbaPALATAL HOOKbaRETROFLEX HOOKbaSTROKEbbWASH TAILnIGATURE FFxIxLwIwLvIJ",
   "vLONG S TvOEvSThUBSCRIPT SMALL LETTER AbdEbdHbdIbdJbdKbdLbdMbdNbdObdPbdRbdSbeCHWAbdTbdUbdVbdX",
   "bEAF FLUTTERING IN WINDeY GREENcDGERcFT AND LOWER AND RIGHT TRIANGULAR THREE QUARTERS BLOCK",
   "pONE EIGHTH BLOCKjRIGHT DOUBLE TURNSTILEpTACKqRIANGULAR HALF BLOCK",
   "jUPPER AND RIGHT TRIANGULAR THREE QUARTERS BLOCKpONE EIGHTH BLOCKhGER BUBBLEiLE BRACKET",
   "s WITH DOTgRC LESS-THAN BRACKEThROW WITH CIRCLED PLUSqSMALL CIRCLE",
   "fBARB DOWN RIGHT BARB DOWN HARPOONbaUP HARPOONkUP RIGHT BARB DOWN HARPOONyUP HARPOON",
   "gLACK LENTICULAR BRACKETlTORTOISE SHELL BRACKETfCEILINGgLOSED ENTRYgORNER BRACKET",
   "gURLY BRACKETs LOWER HOOKtMIDDLE PIECEtUPPER HOOKfDOTTED SUBSTITUTION BRACKET",
   "hUBLE ANGLE BRACKETmPARENTHESISmQUOTATION MARKmWIGGLY FENCEfFISH TAILhVE EIGHTHS BLOCKgLOOR",
   "fHALF BLACK CIRCLEqSTARmOCKkCIRCLEq WITH DOTwFOUR DOTSwTHREE DOTSxWO DOTSkFOLDER",
   "kINVERSE MEDIUM SHADE AND RIGHT HALF BLOCKkMEDIUM SHADEkRUNNING MANhND TELEPHONE RECEIVER",
   "fLOW PARAPHRASE BRACKETgUGGAGEfMULTIMAPfNORMAL FACTOR SEMIDIRECT PRODUCTfONE EIGHTH BLOCK",
   "jQUARTER BLOCKgUTER JOINfPARENTHESISq EXTENSIONrLOWER HOOKrUPPER HOOKfRAISED OMISSION BRACKET",
   "gIGHT ARROWq THROUGH SMALL CIRCLErWITH DOUBLE VERTICAL STROKEwSTROKEwVERTICAL STROKE",
   "lBLACK ARROWlDOUBLE ARROWx WITH STROKEbdVERTICAL STROKElOPEN-HEADED ARROWlSANS-SERIF ARROW",
   "lTRIANGLE-HEADED ARROWlWAVE ARROWmHITE ARROWfS-SHAPED BAG DELIMITERgEMIDIRECT PRODUCT",
   "hVEN EIGHTHS BLOCKgIDEWAYS U BRACKEThNGLE QUOTATION MARKgPEECH BUBBLEgQUARE BRACKET",
   "t EXTENSIONuLOWER CORNERuUPPER CORNERuWITH DOUBLE STROKEzQUILLzSTROKEzTICK IN BOTTOM CORNER",
   "bhTOP CORNERzUNDERBARgUBSTITUTION BRACKETfTACKgHIRD WHITE RIGHT POINTING INDEXhOUGHT BUBBLE",
   "hREE EIGHTHS BLOCKlQUARTERS BLOCKgORTOISE SHELL BRACKETgRANSPOSITION BRACKET",
   "hIANGLE BESIDE VERTICAL BARlULAR ONE QUARTER BLOCKfVERTICAL BAR WITH QUILLpOX LINE",
   "fWHITE CORNER BRACKETmURLY BRACKETlLENTICULAR BRACKETlPARENTHESISlSQUARE BRACKET",
   "lTORTOISE SHELL BRACKETgIGGLY FENCEgRITING HANDe-FACING ARMENIAN ETERNITY SIGNmFIST",
   "mSVASTI SIGNx WITH DOTSfHANDED INTERLACED PENTAGRAMfPOINTING ANGLE BRACKET",
   "oCURVED ANGLE BRACKEToDOUBLE ANGLE QUOTATION MARKoMAGNIFYING GLASS",
   "fSHADED WHITE RIGHTWARDS ARROWgIDE ARC ANTICLOCKWISE ARROWfTO-RIGHT EMBEDDINGoISOLATEoMARK",
   "oOVERRIDEeWARDS ARROWp ABOVE ALMOST EQUAL TOwREVERSE ALMOST EQUAL TObeTILDE OPERATOR",
   "wSHORT RIGHTWARDS ARROWwTILDE OPERATORrND UPPER AND LOWER ONE EIGHTH BLOCKqFROM BAR",
   "y TO BLACK DIAMONDqOVER RIGHTWARDS ARROWqTHROUGH LESS-THANySUBSETyXrO BAR",
   "w OVER RIGHTWARDS ARROW TO BARuLACK DIAMONDqWITH DOTTED STEMxUBLE VERTICAL STROKE",
   "vEQUILATERAL ARROWHEADvHOOKvLARGE TRIANGLE ARROWHEADwOOPvMEDIUM TRIANGLE ARROWHEAD",
   "vNOTCHED TAILvPLUS BELOWvSMALL EQUILATERAL ARROWHEADbbTRIANGLE ARROWHEADwTROKEvTAIL",
   "z WITH DOUBLE VERTICAL STROKEbfVERTICAL STROKEwIP DOWNWARDSzUPWARDSvVERTICAL STROKEp-TAIL",
   "kBACK-TILTED SHADOWED WHITE ARROWlLACK ARROWqCIRCLED WHITE ARROWlOTTOM-SHADED WHITE ARROW",
   "kCOMPRESSED ARROWkDASHED ARROWlOUBLE ARROWw FROM BARxWITH STROKEbcVERTICAL STROKEw-TAIL",
   "rDASH ARROWkFINGER-POST ARROWlRONT-TILTED SHADOWED WHITE ARROWkHAND",
   "mRPOON OVER RIGHTWARDS HARPOONsWITH BARB DOWN ABOVE RIGHTWARDS HARPOON WITH BARB DOWN",
   "bhBELOW LONG DASHbhFROM BARbhTO BARbgWARDSbcUP ABOVE LEFTWARDS HARPOON WITH BARB DOWN",
   "bmONG DASHblRIGHTWARDS HARPOON WITH BARB UPbfFROM BARbfTO BARbeWARDSlEAVY ARROW",
   "qCOMPRESSED ARROWkLEFT-SHADED WHITE ARROWkOPEN-HEADED ARROWkPAIRED ARROWSkQUADRUPLE ARROW",
   "kRIGHT-SHADED WHITE ARROWlOCKETkSANS-SERIF ARROWlQUARED ARROWnIGGLE ARROW",
   "kTOP SHADED WHITE ARROWlRIANGLE ARROWHEADs-HEADED ARROW",
   "bf OVER RIGHTWARDS TRIANGLE-HEADED ARROWbgTO BARbgWITH BOLD SHAFTblDOUBLE HORIZONTAL STROKE",
   "bsVERTICAL STROKEblHEAVY SHAFTblLONG TIP DOWNWARDSbuUPWARDSblMEDIUM SHAFTblNARROW SHAFT",
   "blVERY HEAVY SHAFTbaDASHED ARROWbaPAIRED ARROWSnPLE ARROWrDASH ARROWlWO HEADED ARROW",
   "n-HEADED ARROW FROM BARbbWITH DOUBLE VERTICAL STROKEbgTAILbk WITH DOUBLE VERTICAL STROKE",
   "bqVERTICAL STROKEbhRIANGLE ARROWHEADSbgVERTICAL STROKEvTRIPLE DASH ARROWkWAVE ARROW",
   "lHITE ARROWv WITHIN TRIANGLE ARROWHEADcGcMONcOdPARDcPCHA CONSONANT SIGN KxANGwLwMwNxYIN-DOwP",
   "wRwThDIGIT EIGHTnFIVEoOURnNINEnONEnSEVENoIXnTHREEoWOnZEROhLETTER AoBApLAoCApHAoDApDApZAoFApLA",
   "oGApLAoHApLAoJAoKApHApLAoLAoMApLAoNApGApYAoPApHApLAoRAoSApHAoTApHApSAqHApTAqHAoVAoWAoYA",
   "hPUNCTUATION CER-WAtNYET THYOOM TA-ROLtTA-ROLuSHOOKz CER-WAhSIGN NUKTAmRANiUBJOINED LETTER RA",
   "yYAhVOWEL SIGN AAsEsIsOtOsUtUcSS-THAN ABOVE DOUBLE-LINE EQUAL ABOVE GREATER-THAN",
   "qGREATER-THAN ABOVE DOUBLE-LINE EQUALqLEFTWARDS ARROWqSIMILAR ABOVE GREATER-THANyOR EQUAL",
   "rLANTED EQUAL ABOVE GREATER-THAN ABOVE SLANTED EQUALlND NOT APPROXIMATE",
   "oSINGLE-LINE NOT EQUAL TOkBUT NOT EQUAL TOvIVALENT TOkCLOSED BY CURVEz ABOVE SLANTED EQUAL",
   "kEQUAL TO OR GREATER-THANkOR APPROXIMATEnEQUAL TOqIVALENT TOnGREATER-THANnSLANTED EQUAL TO",
   "bd WITH DOT ABOVEbs RIGHTbnINSIDElVER EQUAL TOkSIGNkWITH CIRCLE INSIDEpDOT",
   "pQUESTION MARK ABOVEcVEL SLIDERbFbIBRAcGATURE OPEN ET ORNAMENTdHT CHECK MARK",
   "gEIGHT SPOKED ASTERISKgFIVE POINTED BLACK STARlSPOKED ASTERISKhOUR POINTED BLACK CUSPzSTAR",
   "gGREEK CROSSgLEFT TORTOISE SHELL BRACKET ORNAMENTgRAILhIGHT TORTOISE SHELL BRACKET ORNAMENT",
   "gSALTIREhHADEhIX SPOKED ASTERISKgTHREE POINTED BLACK STARhWELVE POINTED BLACK STAR",
   "gVERTICAL BARgWHITE SQUAREfNINGj MOODo BUBBLEcMBU DIGIT EIGHTmFIVEnOURmNINEmONEmSEVENnIX",
   "mTHREEnWOmZEROgEXCLAMATION MARKgLETTER BAoHAnCAoHAnDAoHAnGAoHAoYANnHAnJAoHAnKAoHAnLAnMAnNAoGA",
   "nPAoHAnRAnSAoHAoSAnTAoHAoRAnWAnYApNgQUESTION MARKgSIGN KEMPHRENGlLOOlMUKPHRENGlSA-I",
   "hMALL LETTER ANUSVARAtKAtLAtMAtNAuGAtPAtRAtTAhUBJOINED LETTER RAxWAxYAgVOWEL SIGN AsIsUrEsErI",
   "rOsOrUl-CARRIER LETTERdITED LIABILITY SIGNcNE FEEDfINTEGRATION NOT INCLUDING THE POLE",
   "rWITH RECTANGULAR PATH AROUND POLEwSEMICIRCULAR PATH AROUND POLEfSEPARATORfTABULATIONp SET",
   "eAR A SIGN A028Bp100-102q20Bq31Cp301r2r3r4r5r6r7r8r9AsBsCq10r1r2r3AsBsCr4r5r6r7r8r9q20r1r2r3",
   "r4r5r6r7r8r9q30r1r2r3r4r5r6r7r8r9q40r1r2r3r4r5r6r7r8r9q50r1r2r3r4r5r6r7r8r9q60r1r2r3r4r5r6r7",
   "r8r9q70r1p400-VASr1-VASr2-VASr3-VASr4-VASr5-VASr6-VASr7-VASr8-VASr9-VASq10-VASr1-VASr2-VAS",
   "r3-VASr4-VASr5-VASr6-VASr7-VASr8-VASp501r2r3r4r5r6r8r9q10r1r2r3r5r6q20r1r3r4r5r6r7r8r9q30r1r2",
   "r4r5r6r7r8r9q40r1r2r5r7r8r9q50r1r2r3r4r5r6r7r9q63r4r5r6r8r9q70r1r2r3r4r5r6r7r8r9q80r1r2r3r4r5",
   "r6r7r8r9q91r2r4r5r6r8p600r1r2r3r4r6r8r9q10r1r2r3r4r5r6r7r8r9q20r1r2r3r4r6r7r8r9q34r7r8q40r2r3",
   "r4r5r6r8r9q51r2r3r4r5r6r7r8r9q60r1r2r3r4p701 Ar2 Br3 Dr4 Er5 Fr6 Hr7 Jr8 Kr9 Ls-2 L2t3 L3",
   "t4 L4t6 L6q10 Wr1 Xr2 Yr3 OMEGAr4 ABBr5 BBr7 DDq26 EYYYq32 JEp800r1r2r3r4r5r6r7pB001s2s3s4s5",
   "s6s7s8s9r10s1s3s6s7r20s1tFtMs2tFtMs3tMs4s6s7s8s9r30s1s4s7s8s9r40s1s4s5s6s7s8s9r50s1s3s4s5s6s7",
   "s8s9r60s1s5s6s7s9r70s3s4s6s7s8s9r80s1s2s5s6s7q118r20s2s3r31AtBr64r71r80s8r91",
   "hB IDEOGRAM B100 MANv2 WOMANv4 DEERv5 EQUIDwF MAREwM STALLIONv6F EWEwM RAMv7F SHE-GOAT",
   "wM HE-GOATv8F SOWwM BOARv9F COWwM BULLu20 WHEATv1 BARLEYv2 OLIVEv3 SPICEv5 CYPERUSu30 OIL",
   "v1 WINEv2u40 BRONZEv1 GOLDv2v5 WOOLv6u50v1 HORNv2v3v4v7v8v9 CLOTHu60v1v2 GARMENTv3 ARMOURv4v5",
   "v6v7v8v9u70v1v2v3 MONTHv4v6 TREEv7v8v9u80v1v2v3v4v5v9u90v1 HELMETt220 FOOTSTOOLv5 BATHTUB",
   "u30 SPEARv1 ARROWv2v3 SWORDv4v6u40 WHEELED CHARIOTv1 CHARIOTv2 CHARIOT FRAMEv3 WHEELv5v6v8v9",
   "u51v2v3v4 DARTv5v6v7v8v9sVESSEL B155ba200bc1bc2bc3bc4bc5bc6bc7bc8bc9bb10bc1bc2bc3bc4bc5bc6bc7",
   "bc8bc9bb21bc2bc6bc7bc8bc9bb50ba305jMONOGRAM B127 KAPOv8 KANAKOu33 AREPAv5 MERIu56 TURO2",
   "t247 DIPTEjSYLLABLE B001 DAv2 ROv3 PAv4 TEv5 TOv6 NAv7 DIv8 Av9 SEu10 Uv1 POv2 SOv3 MEv4 DO",
   "v5 MOv6 QAv7 ZAu20 ZOv1 QIv3 MUv4 NEv5 A2v6 RUv7 REv8 Iv9 PU2u30 NIv1 SAv2 QOv3 RA3v6 JOv7 TI",
   "v8 Ev9 PIu40 WIv1 SIv2 WOv3 A3v4 KEv5 DEv6 JEv8 NWAu50 PUv1 DUv2 NOv3 RIv4 WAv5 NUv7 JAv8 SU",
   "v9 TAu60 RAv1 Ov2 PTEv5 JUv6 TA2v7 KIv8 RO2v9 TUu70 KOv1 DWEv2 PEv3 MIv4 ZEv5 WEv6 RA2v7 KA",
   "v8 QEu80 MAv1 KUv5 AUv7 TWEu90 DWOv1 TWOlMBOL B018t9s22s34s47t9s56s63t4s79s82t3t6t9dK SYMBOL",
   "eED PAPERCLIPScON FACEcPSeTICKcRA SIGNcSU LETTER AnEmBAmCAnHAmDAnZAmEnUmFAmGAnHAmHAnHAmImJA",
   "mKAnHAmLAmMAmNAnGAmOnEmPAnHAmSAnHAmTAnHAnONE MYA BOvCYAvJEUvNAvTIrNA POnSAoHAmUnEnHmWAmXAmYA",
   "nHAmZAnHAfPUNCTUATION COMMArFULL STOPcVRE TOURNOIS SIGNcZARDbLAMAbOBSTERcCKe WITH INK PEN",
   "eING-SHIFT ONEoZEROcGICAL ANDl WITH DOT ABOVEtUBLE OVERBARyUNDERBARrHORIZONTAL DASH",
   "rMIDDLE STEMrUNDERBARiORk OVERLAPPING LOGICAL ANDlWITH DOT ABOVEsUBLE OVERBARxUNDERBAR",
   "qHORIZONTAL DASHqMIDDLE STEMcLLIPOPcNG DASH FROM LEFT MEMBER OF DOUBLE VERTICALgIVISIONgRUM",
   "fLEFT RIGHT ARROWqDOUBLE ARROWkTACKjWARDS ARROWu FROM BARpDOUBLE ARROWbb FROM BAR",
   "pSQUIGGLE ARROWfRIGHT TACKkWARDS ARROWv FROM BARqDOUBLE ARROWbc FROM BARqSQUIGGLE ARROW",
   "cTION BOTTLEdUScUDLY CRYING FACEcVE HOTELfLETTERcW ASTERISKeBATTERYfRIGHTNESS SYMBOL",
   "eDOUBLE PRIME QUOTATION MARKeKAVYKAk WITH DOTeLINEdER BLADE SCISSORSgFIVE EIGHTHS BLOCK",
   "gHALF BLOCKlCIRCLElINVERSE WHITE CIRCLElMEDIUM SHADEgLEFT BALLPOINT PEN",
   "mLOCK DIAGONAL LOWER MIDDLE LEFT TO LOWER CENTREcbRIGHTbaUPPER CENTRE TO LOWER MIDDLE RIGHT",
   "bwRIGHTbqUPPER MIDDLE RIGHTbgLEFT TO LOWER CENTREbuMIDDLE RIGHTboUPPER MIDDLE RIGHT",
   "bgMIDDLE LEFT TO LOWER CENTREcbMIDDLE RIGHTcbRIGHTlCRAYONlFOUNTAIN PENlPAINTBRUSHmENCIL",
   "lQUADRANT CIRCULAR ARClSEMICIRCULAR ANTICLOCKWISE ARROWlTRIANGLErULAR MEDIUM SHADE",
   "gONE EIGHTH BLOCKkQUARTER BLOCKgRIGHT BLOCK DIAGONAL LOWER CENTRE TO LOWER MIDDLE RIGHT",
   "brUPPER MIDDLE RIGHTbxRIGHTbhLEFT TO LOWER MIDDLE RIGHTbpUPPER CENTREbvMIDDLE RIGHT",
   "bhMIDDLE LEFT TO UPPER CENTREccMIDDLE RIGHTccRIGHTbbUPPER MIDDLE LEFT TO UPPER CENTREccRIGHT",
   "mCORNER WITH DOTmDROP-SHADOWED WHITE SQUAREmPENCILmQUADRANT CIRCULAR ARC",
   "mSEMICIRCULAR CLOCKWISE ARROWnHADOWED WHITE CIRCLEbbSQUAREmTRIANGLEsULAR MEDIUM SHADE",
   "gSEVEN EIGHTHS BLOCKgTHREE EIGHTHS BLOCKmQUARTERS BLOCKhRIANGULAR ONE QUARTER BLOCKcZENGE",
   "h DIVIDED BY HORIZONTAL RULEbREcIcMcObUGGAGEcNGSbYCIAN LETTER ApNoBpHoDoEpNoGoHoIoJoKpKoLoMpM",
   "oNpNoPoQoRoSoTpHpToUoWoXoZcDIAN LETTER ApNoBoCoDoEpNoFoGoIoKoLpYoMoNpNoOoQoRoSpSoTpToUoVoY",
   "hTRIANGULAR MARKcING FACEaMACRONcGEdIC WANDdNETcHAJANI ABBREVIATION SIGNjLETTER AqBArHAqCArHA",
   "qDArDAsHArHAqEqGArHAqHAqIqJArHAqKArHAqLAqMAqNArNArYAqOqPArHAqRArRAqSAqTArHArTAsHAqUqVA",
   "kIGATURE SHRIjSECTION MARKkIGN NUKTAdJONG TILE AUTUMNnBACKpMBOOnCHRYSANTHEMUMnEAST WIND",
   "oIGHT OF BAMBOOSwCHARACTERSxIRCLESnFIVE OF BAMBOOSvCHARACTERSwIRCLESoOUR OF BAMBOOS",
   "vCHARACTERSwIRCLESnGREEN DRAGONnJOKERnNINE OF BAMBOOSvCHARACTERSwIRCLESoORTH WIND",
   "nONE OF BAMBOOSuCHARACTERSvIRCLESoRCHIDnPLUMnRED DRAGONnSEVEN OF BAMBOOSwCHARACTERSxIRCLES",
   "oIX OF BAMBOOSuCHARACTERSvIRCLESoOUTH WINDoPRINGoUMMERnTHREE OF BAMBOOSwCHARACTERSxIRCLES",
   "oWO OF BAMBOOSuCHARACTERSvIRCLESnWEST WINDoHITE DRAGONoINTERcKASAR ANGKAiEND OF SECTION",
   "iLETTER ApBApCApDApGApJApKApLApMApNAqGAqYApPApRApSApTApVApYAiPASSIMBANGiVOWEL SIGN EtItOtU",
   "cLAYALAM AU LENGTH MARKkDATE MARKlIGIT EIGHTqFIVErOURqNINEqONEqSEVENrIXqTHREErWOqZERO",
   "kFRACTION ONE EIGHTHxFIFTHyORTIETHxHALFxONE-HUNDRED-AND-SIXTIETHxQUARTERxSIXTEENTHxTENTH",
   "yWENTIETHtTHREE EIGHTIETHSzQUARTERSzSIXTEENTHSzTWENTIETHSkLETTER AsAsIsRCHAIC IIsUrBAsHArCA",
   "sHAtILLU KyLzLbaLyMyNzNyRRyYrDAsDAtHAsHAsOT REPHrEsErGAsHArHArIsIrJAsHArKAsHArLAsLAtLArMArNA",
   "sGAsNAtNAsYArOsOrPAsHArRAsRArSAsHAsSArTAsHAsTAtHAtTArUsUrVAsEDIC ANUSVARAsOCALIC LbaLzRbaRrYA",
   "kNUMBER ONE HUNDREDvTHOUSANDrTENkSIGN ANUSVARAqVAGRAHApCANDRABINDUqIRCULAR VIRAMA",
   "qOMBINING ANUSVARA ABOVEpPARApVERTICAL BAR VIRAMAqIRAMArSARGAkVOWEL SIGN AAwIwUvEwEvIwIvOwOvU",
   "wUvVOCALIC LbeLbdRbeRdE AND FEMALE SIGNfSIGNfWITH STROKE AND MALE AND FEMALE SIGNrSIGN",
   "dTESE CROSScMMOTHcNd AND WOMAN HOLDING HANDSeDANCINGeIN BUSINESS SUIT LEVITATINGhTUXEDO",
   "eWITH GUA PI MAOjTURBANdAT SIGNdDAIC AFFRICATION MARKiGEMINATION MARKiLETTER ABqDqGqHqINqKrSA",
   "qLqMqNqPqQqRqSrHrZqTrTqZpDUSHENNApHALQApINqTpKADpUSHENNAiPUNCTUATIONiVOCALIZATION MARKdGO",
   "dICHAEAN ABBREVIATION MARK ABOVEbdBELOWlLETTER AAYINtLEPHtYINsBETHtHETHsDALETHtHAMEDHsFE",
   "sGHIMELtIMELsHEuTHsJAYINtHAYINsKAPHtHAPHsLAMEDHsMEMsNUNsPEsQHOPHtOPHsRESHsSADHEuMEKHtHINtSHIN",
   "sTAWtETHtHAMEDHsWAWsXAPHtOPHsYODHsZAYINtHAYINlNUMBER FIVEsONEv HUNDREDsTENtWENTY",
   "lPUNCTUATION DOTba WITHIN DOTzUBLE DOT WITHIN DOTxFLEURONxLINE FILLERxSTARxTWO DOTSlSIGN UD",
   "dS SHOEdTELPIECE CLOCKdUAL WHEELCHAIRcP SYMBOL FOR LIGHTHOUSEdLE LEAFcRCHEN HEAD MARK",
   "iLETTER -ApApBApCAqHApDAqZApGApHApJApKAqHApLApMApNAqGAqYApPAqHApRApSAqHApTAqHAqSArHApWApYApZA",
   "qHAiMARK SHADiSIGN ANUSVARAnCANDRABINDUjUBJOINED LETTER AzBAzCAbaHAzDAbaZAzGAzHAzJAzKAbaHAzLA",
   "zMAzNAbaGAbaYAzPAbaHAzRAzSAbaHAzTAbaHAbaSAbbHAzWAzYAzZAbaHAiVOWEL SIGN AAtEtItOtU",
   "dRIAGE SYMBOLdTIAL ARTS UNIFORMcSARAM GONDI DIGIT EIGHTuFIVEvOURuNINEuONEuSEVENvIXuTHREEvWO",
   "uZEROoLETTER AwAwIwUvBAwHAvCAwHAvDAwDAxHAwHAvEvGAwHAvHAvIwIvJAwHAwNYAvKAwHAwSSAvLAwLAvMAvNA",
   "wGAwNAwYAvOvPAwHAvRAvSAwHAwSAvTAwHAwRAwTAxHAvUwUvVAvYAoRA-KARApEPHAoSIGN ANUSVARAtCANDRA",
   "tHALANTAtNUKTAtVISARGAoVIRAMApOWEL SIGN AAbaIbaUzEzIbaIzOzUbaUzVOCALIC R",
   "dCULINE ORDINAL INDICATORdK WORK SYMBOLdU MARKcTE DRINKdHEMATICAL BOLD CAPITAL AbbLPHAbaB",
   "bbETAbaCbbHIbaDbbELTAbbIGAMMAbaEbbPSILONbbTAbaFbaGbbAMMAbaHbaIbbOTAbaJbaKbbAPPAbaLbbAMDAbaM",
   "bbUbaNbbUbaObbMEGAbcICRONbaPbbHIbbIbbSIbaQbaRbbHObaSbbIGMAbaTbbAUbbHETAbf SYMBOLbaUbbPSILON",
   "baVbaWbaXbbIbaYbaZbbETAsDIGIT EIGHTyFIVEzOURyNINEyONEySEVENzIXyTHREEzWOyZEROsEPSILON SYMBOL",
   "sFRAKTUR CAPITAL AbiBbiCbiDbiEbiFbiGbiHbiIbiJbiKbiLbiMbiNbiObiPbiQbiRbiSbiTbiUbiVbiWbiXbiYbiZ",
   "baSMALL AbgBbgCbgDbgEbgFbgGbgHbgIbgJbgKbgLbgMbgNbgObgPbgQbgRbgSbgTbgUbgVbgWbgXbgYbgZ",
   "sITALIC CAPITAL AbiLPHAbhBbiETAbhCbiHIbhDbiELTAbhEbiPSILONbiTAbhFbhGbiAMMAbhHbhIbiOTAbhJbhK",
   "biAPPAbhLbiAMDAbhMbiUbhNbiUbhObiMEGAbjICRONbhPbiHIbiIbiSIbhQbhRbiHObhSbiIGMAbhTbiAUbiHETA",
   "bm SYMBOLbhUbiPSILONbhVbhWbhXbiIbhYbhZbiETAzEPSILON SYMBOLzKAPPA SYMBOLzNABLA",
   "zPARTIAL DIFFERENTIALbaHI SYMBOLbaI SYMBOLzRHO SYMBOLzSMALL AbgLPHAbfBbgETAbfCbgHIbfDbgELTA",
   "bfEbgPSILONbgTAbfFbgINAL SIGMAbfGbgAMMAbfHbfIbgOTAbfJbfKbgAPPAbfLbgAMDAbfMbgUbfNbgUbfObgMEGA",
   "bhICRONbfPbgHIbgIbgSIbfQbfRbgHObfSbgIGMAbfTbgAUbgHETAbfUbgPSILONbfVbfWbfXbgIbfYbfZbgETA",
   "zTHETA SYMBOLsKAPPA SYMBOLsNABLAsPARTIAL DIFFERENTIALtHI SYMBOLtI SYMBOLsRHO SYMBOL",
   "sSCRIPT CAPITAL AbhBbhCbhDbhEbhFbhGbhHbhIbhJbhKbhLbhMbhNbhObhPbhQbhRbhSbhTbhUbhVbhWbhXbhYbhZ",
   "zSMALL AbfBbfCbfDbfEbfFbfGbfHbfIbfJbfKbfLbfMbfNbfObfPbfQbfRbfSbfTbfUbfVbfWbfXbfYbfZtMALL A",
   "zLPHAyBzETAyCzHIyDzELTAzIGAMMAyEzPSILONzTAyFzINAL SIGMAyGzAMMAyHyIzOTAyJyKzAPPAyLzAMDAyMzUyN",
   "zUyOzMEGAbaICRONyPzHIzIzSIyQyRzHOySzIGMAyTzAUzHETAyUzPSILONyVyWyXzIyYyZzETAsTHETA SYMBOL",
   "nDOUBLE-STRUCK CAPITAL AbjBbjDbjEbjFbjGbjIbjJbjKbjLbjMbjObjSbjTbjUbjVbjWbjXbjYbbDIGIT EIGHT",
   "bhFIVEbiOURbhNINEbhONEbhSEVENbiIXbhTHREEbiWObhZERObbSMALL AbhBbhCbhDbhEbhFbhGbhHbhIbhJbhKbhL",
   "bhMbhNbhObhPbhQbhRbhSbhTbhUbhVbhWbhXbhYbhZnFALLING DIAGONALoRAKTUR CAPITAL AbdBbdDbdEbdFbdG",
   "bdJbdKbdLbdMbdNbdObdPbdQbdSbdTbdUbdVbdWbdXbdYvSMALL AbbBbbCbbDbbEbbFbbGbbHbbIbbJbbKbbLbbMbbN",
   "bbObbPbbQbbRbbSbbTbbUbbVbbWbbXbbYbbZnITALIC CAPITAL AbdLPHAbcBbdETAbcCbdHIbcDbdELTAbcE",
   "bdPSILONbdTAbcFbcGbdAMMAbcHbcIbdOTAbcJbcKbdAPPAbcLbdAMDAbcMbdUbcNbdUbcObdMEGAbeICRONbcPbdHI",
   "bdIbdSIbcQbcRbdHObcSbdIGMAbcTbdAUbdHETAbh SYMBOLbcUbdPSILONbcVbcWbcXbdIbcYbcZbdETA",
   "uEPSILON SYMBOLuKAPPA SYMBOLuNABLAuPARTIAL DIFFERENTIALvHI SYMBOLvI SYMBOLuRHO SYMBOLuSMALL A",
   "bbLPHAbaBbbETAbaCbbHIbaDbbELTAbbOTLESS IbiJbaEbbPSILONbbTAbaFbbINAL SIGMAbaGbbAMMAbaIbbOTAbaJ",
   "baKbbAPPAbaLbbAMDAbaMbbUbaNbbUbaObbMEGAbcICRONbaPbbHIbbIbbSIbaQbaRbbHObaSbbIGMAbaTbbAUbbHETA",
   "baUbbPSILONbaVbaWbaXbbIbaYbaZbbETAuTHETA SYMBOLnLEFT ANGLE BRACKETsDOUBLE ANGLE BRACKET",
   "sFLATTENED PARENTHESISsWHITE SQUARE BRACKETyTORTOISE SHELL BRACKETnMONOSPACE CAPITAL AbfBbfC",
   "bfDbfEbfFbfGbfHbfIbfJbfKbfLbfMbfNbfObfPbfQbfRbfSbfTbfUbfVbfWbfXbfYbfZxDIGIT EIGHTbdFIVEbeOUR",
   "bdNINEbdONEbdSEVENbeIXbdTHREEbeWObdZEROxSMALL AbdBbdCbdDbdEbdFbdGbdHbdIbdJbdKbdLbdMbdNbdObdP",
   "bdQbdRbdSbdTbdUbdVbdWbdXbdYbdZnRIGHT ANGLE BRACKETtDOUBLE ANGLE BRACKETtFLATTENED PARENTHESIS",
   "tWHITE SQUARE BRACKETzTORTOISE SHELL BRACKETpSING DIAGONALnSANS-SERIF BOLD CAPITAL AbmLPHAblB",
   "bmETAblCbmHIblDbmELTAblEbmPSILONbmTAblFblGbmAMMAblHblIbmOTAblJblKbmAPPAblLbmAMDAblMbmUblNbmU",
   "blObmMEGAbnICRONblPbmHIbmIbmSIblQblRbmHOblSbmIGMAblTbmAUbmHETAbq SYMBOLblUbmPSILONblVblWblX",
   "bmIblYblZbmETAbdDIGIT EIGHTbjFIVEbkOURbjNINEbjONEbjSEVENbkIXbjTHREEbkWObjZERObdEPSILON SYMBOL",
   "bdITALIC CAPITAL AbtLPHAbsBbtETAbsCbtHIbsDbtELTAbsEbtPSILONbtTAbsFbsGbtAMMAbsHbsIbtOTAbsJbsK",
   "btAPPAbsLbtAMDAbsMbtUbsNbtUbsObtMEGAbuICRONbsPbtHIbtIbtSIbsQbsRbtHObsSbtIGMAbsTbtAUbtHETA",
   "bx SYMBOLbsUbtPSILONbsVbsWbsXbtIbsYbsZbtETAbkEPSILON SYMBOLbkKAPPA SYMBOLbkNABLA",
   "bkPARTIAL DIFFERENTIALblHI SYMBOLblI SYMBOLbkRHO SYMBOLbkSMALL AbrLPHAbqBbrETAbqCbrHIbqD",
   "brELTAbqEbrPSILONbrTAbqFbrINAL SIGMAbqGbrAMMAbqHbqIbrOTAbqJbqKbrAPPAbqLbrAMDAbqMbrUbqNbrUbqO",
   "brMEGAbsICRONbqPbrHIbrIbrSIbqQbqRbrHObqSbrIGMAbqTbrAUbrHETAbqUbrPSILONbqVbqWbqXbrIbqYbqZbrETA",
   "bkTHETA SYMBOLbdKAPPA SYMBOLbdNABLAbdPARTIAL DIFFERENTIALbeHI SYMBOLbeI SYMBOLbdRHO SYMBOL",
   "bdSMALL AbkLPHAbjBbkETAbjCbkHIbjDbkELTAbjEbkPSILONbkTAbjFbkINAL SIGMAbjGbkAMMAbjHbjIbkOTAbjJ",
   "bjKbkAPPAbjLbkAMDAbjMbkUbjNbkUbjObkMEGAblICRONbjPbkHIbkIbkSIbjQbjRbkHObjSbkIGMAbjTbkAUbkHETA",
   "bjUbkPSILONbjVbjWbjXbkIbjYbjZbkETAbdTHETA SYMBOLyCAPITAL AbgBbgCbgDbgEbgFbgGbgHbgIbgJbgKbgL",
   "bgMbgNbgObgPbgQbgRbgSbgTbgUbgVbgWbgXbgYbgZyDIGIT EIGHTbeFIVEbfOURbeNINEbeONEbeSEVENbfIX",
   "beTHREEbfWObeZEROyITALIC CAPITAL AbnBbnCbnDbnEbnFbnGbnHbnIbnJbnKbnLbnMbnNbnObnPbnQbnRbnSbnT",
   "bnUbnVbnWbnXbnYbnZbfSMALL AblBblCblDblEblFblGblHblIblJblKblLblMblNblOblPblQblRblSblTblUblVblW",
   "blXblYblZySMALL AbeBbeCbeDbeEbeFbeGbeHbeIbeJbeKbeLbeMbeNbeObePbeQbeRbeSbeTbeUbeVbeWbeXbeYbeZ",
   "oCRIPT CAPITAL AbcCbcDbcGbcJbcKbcNbcObcPbcQbcSbcTbcUbcVbcWbcXbcYbcZuSMALL AbaBbaCbaDbaFbaHbaI",
   "baJbaKbaLbaMbaNbaPbaQbaRbaSbaTbaUbaVbaWbaXbaYbaZcXIMIZEcYAN NUMERAL EIGHTtEENpLEVENoFIFTEEN",
   "qVEpOURsTEENoNINEsTEENoONEoSEVENtTEENpIXrTEENoTENpHIRTEENqREEpWELVEqOoZERObEASURED ANGLE",
   "o OPENING LEFTpWITH OPEN ARM ENDING IN ARROW POINTING DOWN AND LEFTclRIGHTccLEFT AND DOWNclUP",
   "ccRIGHT AND DOWNcmUPccUP AND LEFTcjRIGHTjBYjRIGHT ANGLE WITH DOTdT ON BONEcCHANICAL ARMlLEG",
   "cDEFAIDRIN CAPITAL LETTER AbcIbcTIUbbBbbCbbDbbEbbFbbGbbHbcPbbIbbJbbKbcPbbLbbMbbNbcGbcYbbObcE",
   "bbPbbQbbRbbSbbTbbUbbVbbWbbXbbYbcUbbZnOMMAmDIGIT EIGHTsFIVEtOURsNINEsONEv ALTERNATE FORMsSEVEN",
   "tIXsTHREEx ALTERNATE FORMtWOv ALTERNATE FORMsZEROmEXCLAMATION OHmFULL STOPmNUMBER EIGHTEEN",
   "uLEVENtFIFTEENuOURTEENtNINETEENtSEVENTEENuIXTEENtTENuHIRTEENuWELVEmSMALL LETTER AbaIbaTIUzBzC",
   "zDzEzFzGzHbaPzIzJzKbaPzLzMzNbaGbaYzObaEzPzQzRzSzTzUzVzWzXzYbaUzZnYMBOL AIVAdIEVAL COMMA",
   "jEXCLAMATION MARKjQUESTION MARKeUM BLACK CIRCLEiOLD WHITE CIRCLEhEIGHT POINTED BLACK STAR",
   "nSPOKED ASTERISKhFIVE SPOKED ASTERISKiLATTENED LEFT PARENTHESIS ORNAMENT",
   "rRIGHT PARENTHESIS ORNAMENTiOUR POINTED BLACK STARuPINWHEEL STARhGREEK CROSS",
   "hLEFT CURLY BRACKET ORNAMENTmPARENTHESIS ORNAMENTl-POINTING ANGLE BRACKET ORNAMENT",
   "hMATHEMATICAL SPACEhRIGHT CURLY BRACKET ORNAMENTnPARENTHESIS ORNAMENT",
   "m-POINTING ANGLE BRACKET ORNAMENThSALTIREiHADEiIX POINTED BLACK STARlSPOKED ASTERISK",
   "iMALL WHITE CIRCLEhTHREE POINTED BLACK STARvPINWHEEL STARhVERTICAL BARhWHITE CIRCLEnSQUARE",
   "cETEI MAYEK AHANG KHUDAMoNJIoPUN IYEKnCHEIKHANtEInDIGIT EIGHTtFIVEuOURtNINEtONEtSEVENuIX",
   "tTHREEuWOtZEROnLETTER ATIYAuBAvHAMuCHAwILuDDAwHAvHOUvILuEuGHOUvOKuHUKuIv LONSUMuJHAMvILuKHOU",
   "vOKx LONSUMuLAIx LONSUMuMITx LONSUMuNAw LONSUMvGOUy LONSUMvNAvYAuOuPAw LONSUMvHAMuRAIuSAMvHA",
   "vSAuTHOUvILx LONSUMvTAwHAuUNuWAIuYANGoUM IYEKnSYLLABLE REPETITION MARKnVIRAMAoOWEL SIGN AAI",
   "baUzNAPzUyCHEINAPyIIzNAPyNUNGyONAPySOUNAPyUNAPzUyVISARGAyYENAPnWORD REPETITION MARKcLON",
   "dTING FACEcMOcNDE KIKAKUI COMBINING NUMBER HUNDRED THOUSANDSbmSbfMILLIONSbfTEENSbhN THOUSANDS",
   "biSbgHOUSANDSoDIGIT EIGHTuFIVEvOURuNINEuONEuSEVENvIXuTHREEvWOoSYLLABLE M001 KIba2 KAba3 KU",
   "ba4 WIba5 WAba6 WUba7 MINba8 MANba9 MUNz10 BIba1 BAba2 BUba3 Iba4 Aba5 Uba6 DIba7 DAba8 DU",
   "ba9 SIz20 SAba1 SUba2 TIba3 TAba4 TUba5 LIba6 LAba7 LUba8 JIba9 JAz30 JUba1 YIba2 YAba3 YU",
   "ba4 FIba5 FAba6 FUba7 NINba8 NANba9 NUNz40 HEEba1 HAba2 HOOba3 NGGAba4 KPEEba5 WOba6 HUAN",
   "ba7 MBEEba8 KOba9 WVAz50 PUba1 PEba2 HENba3 HINba4 LOOba5 TEba6 GBAba7 NGONba8 NYANba9 MEN",
   "z60 NYONba1 WVIba2 MBAba3 JOba4 NDOba5 KEEba6 POba7 NDOOba8 PIba9 TOz70 GBOba1 GBOOba2 MBE",
   "ba3 LEba4 KPUba5 FEba6 KOOba7 VOba8 FEEba9 SOz80 YEba1 PEEba2 NGGUba3 HEEIba4 LEEba5 VE",
   "ba6 LONG NGGEba7 HUNba8 FOba9 DEEz90 NGGIba1 TEEba2 KPAba3 GBEEba4 MONba5 KEba6 HEba7 BE",
   "ba8 NYENba9 PAy100 Eba1 FANba2 POOba3 BOOba4 TOOba5 LONG MBOOba6 LONG NGGOOba7 GBEba8 KPE",
   "ba9 YEEz10 LONG LEba1 GAba2 KPOOba3 JEba4 WOOba5 NGGEEba6 SEba7 NENba8 WEba9 NDEz20 NGGO",
   "ba1 YOba2 MBUba3 NDIba4 GBIba5 NDUba6 WEEba7 NGGUAba8 HOOUba9 NDAz30 HANba1 INba2 KPIba3 FOO",
   "ba4 NJOOba5 INba6 SOOba7 EIba8 BOba9 WVEz40 HOba1 YOOba2 LONG MBOba3 WEIba4 VOOba5 MBI",
   "ba6 NGGEba7 Oba8 GBUba9 NJEEz50 BEEba1 VUba2 NJAba3 LOba4 MUANba5 GIba6 NGGOOba7 JEEba8 KPO",
   "ba9 NGGAAz60 JOOba1 LONG MBEba2 SEEba3 EEba4 NYINba5 OOba6 GUEIba7 GUANba8 GUba9 NONz70 NYUN",
   "ba1 RAba2 MBOOba3 VEEba4 MBOba5 LONG JOba6 HIba7 NGUANba8 ENba9 KUAz80 DOOba1 DOba2 VI",
   "ba3 LONG NGGOba4 NGENba5 VAba6 HUba7 MBUUba8 MBEEba9 MUENz90 GEEba1 NDEEba2 NJUba3 HONba4 WUI",
   "ba5 ANba6 SIAba7 FUAdORAH WITH NINE BRANCHESdS SYMBOLcRCURY",
   "dOITIC CURSIVE FRACTION EIGHT TWELFTHSbbLEVEN TWELFTHSbaFIVE TWELFTHSbbOUR TWELFTHS",
   "baNINE TWELFTHSbaONE HALFbeTWELFTHbaSEVEN TWELFTHSbbIX TWELFTHSbaTEN TWELFTHSbbHREE TWELFTHS",
   "bbWO TWELFTHSrLETTER AzRCHAIC SAyBAyDAyEyHHAyIyKAzHAyLAyMAyNAzEyOyPAyQAyRAySAzEyTAzEzOyWAyYA",
   "sOGOGRAM IMNbaRMTrNUMBER EIGHTbd HUNDREDbl THOUSANDbeTHOUSANDbdY THOUSANDyFIFTYbd THOUSAND",
   "baVEbc HUNDREDbk THOUSANDbdTHOUSANDzORTYbd THOUSANDbaURbc HUNDREDbk THOUSANDbdTHOUSANDyNINE",
   "bc HUNDREDbk THOUSANDbdTHOUSANDbcTY THOUSANDyONEbb HUNDREDbj THOUSANDbcTHOUSANDySEVEN",
   "bd HUNDREDbl THOUSANDbeTHOUSANDbdTYbf THOUSANDzIXbb HUNDREDbj THOUSANDbcTHOUSANDbbTY",
   "bd THOUSANDyTENbb THOUSANDzHIRTYbe THOUSANDbaREEbd HUNDREDbl THOUSANDbeTHOUSANDzWENTY",
   "be THOUSANDbaObb HUNDREDbj THOUSANDbcTHOUSANDjHIEROGLYPHIC LETTER AbdBAbf-2bdDAbdEbdHHAbdI",
   "bdKAbeHAbdLAbdMAbdNAbf-2beEbf-2bdObdPAbdQAbdRAbf-2bdSAbf-2beEbdTAbf-2beEbf-2beObdWAbdYA",
   "wSYMBOL VIDJbh-2dPERSONcSSAGE WAITINGcTRICAL BREVEjLONG OVER SHORTtTWO SHORTSjPENTASEME",
   "jSHORT OVER LONGjTETRASEMEkRISEMEkWO SHORTS JOINEDuOVER LONGeObIAO LETTER AHnRCHAIC MAuNAvGA",
   "uZZAmBAnRImDAnDAnLHApYAnZAoHAoYIoZAmFAmGAnHAoHAmHAnHAmKAmLAnHAoYAnYAmMAnHAmNAoSALIZATIONnGA",
   "oHAnHAnNAoHAnYAoHAmPAnLAmQAnGAmREFORMED TONE-1ba2ba4ba5ba6ba8wSHAnTEmSAnHAnSAnYImTAnEnLHApYA",
   "nONE-2r3r4r5r6r7r8nSAoEoHAoSAnTAmVAnFAmWAmXAmYI DZHApKApNNApPApTAqSArHAqTAmZAnHAnSAoHAnZAoSA",
   "pYAoYAfSIGN ASPIRATIONkCONSONANT MODIFIER BARkREFORMED ASPIRATIONtVOICINGfTONE ABOVEkBELOW",
   "kRIGHTkTOP RIGHTfVOWEL SIGN ArArEsErHHrIrNsGrUqErArIrNsGrRsRqIrAsNtGrErGrIrNGrOsNGrUqNrGqOrER",
   "sYrGrOrUqROUNDED ERbaRqUrAsNtGrEIrIrNGrOGrUqVWqWrOqYrIrUIcCR DASH SYMBOLfON US SYMBOLeO SIGN",
   "fBEfPHONEfSCOPEcDDLE DOThTHIRD WHITE RIGHT POINTING INDEXdLINE HORIZONTAL ELLIPSIS",
   "cLITARY HELMETjMEDALdKY WAYdL SIGNcNIBUSeDISCeMIZEdUS SIGNk IN TRIANGLElWITH COMMA ABOVE",
   "qDOT BELOWqFALLING DOTSqRISING DOTSgTILDEf-OR-PLUS SIGNdYcRRORg BALLbMSPbOBILE PHONEm OFF",
   "nWITH RIGHTWARDS ARROW AT LEFTcDELSeRN PENTATHLONdI ABBREVIATION SIGNfDANDAgIGIT EIGHTlFIVE",
   "mOURlNINElONElSEVENmIXlTHREEmWOlZEROgOUBLE DANDAfLETTER AnAnInUmBAnHAmCAnHAmDAnDAoHAnHAmEmGA",
   "nHAmHAmInImJAnHAmKAnHAmLAnLAmMAmNAnGAnNAnYAmOmPAnHAmRAmSAnHAnSAmTAnHAnTAoHAmUnUmVAnOCALIC LvL",
   "uRvRmYAfSIGN ANUSVARAlRDHACANDRAkHUVAkVIRAMAmSARGAfVOWEL SIGN AArIrUqEqIrIqOqUrUqVOCALIC LzL",
   "yRzReFIER BREVE WITH INVERTED BREVEjLETTER ACUTE ACCENTrLVEOLAR CLICKrPOSTROPHE",
   "qBEGIN HIGH TONEwLOW TONErILABIAL CLICKqCAPITAL AzEyBzARRED ByCyDyEyFyGyHz WITH STROKEyIyJyK",
   "yLyMyNyOzUyPyQyRzEVERSED EbhNyTyUyVyWrENTRED LEFT HALF RINGyRIGHT HALF RING",
   "rHINESE TONE YANG PINGbiQUbiRUbiSHANGbeIN PINGbhQUbhRUbhSHANGrIRCUMFLEX ACCENTrOLON",
   "rROSS ACCENTrYRILLIC ENzHARD SIGNzSOFT SIGNqDENTAL CLICKrOT HORIZONTAL BARuSLASHuVERTICAL BAR",
   "sUBLE APOSTROPHExPRIMEsWN ARROWHEADvTACKqEND HIGH TONEuLOW TONE",
   "rXTRA-HIGH DOTTED LEFT-STEM TONE BARbiTONE BARbbLEFT-STEM TONE BARbbTONE BAR",
   "wLOW DOTTED LEFT-STEM TONE BARbhTONE BARbaLEFT-STEM TONE BARbaTONE BARqGEORGIAN NAR",
   "rLOTTAL STOPbc WITH STROKErRAVE ACCENTqHALF TRIANGULAR COLONrIGH DOTTED LEFT-STEM TONE BAR",
   "bcTONE BARvLEFT-STEM TONE BARvTONE BARqLATERAL CLICKrEFT ARROWHEADvHALF RINGvTACK",
   "rOW ACUTE ACCENTuCIRCUMFLEX ACCENTuDOTTED LEFT-STEM TONE BARbbTONE BARwWN ARROWHEAD",
   "uGRAVE ACCENTuINVERTED EXCLAMATION MARKuLEFT ARROWbeHEADy-STEM TONE BARuMACRON",
   "uRIGHT ARROWHEADwNGuTILDEvONE BARuUP ARROWHEADuVERTICAL LINEtER RIGHT CORNER ANGLEqMACRON",
   "rID DOTTED LEFT-STEM TONE BARbbTONE BARuLEFT-STEM TONE BARuTONE BARtDLE DOUBLE ACUTE ACCENT",
   "beGRAVE ACCENTxGRAVE ACCENTsNUS SIGNqOPEN SHELFqPLUS SIGNrRIMEqRAISED COLONxDOWN ARROW",
   "xEXCLAMATION MARKxINVERTED EXCLAMATION MARKxUP ARROWrETROFLEX CLICK WITH RETROFLEX HOOK",
   "sVERSED COMMAzGLOTTAL STOPbl WITH STROKErHOTIC HOOKrIGHT ARROWHEADwHALF RINGwTACKqSHELF",
   "sORT EQUALS SIGNrMALL AxExINxLPHAwBx WITH HOOKxARRED OxETAxOTTOM HALF OwCx WITH CURL",
   "xAPITAL AAbeBbeGbf WITH HOOKbeHbeIbf WITH STROKEbfNVERTED RbeLbf WITH BELTbeNbeOEbeRbeUbeYxHI",
   "xLOSED OMEGAbdREVERSED OPEN EwDx WITH HOOKbh AND TAILbdTAILxELTAyZH DIGRAPH",
   "xOTLESS J WITH STROKEbr AND HOOKxZ DIGRAPHbg WITH CURLbmRETROFLEX HOOKwExNGxSHxTHxZHwF",
   "xENG DIGRAPHwGx WITH HOOKxAMMAxREEK GAMMAbcPHIwHx WITH HOOKbdSTROKExENGba WITH HOOK",
   "wI WITH STROKExOTAwJx WITH CROSSED-TAILwKwLx WITH BELTbdINVERTED LAZY SbdMIDDLE TILDE",
   "bdPALATAL HOOKbdRETROFLEX HOOKbr AND BELTxEZHba WITH RETROFLEX HOOKxIGATURE OExS DIGRAPH",
   "xZ DIGRAPHwMx WITH HOOKwN WITH LEFT HOOKbdRETROFLEX HOOKwOx WITH STROKExPEN EbbOwPxHIwQwR",
   "x WITH FISHHOOKbdTAILxAMS HORNxEVERSED EbfGLOTTAL STOPbfOPEN EwSx WITH CURLbdHOOKxCHWAyRIPT G",
   "xIDEWAYS UwTx WITH PALATAL HOOKbdRETROFLEX HOOKxC DIGRAPH WITH CURLxESH DIGRAPHxHETA",
   "xOP HALF OxS DIGRAPHbg WITH RETROFLEX HOOKxURNED AbeEbeLPHAbdHbdIbdMbe WITH LONG LEGbdOPEN E",
   "bdRbe WITH HOOKbkLONG LEGbs AND RETROFLEX HOOKbdVbdWbdYbe WITH BELTwUx BARyWITH LEFT HOOK",
   "xPSILONwVx WITH HOOKbdRIGHT HOOKwWwXwYwZx WITH CURLbdRETROFLEX HOOKrTRESS AND HIGH TONE",
   "bbLOW TONErUPERSCRIPT HALF TRIANGULAR COLONbcTRIANGULAR COLONqTRIANGULAR COLONrURNED COMMA",
   "qUNASPIRATEDrP ARROWHEADtTACKrSqVERTICAL LINErOICINGqYANG DEPARTING TONE MARK",
   "rIN DEPARTING TONE MARKdULO TWO SUMcNEY BAGgWITH WINGSf-MOUTH FACEdGOLIAN BIRGA",
   "p WITH DOUBLE ORNAMENTvORNAMENTkCOLONmMMAkDIGIT EIGHTqFIVErOURqNINEqONEqSEVENrIXqTHREErWO",
   "qZEROlOUBLE BIRGA WITH ORNAMENTkELLIPSISkFOUR DOTSlREE VARIATION SELECTOR FOURbiONEbiTHREE",
   "bjWOlULL STOPkINVERTED BIRGAy WITH DOUBLE ORNAMENTkLETTER AsLI GALI AbbHbbNUSVARA ONEbaBALUDA",
   "baCAbaDAbcGALGAbcMARUbbDAbaHALF UbfYAbaIbbNVERTED UBADAMAbaKAbaNGAbbNAbaPAbbHAbaSSAbaTA",
   "bbHREE BALUDAbbTAbcHAbaUBADAMAbaVISARGA ONEbaZAbbHAsNGrBArCHAu WITH TWO DOTStIrDArEsErFArGA",
   "rHAArIrJArKAsHArLAsHArMAtNCHU ALI GALI BHAbhCAbiYAbhDDHAbiHAbhGHAbhJHAbhLHAbhNGAbhSSAbhTAbiTA",
   "bhZAbiHAyFAyIyKAyRAyZHArNArOsErPArQArRArSAsHAsIBE ANGwCHAwDAwEwFAwGAyAwHAyAwIxYwJAwKAwPAwRAA",
   "wSHAwTAxSAwUxEwZAxHArTAsODO ALI GALI TAbfZHAxNGwBAwCHAwDAxZAwEwGAyAwHAAwIwJAxIAwKA",
   "wLONG VOWEL SIGNwMAwNIAwOxEwPAwQAwTAxSAwUxEwWAwYAsSArUsErWArYArZAsHIsRAkMANCHU COMMA",
   "rFULL STOPkNIRUGUkROTATED BIRGAx WITH DOUBLE ORNAMENTbdORNAMENTkSIBE SYLLABLE BOUNDARY MARKER",
   "lWIRL BIRGAv WITH DOUBLE ORNAMENTbbORNAMENTkTODO SOFT HYPHENlRIPLE BIRGA WITH ORNAMENT",
   "lURNED SWIRL BIRGA WITH DOUBLE ORNAMENTkVOWEL SEPARATORdKEYg FACEdOGRAM FOR EARTHnYANGoIN",
   "eRAILeSTABLE SYMBOLcOD BUBBLEdN CAKEfVIEWING CEREMONYcSQUEfITOcTHER CHRISTMASdOR BOATgSCOOTER",
   "fIZED WHEELCHAIRfWAYcUNT FUJIfAINi BICYCLISTjCABLEWAYjRAILWAYdSEf FACEgTRAPdTHcVIE CAMERAcYAI",
   "bRO DANDAfIGIT EIGHTkFIVElOURkNINEkONEkSEVENlIXkTHREElWOkZEROfOUBLE DANDAeLETTER AlBAlCHUlDA",
   "nIlEmAlHAInOlKEAAEmHAImOlLAnNlMAEMmIMlNGImINlOmLmOlPAmHIlRImOlSHIlTAmEKmHEAlWAlYO",
   "bUCH GREATER-THANfLESS-THANcLTANI LETTER ApBAqHApCAqHApDAqDArDArHAqHApEpGAqHApHApIpJAqJApKA",
   "qHApLApMApNAqNAqYApPAqHApRAqHAqRApSApTAqHAqTArHApUpVApYAiSECTION MARKeIMAPfPLE MUSICAL NOTES",
   "hICATION SIGNt IN DOUBLE CIRCLExLEFT HALF CIRCLExRIGHT HALF CIRCLExTRIANGLEuWITH DOT ABOVE",
   "zUNDERBARpXfSETi MULTIPLICATIONjUNIONcSHROOMdIC FLAT SIGNgNATURAL SIGNgSHARP SIGNfAL KEYBOARD",
   "q WITH JACKSiNOTEiSCOREjYMBOL ARPEGGIATO DOWNbaUPpBEGIN BEAMvPHRASEvSLURvTIEqRACEtKET",
   "rEATH MARKsVEtISv RESTpC CLEFqAESURAqIRCLE X NOTEHEADqLIMACUSsVISrUSTER NOTEHEAD BLACKbgWHITE",
   "qODArMBINING ACCENTbf-STACCATObaUGMENTATION DOTzBENDzDOITbbUBLE TONGUEbbWN BOWzFLAG-1be2be3",
   "be4be5bbIPzHARMONICzLOUREzMARCATObg-STACCATOzRIPzSMEARbaNAP PIZZICATObaPRECHGESANG STEM",
   "baTACCATISSIMObgObbEMzTENUTObaREMOLO-1bh2bh3bbIPLE TONGUEzUP BOWsMON TIMEqRESCENDOrOIX",
   "qUT TIMEpDA CAPOrL SEGNOrMPt ALLrSHED BARLINEqECRESCENDOrGREE SLASHqOUBLE BARLINEwFLATwSHARP",
   "qRUM CLEF-1z2pEIGHTH NOTEwRESTqND BEAMtOF STIMMEtPHRASEtSLURtTIEpF CLEFv OTTAVA ALTAbdBASSA",
   "qERMATAw BELOWqINAL BARLINEsGERED TREMOLO-1bg2bg3rVE-LINE STAFFqLAT DOWNuUPqORTE",
   "rUR-LINE STAFFuSTRING FRETBOARDqUSA BLACKuWHITEpG CLEFv OTTAVA ALTAbdBASSAqLISSANDO DOWNzUP",
   "qRACE NOTE NO SLASHbaSLASHrEGORIAN C CLEFzF CLEFpHALF NOTEuPEDAL MARKuRESTrUPTSTIMME",
   "pINVERTED TURNpKIEVAN C CLEFwEIGHTH NOTE STEM DOWNbnUPxND OF PIECEwFINAL NOTExLAT SIGN",
   "wHALF NOTEwQUARTER NOTE STEM DOWNboUPwRECITATIVE MARKwWHOLE NOTEqORONpLEFT REPEAT SIGNqONGA",
   "u IMPERFECTA RESTvPERFECTA RESTpMAXIMAqEZZOqINIMAv BLACKwRESTqOON NOTEHEAD BLACKbdWHITE",
   "qULTI RESTuPLE MEASURE RESTpNATURAL DOWNxUPqEBENSTIMMEqOTEHEAD BLACKqULL NOTEHEAD",
   "pONE HUNDRED TWENTY-EIGHTH NOTEbpRESTs-LINE STAFFqRNAMENT STROKE-1bg0bg1bf2bf3bf4bf5bf6bf7bf8",
   "bf9qTTAVA ALTAwBASSApPARENTHESIS NOTEHEADqEDAL MARKvUP MARKrS SUBPUNCTISqIANOqLUS NOTEHEAD",
   "qODATUSrRRECTUSy FLEXUSpQUARTER NOTExRESTxTONE FLATbcSHARPrINDICESIMA ALTAbcBASSApREPEAT DOTS",
   "vED FIGURE-1bf2bf3rVERSE FINAL BARLINEqIGHT REPEAT SIGNrNFORZANDOpSCANDICUSy FLEXUSqEGNO",
   "rMIBREVIS BLACKbaRESTbaWHITEtMINIMA BLACKbaRESTbaWHITEqHARP DOWNvUPrORT BARLINEqINGLE BARLINE",
   "rX-LINE STAFFtSTRING FRETBOARDsTEENTH NOTEzRESTtY-FOURTH NOTEbcRESTqORIqQUARE B",
   "wNOTEHEAD BLACKbfWHITEqUBITOpTEMPUS IMPERFECTUM CUM PROLATIONE IMPERFECTAch DIMINUTION-1ct2",
   "ct3bxPERFECTAwPERFECTUM CUM PROLATIONE IMPERFECTAbvPERFECTAcd DIMINUTION-1qHIRTY-SECOND NOTE",
   "bdRESTrREE-LINE STAFFqORCULUSx RESUPINUSqRrIANGLE NOTEHEAD DOWN BLACKbmWHITEbhLEFT BLACK",
   "bmWHITEbhRIGHT BLACKbnWHITEbhUP BLACKbkRIGHT BLACKbqWHITEbkWHITEx-ROUND NOTEHEAD DOWN BLACK",
   "bsWHITEqURNt SLASHuUPqWO-LINE STAFFpVIRGAqOID NOTEHEADpWHOLE NOTEvRESTqITH FINGERNAILS",
   "pX NOTEHEADpZbVSbWbYANMAR CONSONANT SIGN MEDIAL HAbeRAbeWAbeYAyON MEDIAL LAbiMAbiNA",
   "xSHAN MEDIAL WAiDIGIT EIGHToFIVEpOURoNINEoONEoSEVENpIXoTHREEpWOoZEROiLETTER AqITON RAqUpBAqHA",
   "pCAqHApDAqDArHAqHApEqASTERN PWO KAREN GHWAbhNNAbhYWApGAqHAqREAT SApHApIqIpJAqHApKAqHAsMTI CA",
   "xHAwDDAyHAxHAwFAwGAwHAxHAwJAxHAwLLAwNAxYAwRAwSAwTTAyHAwXAwZApLAqLApMAqON BBAvEtEtJHAtNGApNA",
   "qGAqNArYAqYApOpPAqHApRAqUMAI PALAUNG FApSAqGAW KAREN SHAqHAsN AuBAvHAuCAvHAuDAuFAuGAvHAuHA",
   "uJHAuKAvHAuNAvNAvYAuPHAuTHAuZArWE PALAUNG CHAbcSHAqSApTArI LAING BAbaHAzDAbaDAbbHAbaHAzFAzGA",
   "baHAzJAbaHAzLLAzNNAbaYAqHAqTArHApUqUpVOCALIC LyLxRyRpWAqESTERN PWO KAREN PWAbhTHApYA",
   "jOGOGRAM KHAMTI HMyOAYyQNiMODIFIER LETTER KHAMTI REDUPLICATIONySHAN REDUPLICATION",
   "iSHAN DIGIT EIGHTtFIVEuOURtNINEtONEtSEVENuIXtTHREEuWOtZEROjIGN ANUSVARAoSATnDOT BELOW",
   "nKHAMTI TONE-1z3nLITTLE SECTIONnPAO KAREN TONEnRUMAI PALAUNG TONE-5nSECTION",
   "oHAN COUNCIL EMPHATIC TONEbaTONE-2bf3sSAWsTONE-2x3x5x6nTAI LAING TONE-2bc5nVIRAMApSARGA",
   "nWESTERN PWO KAREN TONE-1bk2bk3bk4bk5jYMBOL AFOREMENTIONEDqITON EXCLAMATIONvONEvTWOpCOMPLETED",
   "pGENITIVEpLOCATIVEpSHAN EXCLAMATIONuONEiTAI LAING DIGIT EIGHTyFIVEzOURyNINEyONEySEVENzIX",
   "yTHREEzWOyZEROjONE MARK SGAW KAREN HATHIbdKE PHOiVOWEL SIGN AAuIvTON AbaItEu ABOVE",
   "tGEBA KAREN ItIuItKAYAH EEzOEzUtMON IIxOtSGAW KAREN EUuHAN AAyEz ABOVEyFINAL YtTALL AAtUuU",
   "tVOCALIC LbcLbbRbcRtWESTERN PWO KAREN EUblUEaN-ARY CIRCLED DOT OPERATORoPLUS OPERATOR",
   "oTIMES OPERATORhOPRODUCTgINTERSECTIONgLOGICAL ANDoORgPRODUCTgSQUARE INTERSECTION OPERATOR",
   "nUNION OPERATORhUMMATIONgTIMES OPERATORgUNIONl OPERATOR WITH DOTbaPLUSgWHITE VERTICAL BAR",
   "bABATAEAN CRUCIFORM NUMBER FOURkLETTER ALEPHsYINrBETHrDALETHrFINAL ALEPHxBETHxHExKAPHxLAMEDH",
   "xMEMxNUNxSHINxYODHrGIMELrHEtTHrKAPHrLAMEDHrMEMrNUNrPErQOPHrRESHrSADHEtMEKHsHINrTAWsETHrWAW",
   "rYODHrZAYINkNUMBER FIVEsOURrONEu HUNDREDrTENsHREEsWENTYtOdLAcIL POLISHdRA SIGNcKcME BADGEcND",
   "eINAGARI HEADSTROKEmLETTER AuAuIuUtBAuHAtCAuHAtDAuDAvHAuHAtEtGAuHAtHAtIuItJAuHAtKAuHAtLAuLA",
   "tMAtNAuGAuNAuYAtOtPAuHAtRAuRAtSAuHAuSAtTAuHAuTAvHAtUuUtVAuOCALIC RbcRtYAmSIGN ANUSVARA",
   "sVAGRAHArSIDDHAMrVIRAMAtSARGAmVOWEL SIGN AAyIyUxExIyIxOxPRISHTHAMATRA ExUyUxVOCALIC RbgR",
   "cRROW NO-BREAK SPACEcTIONAL DIGIT SHAPESjPARKcUSEATED FACEcZAR AMULETbBHcSPbECKTIE",
   "cGATED DOUBLE VERTICAL BAR DOUBLE RIGHT TURNSTILEfIVE ACKNOWLEDGEjCIRCLED DIGIT ZERO",
   "rLATIN CAPITAL LETTER AbmBbmCbmDbmEbmFbmGbmHbmIbmJbmKbmLbmMbmNbmObmPbmQbmRbmSbmTbmUbmVbmWbmX",
   "bmYbmZrNUMBER EIGHTEENzLEVENyFIFTEENzOURTEENyNINETEENySEVENTEENzIXTEENyTHIRTEENzWELVEbbNTY",
   "rSQUARErTRIANGLEjDIAGONAL CROSSsDIAMONDsMIDDLE RIGHT TO LOWER CENTREjSQUARED ABrCROSS MARKrIC",
   "rLATIN CAPITAL LETTER AbmBbmCbmDbmEbmFbmGbmHbmIbmJbmKbmLbmMbmNbmObmPbmQbmRbmSbmTbmUbmVbmWbmX",
   "bmYbmZrPArQUESTION MARKrSArWCcITHER A SUBSET OF NOR EQUAL TOmPERSET OF NOR EQUAL TO",
   "jPPROXIMATELY NOR ACTUALLY EQUAL TOiGREATER-THAN NOR EQUAL TObcIVALENT TOzLESS-THAN",
   "iLESS-THAN NOR EQUAL TOzIVALENT TOwGREATER-THANcLcPTUNEh FORM TWOcRD FACEcSSUSdT WITH EGGS",
   "eING DOLLScUTEReRAL CHESS BISHOPu ROTATED NINETY DEGREESbdTWO HUNDRED SEVENTY DEGREES",
   "oEQUIHOPPERy ROTATED NINETY DEGREESoKINGs ROTATED NINETY DEGREESbbTWO HUNDRED SEVENTY DEGREES",
   "pNIGHTu ROTATED FORTY-FIVE DEGREESbdNINETY DEGREESbdONE HUNDRED THIRTY-FIVE DEGREES",
   "bdTHREE HUNDRED FIFTEEN DEGREESbeWO HUNDRED SEVENTY DEGREESbpTWENTY-FIVE DEGREESoPAWN",
   "s ROTATED NINETY DEGREESbbTWO HUNDRED SEVENTY DEGREESoQUEENt ROTATED NINETY DEGREES",
   "bcTWO HUNDRED SEVENTY DEGREESoROOKs ROTATED NINETY DEGREESbbTWO HUNDRED SEVENTY DEGREES",
   "oTURNED BISHOPvKINGwNIGHTvPAWNvQUEENvROOKiFACEcW LINEeMOON SYMBOLjWITH FACEeSHEQEL SIGN",
   "eTAI LUE DIGIT EIGHTsFIVEtOURsNINEsONEsSEVENtIXsTHREEtWOsZEROmLETTER FINAL BzDzKzMzNbaGzV",
   "tHIGH BAyDAyFAyHAyKAzVAyLAyMAyNAzGAyPAzHAyQAySAzUAyTAzHAzSAyVAyXAzVAyYAtLOW BAxDAxFAxHAxKAyVA",
   "xLAxMAxNAyGAxPAyHAxQAxSAyUAxTAyHAySAxVAxXAyVAxYAmSIGN LAEuVmTHAM DIGIT ONEnONE MARK-1w2",
   "mVOWEL SIGN AAzYyEyYxExIIyYxOyAzYyYxUyEzYyUyYxVOWEL SHORTENERdA ABBREVIATION SIGNfCOMMAfDANDA",
   "gIGIT EIGHTlFIVEmOURlNINElONElSEVENmIXlTHREEmWOlZEROgOUBLE COMMAmDANDAfGAP FILLER",
   "fINSERTION SIGNfLETTER AnAnInUmBAnHAmCAnHAmDAnDAoHAnHAmEmGAnHAmHAmInImJAnHAmKAnHAmLAnHAmMAnHA",
   "mNAnGAoHAnHAnNAnYAoHAmOmPAnHAmRAnHAmSAnHAnSAmTAnHAnTAoHAmUnUmVEDIC ANUSVARAnOCALIC LvLuRvRmWA",
   "mYAfOMfPLACEHOLDER MARKfSANDHI MARKgIDDHIhGN ANUSVARAlVAGRAHAkCANDRABINDUkFINAL ANUSVARA",
   "kJIHVAMULIYAkNUKTAkUPADHMANIYAkVIRAMAmSARGAfVOWEL SIGN AArIrUqEqIrIqOqUrUqVOCALIC LzLyRzR",
   "dLINE LEFTiRIGHTdSPAPERcXT LINEfPAGEbIGHT WITH STARScNJAbKO COMBINING DOUBLE DOT ABOVE",
   "oLONG DESCENDING TONEtHIGH TONEtLOW TONEtRISING TONEoNASALIZATION MARKoSHORT HIGH TONE",
   "uLOW TONEuRISING TONEhMAeDANTAYALANfIGIT EIGHTkFIVElOURkNINEkONEkSEVENlIXkTHREElWOkZERO",
   "fOROME SIGNeEXCLAMATION MARKeHIGH TONE APOSTROPHEeLAJANYALANfETTER AlBAlCHAlDAnGBASINNAlEmE",
   "lFAlGBAlHAlIlJAmONA CHAqJAqRAlKAlLAlMAlNmAn WOLOSOmYAo WOLOSOlOmOlPAlRAmRAlSAlTAlUlWAlYA",
   "fOW TONE APOSTROPHEeSYMBOL GBAKURUNENlOO DENNENeTAMAN SIGNbLbNBSPbO BICYCLESeREAK HEREdENTRY",
   "i SIGNdMOBILE PHONESdONE UNDER EIGHTEEN SYMBOLdPEDESTRIANSeIRACYdSMOKING SYMBOLc-BREAK SPACE",
   "cMINAL DIGIT SHAPESeSMA SIGNcN-BREAKING HYPHENePOTABLE WATER SYMBOLdFORKINGcRdDIC MARK SIGN",
   "dMAL SUBGROUP OFs OR EQUAL TOdTH EAST AND SOUTH WEST ARROWmRROWq AND SOUTH EAST ARROW",
   "rCROSSING NORTH WEST ARROWbaSOUTH EAST ARROWrWITH HOOKlBLACK ARROWlDOUBLE ARROWlPOINTING BUD",
   "uLEAFuVINE LEAFlSANS-SERIF ARROWlTRIANGLE-HEADED ARROWbg TO BARlWHITE ARROW",
   "gINDIC FRACTION ONE EIGHTHzHALFzQUARTERzSIXTEENTHvTHREE QUARTERSbbSIXTEENTHSmPLACEHOLDER MARK",
   "mQUANTITY MARKpRTER MARKmRUPEE MARKgWEST AND SOUTH EAST ARROWmRROWq AND NORTH EAST ARROW",
   "rCROSSING NORTH EAST ARROWrTO CORNERuLONG BARrWITH HOOKlBLACK ARROWlDOUBLE ARROWlPOINTING BUD",
   "uLEAFuVINE LEAFlSANS-SERIF ARROWlTRIANGLE-HEADED ARROWbg TO BARlWHITE ARROW",
   "fEAST-POINTING AIRPLANEcSEcT A SUBSET OFiPERSET OFfLMOST EQUAL TOfN ELEMENT OF",
   "fSYMPTOTICALLY EQUAL TOeCHECK MARKeEQUAL TOhIVALENT TOeGREATER-THANeIDENTICAL TOeLESS-THAN",
   "eNORMAL SUBGROUP OFw OR EQUAL TOePARALLEL TOeSIGNfQUARE IMAGE OF OR EQUAL TO",
   "lORIGINAL OF OR EQUAL TOeTILDEfRUEdCHED LEFT SEMICIRCLE WITH THREE DOTS",
   "jOWER RIGHT-SHADOWED WHITE RIGHTWARDS ARROWiRIGHT SEMICIRCLE WITH THREE DOTS",
   "iUPPER RIGHT-SHADOWED WHITE RIGHTWARDS ARROWdEe PADhGEeBOOKi WITH DECORATIVE COVERbUL",
   "cMBER EIGHTEEN FULL STOPiLEVEN FULL STOPhFIFTEEN FULL STOPiOURTEEN FULL STOP",
   "hNINETEEN FULL STOPhSEVENTEEN FULL STOPiIGNjXTEEN FULL STOPhTEN FULL STOPiHIRTEEN FULL STOP",
   "iWELVE FULL STOPkNTY FULL STOPdERO SIGNcSHU CHARACTER-1B170u1u2u3u4u5u6u7u8u9uAuBuCuDuEuFt80",
   "u1u2u3u4u5u6u7u8u9uAuBuCuDuEuFt90u1u2u3u4u5u6u7u8u9uAuBuCuDuEuFtA0u1u2u3u4u5u6u7u8u9uAuBuCuD",
   "uEuFtB0u1u2u3u4u5u6u7u8u9uAuBuCuDuEuFtC0u1u2u3u4u5u6u7u8u9uAuBuCuDuEuFtD0u1u2u3u4u5u6u7u8u9uA",
   "uBuCuDuEuFtE0u1u2u3u4u5u6u7u8u9uAuBuCuDuEuFtF0u1u2u3u4u5u6u7u8u9uAuBuCuDuEuFs200u1u2u3u4u5u6",
   "u7u8u9uAuBuCuDuEuFt10u1u2u3u4u5u6u7u8u9uAuBuCuDuEuFt20u1u2u3u4u5u6u7u8u9uAuBuCuDuEuFt30u1u2u3",
   "u4u5u6u7u8u9uAuBuCuDuEuFt40u1u2u3u4u5u6u7u8u9uAuBuCuDuEuFt50u1u2u3u4u5u6u7u8u9uAuBuCuDuEuFt60",
   "u1u2u3u4u5u6u7u8u9uAuBuCuDuEuFt70u1u2u3u4u5u6u7u8u9uAuBuCuDuEuFt80u1u2u3u4u5u6u7u8u9uAuBuCuD",
   "uEuFt90u1u2u3u4u5u6u7u8u9uAuBuCuDuEuFtA0u1u2u3u4u5u6u7u8u9uAuBuCuDuEuFtB0u1u2u3u4u5u6u7u8u9uA",
   "uBuCuDuEuFtC0u1u2u3u4u5u6u7u8u9uAuBuCuDuEuFtD0u1u2u3u4u5u6u7u8u9uAuBuCuDuEuFtE0u1u2u3u4u5u6u7",
   "u8u9uAuBuCuDuEuFtF0u1u2u3u4u5u6u7u8u9uAuBgITERATION MARKcT AND BOLT",
   "bYIAKENG PUACHUE HMONG CIRCLED CAxDIGIT EIGHTbdFIVEbeOURbdNINEbdONEbdSEVENbeIXbdTHREEbeWO",
   "bdZEROxLETTER AbfAbeCAbeDAbfLAbeEbfEbeFAbeGAbeHAbgHbeIbeKAbeLAbeMAbfLAbeNAbfCAbfKAbfPAbgLA",
   "bfQAbfRAbfTAbgSAbgXAbfYAbeObfObePAbfLAbeQAbeRAbfRAbeSAbeTAbfSAbfXAbeUbeVAbeWbeXAbfYAbeYAbeZA",
   "yOGOGRAM NYAJxSIGN FOR ANIMALbgINVERTEBRATEbgLOCATIONbgPERSONbgTHINGbcXW XW",
   "yYLLABLE LENGTHENERxTONE-BbcDbcGbcJbcMbcSbcVaOBJECT REPLACEMENT CHARACTER",
   "cLIQUE ANGLE OPENING DOWNwUPiHYPHENcSERVER EYE SYMBOLbCR AMOUNT OF CHECKeBELT BUCKLEfOW TIE",
   "fRANCH BANK IDENTIFICATIONeCHAIRfUSTOMER ACCOUNT NUMBEReDASHfOUBLE BACKSLASHeFORKeHOOK",
   "eINVERTED FORKcTAGONAL SIGNdOPUSbDENbFFICE BUILDINGbGHAM FEATHER MARKgLETTER AILMnBEITHnCEIRT",
   "oOLLnDAIRnEABHADHpDHADHpMHANCHOLLnFEARNnGORTnIFINoODHADHnLUISnMUINnNGEADALoIONnONNoRnPEITH",
   "nRUISnSAILoTRAIFnTINNEnUATHoILLEANNoRgREVERSED FEATHER MARKgSPACE MARKcONEKbHM SIGNbIL DRUM",
   "bK HAND SIGNbL CHIKI AHADjDIGIT EIGHTpFIVEqOURpNINEpONEpSEVENqIXpTHREEqWOpZERO",
   "jGAAHLAA TTUDDAAGjLETTER AAJsKsMsWrGrLrNGrTqEDDrNrPrRRqIHrNYrRrSqLAsArErIrOrUqOBrHrTTrVqUCrD",
   "rNNrYjMU TTUDDAGl-GAAHLAA TTUDDAAGjPHAARKAAkUNCTUATION DOUBLE MUCAADvMUCAADjRELAA",
   "cD CHINESE HOOK MARKmITERATION MARKeHUNGARIAN CAPITAL LETTER AbeAbeKbeMBbeNDbdCLOSE EbdEbeB",
   "beCbfHbfSbeDbeEbeFbeGbfYbeHbeJbeKbeLbfYbeMbfPbeNbfCbfTbg-SHAPED SIGNbfYbePbeRbeSbfZbeTbfYbeV",
   "beZbfSbdIbeIbdNIKOLSBURG OEboUEbdObeEEbeObdRUDIMENTA OEbnUEbdSHORT ERbdUbeNKbeSbeU",
   "oNUMBER FIFTYxVEvONEy HUNDREDzTHOUSANDvTENoSMALL LETTER AbcAbcKbcMBbcNDbbCLOSE EbbEbcBbcCbdH",
   "bdSbcDbcEbcFbcGbdYbcHbcJbcKbcLbdYbcMbdPbcNbdCbdTbe-SHAPED SIGNbdYbcPbcRbcSbdZbcTbdYbcVbcZbdS",
   "bbIbcIbbNIKOLSBURG OEbmUEbbObcEEbcObbRUDIMENTA OEblUEbbSHORT ERbbUbcNKbcSbcUeITALIC LETTER A",
   "sBEsCHEsDEsEtFtKStLtMtNtRuStSuHuSsHEsItIsKAtEtHEtUsNORTHERN TSEsOsPEtHEsSHEtOUTHERN TSEsTEtHE",
   "sUtUsVEsYEsZElNUMERAL FIFTYvVEtONEtTENeKEYeNORTH ARABIAN LETTER AINbaLEFzBEHzDADbbLzES-1bc2",
   "bc3zFEHzGEEMbaHAINzHAHbaEHzKAFbaHAHzLAMzMEEMzNOONzQAFzREHzSADzTAHbaEHbaHALbbEHzWAWzYEHzZAH",
   "bbINsNUMBER ONEzTENbaWENTYePERMIC LETTER ANsBURsCHERYsDOItZHOIuITAsEtFsGAIsHAsItAtEsKOKEsLEI",
   "sMENOEsNENOEsOtOsPEEIsREIsSHCHOOIuOOItIIsTAItSIUsUsVERtOOIsYAuTtERvIvUtRYtUsZATAtHOI",
   "hSIAN NUMBER HUNDREDtONEtTENuWENTYvOmSIGN AsURAMAZDAAbb-2bbHArBAtGAsUUMISHrCArDAtHYAAUSHba-2",
   "sIsUrFArGAsUrHArIrJAsIrKAsUrLArMAsIsUrNAsUrPArRAsUrSAsHAsSArTAsHAsUrUrVAsIrXAsSHAAYATHIYArYA",
   "rZAmWORD DIVIDERiONAL COMPUTEReSOGDIAN FRACTION ONE HALFmLETTER ALEPHvTERNATE AYINuYINtBETH",
   "tFINAL ALEPHzBETHzHEzNUNbc WITH VERTICAL TAILzSADHEbe WITH VERTICAL TAILzTAW",
   "bc WITH VERTICAL TAILtGIMELtHEvTHtKAPHtLAMEDHtMEMtNUNtPEtRESH-AYIN-DALETHtSADHEvMEKHuHINtTAW",
   "tWAWtYODHtZAYINnIGATURE AYIN-DALETHmNUMBER FIVEuOURtONEw HUNDREDtTENuHIRTYvREEuWENTYvO",
   "gUTH ARABIAN LETTER ALEFbaYNzBETHzDALETHbaHADHEbcLETHzFEzGHAYNbaIMELzHEbbTHzKAPHbaHETHzLAMEDH",
   "zMEMzNUNzQOPHzRESHzSADHEbbMEKHbbTbaHINzTAWbaETHbaHAWbbETHzWAWzYODHzZAYNsNUMBER FIFTYzONE",
   "vERIC INDICATOReTURKIC LETTER ORKHON AbaBbaDbaEBbbDbbGbbKbbLbbNbbRbbSbbTbbYbaGbaLbaNbaQbaRbaS",
   "bbHbaTbaYzBASHzECbaLTbaMbaNCbbGbbTbbYbaPbaSHbaZzIbaCbaQzObaEbbKbaPbaQbaTsYENISEI AbbBbbDbbE",
   "bcBbcGbcKbcNbdGbcTbcYbbGbbLbbNGbbQbbRbbSHbbTbbYbaEbbCbbNCbcTbcYbbSHbbZbaIbbQbaOEbcKbbQ",
   "eUYGHUR COMBINING DOT ABOVEzBELOWvTWO DOTS ABOVEbeBELOWlLETTER ALEPHsBETHsFINAL HETH",
   "sGIMEL-HETHsKAPHsLAMEDHtESHsMEMsNUNsPEsRESHsSADHEuMEKHtHINsTAWsWAWsYODHsZAYINlPUNCTUATION BAR",
   "xFOUR DOTSxTWO BARSbbDOTSdER ADULTgMANgWOMANcIVEbM SYMBOL",
   "bN WITH EXCLAMATION MARK WITH LEFT RIGHT ARROW ABOVEcCOMING AUTOMOBILEjBUSjFIRE ENGINE",
   "jPOLICE CARjTAXIcE BUTTON MOUSEeDOT LEADERiOVER TWO DOTS PUNCTUATIONd-PIECE SWIMSUITcION",
   "bPEN BOOKhXfCENTRE ASTERISKmBLACK STARmCROSSmTEARDROP-SPOKED ASTERISKfFILE FOLDERgOLDER",
   "fHANDS SIGNfLOCKfMAILBOX WITH LOWERED FLAGsRAISED FLAGfSUBSEThPERSET",
   "e-CIRCUIT-OUTPUT H-TYPE SYMBOLuL-TYPE SYMBOLfOUTLINED RIGHTWARDS ARROWdRATING SYSTEM COMMAND",
   "cHIUCHUScPOSITIONcTICAL DISCm ICONeON KEYbR WITH DOT INSIDEcANGE BOOKhHEARTfUTANcIGINAL OF",
   "dYA AI LENGTH MARKhU LENGTH MARKgDIGIT EIGHTmFIVEnOURmNINEmONEmSEVENnIXmTHREEnWOmZERO",
   "gFRACTION ONE EIGHTHtHALFtQUARTERtSIXTEENTHpTHREE QUARTERSvSIXTEENTHSgISSHARgLETTER AoAoIoU",
   "nBAoHAnCAoHAnDAoDApHAoHAnEnGAoHAnHAnIoInJAoHAnKAoHAnLAoLAnMAnNAoGAoNAoYAnOnPAoHAnRAoHAoRAnSA",
   "oHAoSAnTAoHAoTApHAnUoUnVAoOCALIC LwLvRwRnWAnYAoYAgSIGN ANUSVARAmVAGRAHAlCANDRABINDUlNUKTA",
   "lOVERLINElVIRAMAnSARGAgVOWEL SIGN AAsIsUrErIsIrOrUsUrVOCALIC LbaLzRbaRcNATE LEFT PARENTHESIS",
   "hRIGHT PARENTHESIScTHODOX CROSSbSAGE CAPITAL LETTER AwHwIxNvBRAvCHAvDHAvEwHCHAxKAxPAxTAySAwIN",
   "vGHAvHAwYAvIvKAwHAwYAvLAvMAvNAvOwINvPAvSAwHAvTAwSAxHAvUvWAvZAwHAgSMALL LETTER AuHuIvNtBRAtCHA",
   "tDHAtEuHCHAvKAvPAvTAwSAuINtGHAtHAuYAtItKAuHAuYAtLAtMAtNAtOuINtPAtSAuHAtTAuSAvHAtUtWAtZAuHAcC",
   "cMANYA DIGIT EIGHToFIVEpOURoNINEoONEoSEVENpIXoTHREEpWOoZEROiLETTER AqAqLEFpBApCAYNpDEELqHApE",
   "qEpFApGApHApIpJApKAAFqHApLAANpMIINpNUUNpOqOpQAAFpRApSAqHIINpTApUpWAWpXApYAbTTER",
   "dOMAN SIYAQ ALTERNATE NUMBER EIGHTbfFIVEbgOURbj HUNDREDbfNINEbfSEVENbgIXbi HUNDREDbfTEN",
   "bi THOUSANDbgHREEbgWObi THOUSANDoFRACTION ONE HALFbbSIXTHoMARRATANoNUMBER EIGHTba HUNDRED",
   "bbTHOUSANDbaYbb THOUSANDvFIFTYba THOUSANDxVEz HUNDREDbaTHOUSANDwORTYba THOUSANDxURz HUNDRED",
   "baTHOUSANDvNINEz HUNDREDbaTHOUSANDzTYbb THOUSANDvONEy HUNDREDzTHOUSANDvSEVENba HUNDRED",
   "bbTHOUSANDbaTYbc THOUSANDwIXy HUNDREDzTHOUSANDyTYba THOUSANDvTENy THOUSANDwHIRTYbb THOUSAND",
   "xREEba HUNDREDbbTHOUSANDwWENTYbb THOUSANDxOy HUNDREDzTHOUSANDbUNCE SIGNcTBOX TRAY",
   "dLINED BLACK STARjGREEK CROSSjLATIN CROSSjWHITE STARbVERHEATED FACEeLAPhPING BLACK SQUARES",
   "mWHITE AND BLACK SQUARESsSQUARESfINEbWLbXbYSTERaPACKAGEcDdDING CHARACTERcGEe FACING UP",
   "fWITH CIRCLED TEXTlURLeReSdODAcHAWH HMONG CLAN SIGN FAJxHAMzWJxKHAByOOyWMxLAUJyISxMUASxPHAB",
   "xTHOJySABzHEEJzWBxVAJyWJxXYOOJxYAJyEEGoONSONANT AUxCAUyHAUxHAUyLAUyNAUxLAUxMAUxNAUyCHAUyKAU",
   "yLAUyTHAUzSAUxPLHAUxQHAUxRAUxVAUxXAUxYAUnDIGIT EIGHTtFIVEuOURtNINEtONEtSEVENuIXtTHREEuWOtZERO",
   "nMARK CIM HOMwKESxHAVwSOxUAMwTAUMxUBnNUMBER HUNDRED MILLIONSbbSuMILLIONSuTEN BILLIONS",
   "yTHOUSANDSxSvRILLIONSnSIGN AVsCIM CHEEMxUAM TSHOOJwHAIS LUS NTOG NTOGwNRES TOSwPUB DAWB",
   "wTSOV ROGxXWVba CHWVsHLItNUBsIB YAMsLOSsMEEJ SUABxTSEEBtUSsNQIGtTUJsTAUtHIRD-STAGE HLI",
   "tXHEEJ CEEVsVOS FEEMwLUBwNRUAwSEEVwTHIAByOMxSHAB CEEBsXAUStIABtYEEM FAIByNTXIVyRHOyTOVuOO",
   "sZWJ THAJnVOWEL KAABwVvBvIBwVvUBwVvVvWBwVuEBvEBwVvVuIABwVvBvVuOBvOBwVvVuUABwVvBvVuWBvVcLLAS",
   "dM BRANCHfDOWN HANDfTREEfUP HANDeS UP TOGETHEReYRENE LEFT-POINTING FLEURONmTTER ALEPHsYIN",
   "rBETHrDALETHrFINAL NUNrGIMELrHEtTHrKAPHrLAMEDHrMEMrNUNrPErQOPHrRESHrSADHEtMEKHsHINrTAWsETH",
   "rWAWrYODHrZAYINkNUMBER FIVEsOURrONErTENsHREEsWENTYtOkRIGHT-POINTING FLEURONcNCAKESdDA FACE",
   "cPERCLIPcRACHUTEeGRAPH SEPARATORjOSjUS MARKeLLEL TOjWITH HORIZONTAL STROKEoTILDE OPERATOR",
   "dENTHESIZED DIGIT EIGHTuFIVEvOURuNINEuONEuSEVENvIXuTHREEvWOoHANGUL CHIEUCHbc AwIEUCba AbbU",
   "vHIEUHba AvIEUNGba AvKHIEUKHbc AwIYEOKbb AvMIEUMba AvNIEUNba AvPHIEUPHbc AwIEUPba AvRIEULba A",
   "vSIOSz AvTHIEUTHbc AwIKEUTbb AoIDEOGRAPH ALLIANCEyCALLzONGRATULATIONyEARTHzIGHTzNTERPRISE",
   "yFESTIVALzINANCIALbaREbaVEzOURyHAVEyLABORyMETALzOONyNAMEzINEyONEyREACHbaPRESENTbaSOURCEbbT",
   "ySELFbaVENzIXzOCIETYzPECIALzTOCKbaUDYzUNbaPERVISEyTENzHREEzWOyWATERzOODoKOREAN CHARACTER O HU",
   "bgJEONoLATIN CAPITAL LETTER AbjBbjCbjDbjEbjFbjGbjHbjIbjJbjKbjLbjMbjNbjObjPbjQbjRbjSbjTbjUbjV",
   "bjWbjXbjYbjZuSMALL LETTER AbhBbhCbhDbhEbhFbhGbhHbhIbhJbhKbhLbhMbhNbhObhPbhQbhRbhSbhTbhUbhVbhW",
   "bhXbhYbhZoNUMBER EIGHTEENwLEVENvFIFTEENwOURTEENvNINETEENvSEVENTEENwIXTEENvTENwHIRTEENwWELVE",
   "yNTYdROTdT ALTERNATION MARKeIAL DIFFERENTIALiLINE BACKWARDnDOWNnFORWARDnUP",
   "hLY-RECYCLED PAPER SYMBOLeNERSHIP SIGNeY POPPERcSSED SYMBOLfNGER SHIP",
   "eIVE-PULL-DOWN-OUTPUT SYMBOLnUP-OUTPUT SYMBOLePORT CONTROLcU CIN HAU GLOTTAL STOPy FINAL",
   "zVARIANTmLETTER AtBAtCAuHAtDAtEtFAuINAL KzLzMzNbaGzPzTzWzYtGAtHAtIuAtKAuHAtLAtMAtNAuGAtOtPA",
   "uHAtRAtSAtTAuHAtUuAtVAtZAnOW-FALLING TONEbc FINALbdLONGbh FINALmMID-LEVEL TONEba FINAL",
   "bbLONG FINALmRISING TONEx FINALyLONGbc FINALmSANDHI GLOTTAL STOPbf FINALtTONEx FINALyLONG",
   "bc FINALcW PRINTSbDFcIbEACE SYMBOLeHeOCKdNUTSdRcDESTRIANcN OVER STAMPED ENVELOPEdCILdGUIN",
   "dSIVE FACEdTAGRAMcOPLE HUGGINGcR MILLE SIGNeSIGNeTEN THOUSAND SIGNdCENT SIGNdFORMING ARTS",
   "dMANENT PAPER SIGNdPENDICULARn WITH SdSEVERING FACEeON BOWING DEEPLYhCLIMBINGhDOING CARTWHEEL",
   "hFROWNINGhIN LOTUS POSITIONkSTEAMY ROOMhRAISING BOTH HANDS IN CELEBRATIONhWITH BALLnLOND HAIR",
   "mCROWNmFOLDED HANDSmHEADSCARFmPOUTING FACEgAL COMPUTERePECTIVEcSETA SIGNdO SIGNcTRI DISH",
   "bHAGS-PA DOUBLE HEAD MARKjLETTER ArLTERNATE YArSPIRATED FAqBAqCAsNDRABINDUrHAqDArDArZAqErEqFA",
   "qGArGAqHAqIqJAqKArHAqLAqMAqNArGArNArYAqOqPArHAqQAqRAqSArHArMALL AqTArHArSAsHArTAsHAqU",
   "qVOICED HAvLESS SHAqWAqXAqYAqZArHAjMARK DOUBLE SHADoSHADjSINGLE HEAD MARKkUBJOINED LETTER RA",
   "baWAbaYAlPERFIXED LETTER RAdISTOS DISC SIGN ARROWtBEEwHIVEuOOMERANGvWuULLS LEGtCAPTIVE",
   "vRPENTRY PLANEvTuHILDuLUBuOLUMNvMBxINING OBLIQUE STROKEtDOLIUMvVEtEAGLEtFLUTEtGAUNTLETuRATER",
   "tHELMETuIDEuORNtLIDvLYtMANACLESvTTOCKtOX BACKtPAPYRUSuEDESTRIANuLANE TREEvUMED HEADtRAM",
   "uOSETTEtSAWuHIELDwPuLINGuMALL AXEuTRAINERtTATTOOED HEADuIARAuUNNYtVINEtWAVY BANDuOMAN",
   "cILIPPINE DOUBLE PUNCTUATIONlSINGLE PUNCTUATIONcOENICIAN LETTER AINtLFsBETsDELTsGAMLsHEuTsKAF",
   "sLAMDsMEMsNUNsPEsQOFsROSHsSADEtEMKtHINsTAUtETsWAUsYODsZAIlNUMBER ONEv HUNDREDsTENtHREEtWENTY",
   "uOlWORD SEPARATORdLUSbICKeUP TRUCKcEcGd FACEeNOSEcLCROW SIGNdE OF POOdLcNATAdCHED FINGERS",
   "fING HANDdE DECORATIONeAPPLEdWHEEL STARcSCESdTOLcTCHFORKj WITH TEE TOPbLACARD",
   "eE OF INTEREST SIGNjWORSHIPdNCK CONSTANTp OVER TWO PIdYGROUND SLIDEeING CARD ACE OF CLUBS",
   "uDIAMONDSuHEARTSuSPADESnBACKoLACK JOKERnEIGHT OF CLUBSwDIAMONDSwHEARTSwSPADESnFIVE OF CLUBS",
   "vDIAMONDSvHEARTSvSPADESoOOLpUR OF CLUBSvDIAMONDSvHEARTSvSPADESnJACK OF CLUBSvDIAMONDSvHEARTS",
   "vSPADESnKING OF CLUBSvDIAMONDSvHEARTSvSPADESoNIGHT OF CLUBSxDIAMONDSxHEARTSxSPADES",
   "nNINE OF CLUBSvDIAMONDSvHEARTSvSPADESnQUEEN OF CLUBSwDIAMONDSwHEARTSwSPADESnRED JOKER",
   "nSEVEN OF CLUBSwDIAMONDSwHEARTSwSPADESoIX OF CLUBSuDIAMONDSuHEARTSuSPADESnTEN OF CLUBS",
   "uDIAMONDSuHEARTSuSPADESoHREE OF CLUBSwDIAMONDSwHEARTSwSPADESoRUMP-1u0u1u2u3u4u5u6u7u8u9t2u0u1",
   "t3t4t5t6t7t8t9oWO OF CLUBSuDIAMONDSuHEARTSuSPADESnWHITE JOKERcDcUdNGERdS SIGN",
   "j ABOVE EQUALS SIGNkIN LEFT HALF CIRCLEnRIGHT HALF CIRCLEnTRIANGLEkWITH BLACK TRIANGLE",
   "pCIRCUMFLEX ACCENT ABOVEpDOT BELOWpSMALL CIRCLE ABOVEqUBSCRIPT TWOpTILDE ABOVEvBELOW",
   "e-MINUS SIGNdTOf FORM FIVEmOURlTHREEmWObMbOCKET CALCULATORcLICE CARkS REVOLVING LIGHThOFFICER",
   "cODLEcP DIRECTIONAL FORMATTINGqISOLATEdCORNcRTABLE STEREOcSEIDONdITION INDICATORdTAL HORN",
   "hMARKl FACEeBOXcT OF FOODdABLE WATER SYMBOLeTOdTED PLANTcUCHdLTRY LEGdND SIGNdRING LIQUID",
   "dTING CAT FACEiFACEcWER ON SYMBOLi-OFF SYMBOLgSLEEP SYMBOLhYMBOLbRAYER BEADScECEDES",
   "i ABOVE ALMOST EQUAL TOpEQUALS SIGNpNOT ALMOST EQUAL TOtEQUAL TOpSINGLE-LINE EQUALS SIGN",
   "bbNOT EQUAL TOjBUT NOT EQUIVALENT TOjOR EQUAL TOpIVALENT TOjUNDER RELATIONdGNANT MANjPERSON",
   "jWOMANdSCRIPTION TAKEeENTATION FORM FOR VERTICAL COLONbhMMAbfEM DASHbgN DASHbgXCLAMATION MARK",
   "bfHORIZONTAL ELLIPSISbfIDEOGRAPHIC COMMAbrFULL STOPbfLEFT ANGLE BRACKET",
   "bkBLACK LENTICULAR BRACKETbkCORNER BRACKETblURLY BRACKETbkDOUBLE ANGLE BRACKETbkPARENTHESIS",
   "bkSQUARE BRACKETbkTORTOISE SHELL BRACKETbkWHITE CORNER BRACKETbqLENTICULAR BRACKETbgOW LINE",
   "bfQUESTION MARKbfRIGHT ANGLE BRACKETblBLACK LENTICULAR BRACKETblCORNER BRACKETbmURLY BRACKET",
   "blDOUBLE ANGLE BRACKETblPARENTHESISblSQUARE BRACKETblTORTOISE SHELL BRACKET",
   "blWHITE CORNER BRACKETbrLENTICULAR BRACKETcfKCETbfSEMICOLONbfTWO DOT LEADERbfWAVY LOW LINE",
   "dTZELdVIOUS PAGEcIMEdNCEgSSeT SCREEN SYMBOLfERh ICONdVACY MESSAGEfTE USE ONEmTWOl-1m2",
   "cOBING CANEdHIBITED SIGNdJECTIVEdPERTY LINEeORTIONkAL TOdSERPINA",
   "bSALTER PAHLAVI FOUR DOTS WITH CROSSbfDOTqLETTER ALEPHxBETHxDALETHxGIMELxHEzTHxKAPHxLAMEDH",
   "xMEM-QOPHxNUNxPExSADHEzMEKHyHINxTAWxWAW-AYIN-RESHxYODHxZAYINqNUMBER FOURxONEba HUNDREDxTEN",
   "yHREEyWENTYzOqSECTION MARKqTURNED SECTION MARKbU1c2cBLIC ADDRESS LOUDSPEAKERcNCTUATION SPACE",
   "gS ELEVATUS MARKcRPLE HEARTdSEcSHPINcT LITTER IN ITS PLACE SYMBOLaQUADRANT LOWER LEFTpRIGHT",
   "jUPPER LEFTt AND LOWER LEFT AND LOWER RIGHTbeRIGHTyUPPER RIGHT AND LOWER LEFTbuRIGHTpRIGHT",
   "u AND LOWER LEFTbj AND LOWER RIGHTfUPLE INTEGRAL OPERATORkPRIMEdRTER NOTE",
   "dTERNION INTEGRAL OPERATORcESTION EXCLAMATION MARKjMARKiED EQUAL TOcINCUNXcOTATION MARK",
   "aRABBITg FACEcCCOONdING CARhMOTORCYCLEcDICAL SYMBOL BOTTOMeOf BUTTONfACTIVE SIGNcILWAY CAR",
   "iTRACKdNeBOWdSED BACK OF HANDhCOMMAhDOTkTED INTERPOLATION MARKERhFISThHAND",
   "l WITH FINGERS SPLAYEDrPART BETWEEN MIDDLE AND RING FINGERShINTERPOLATION MARKERhMC SIGN",
   "iD SIGNiR SIGNhSQUAREcMcTdIOcZORbECEIPTdORD SEPARATORdREATIONAL VEHICLEdYCLED PAPER SYMBOL",
   "gING SYMBOL FOR GENERIC MATERIALSvTYPE-1 PLASTICSba2 PLASTICSba3 PLASTICSba4 PLASTICS",
   "ba5 PLASTICSba6 PLASTICSba7 PLASTICScD APPLEeGIFT ENVELOPEcFERENCE MARK",
   "cGIONAL INDICATOR SYMBOL LETTER AbhBbhCbhDbhEbhFbhGbhHbhIbhJbhKbhLbhMbhNbhObhPbhQbhRbhSbhTbhU",
   "bhVbhWbhXbhYbhZeSTERED SIGNcJANG CONSONANT SIGN HwNxGwRhLETTER AoBAoCAoDAoGAoHAoJAoKAoLAoMA",
   "pBAoNApDApGAqGApYAqJAoPAoRAoSAoTAoWAoYAhSECTION MARKhVIRAMAiOWEL SIGN AItUsEtAtUsIsOsU",
   "cLIEVED FACEcMINDER RIBBONcPLACEMENT CHARACTERcSPONSEdTRICTED LEFT ENTRY-1w2fOOMcTURN LEFT",
   "hRIGHThSYMBOLcVERSE CHECKER BOARDiINDEXiLIGHT FOUR POINTED PINWHEEL STARkNE FEEDiSOLIDUS",
   "p OPERATORqPRECEDING SUBSETqWITH HORIZONTAL STROKEiTILDE OPERATOR ABOVE LEFTWARDS ARROW",
   "bdRIGHTWARDS ARROWhD ANGLEo WITH UNDERBARjCOMMAjDOUBLE PRIMEv QUOTATION MARKqSTROKE NOT SIGN",
   "jEMPTY SETjFORKED PARAGRAPHOSjHAND WITH MIDDLE FINGER EXTENDEDjNOT SIGNjPILCROW SIGNkRIME",
   "jQUESTION MARKjRAISED HAND WITH FINGERS SPLAYEDkIGHT ANGLEkOTATED FLORAL HEART BULLET",
   "jSANS-SERIF CAPITAL LkEMICOLONjTHUMBS DOWN SIGNqUP SIGNkILDEo EQUALSkRIPLE PRIMEjVICTORY HAND",
   "dOLVING HEARTSbHINOCEROSbIcAL SIGNcBBONg ARROW DOWN LEFTsRIGHTnLEFT DOWNsUPnRIGHT DOWNtUP",
   "nUP LEFTqRIGHTcCE BALLfCRACKERcFLEcGHT AND LOWER ONE EIGHTH BLOCKkUPPER ONE EIGHTH BLOCK",
   "iGER BUBBLEjLEl BRACKETt WITH DOTmDOTTED SUBSTITUTION MARKERmSUBSTITUTION MARKER",
   "mVARIANT WITH SQUAREmWITH ARCrDOWNWARDS ZIGZAG ARROWhRC GREATER-THAN BRACKET",
   "iROW WITH CIRCLED PLUSrSMALL CIRCLEgBLACK LENTICULAR BRACKETmTORTOISE SHELL BRACKETgCEILING",
   "hORNER BRACKEThURLY BRACKETt LOWER HOOKuMIDDLE PIECEuUPPER HOOKgDOTTED SUBSTITUTION BRACKET",
   "iUBLE ANGLE BRACKEToRROW WITH ROUNDED HEADnPARENTHESISnQUOTATION MARKnWIGGLY FENCEgFISH TAIL",
   "iVE EIGHTHS BLOCKhLOORgHALF BLACK CIRCLErSTARnOCKlFOLDERlMEDIUM SHADElRUNNING MAN",
   "iND TELEPHONE RECEIVERgLOW PARAPHRASE BRACKETgNORMAL FACTOR SEMIDIRECT PRODUCT",
   "gONE EIGHTH BLOCKkQUARTER BLOCKhPEN SQUARED DOThUTER JOINgPARENTHESISr EXTENSIONsLOWER HOOK",
   "sUPPER HOOKgRAISED OMISSION BRACKETgS-SHAPED BAG DELIMITERhEMIDIRECT PRODUCT",
   "iVEN EIGHTHS BLOCKhIDEWAYS U BRACKETiNGLE QUOTATION MARKhPEAKERn WITH ONE SOUND WAVE",
   "tTHREE SOUND WAVESjECH BUBBLEhQUARE BRACKETu EXTENSIONvLOWER CORNERvUPPER CORNER",
   "vWITH DOUBLE STROKEbaQUILLbaSTROKEbaTICK IN BOTTOM CORNERbiTOP CORNERbaUNDERBAR",
   "hUBSTITUTION BRACKETgTACKhHIRD WHITE RIGHT POINTING INDEXiOUGHT BUBBLEiREE EIGHTHS BLOCK",
   "mQUARTERS BLOCKhORTOISE SHELL BRACKEThRANSPOSITION BRACKETiIANGLEo ABOVE LEFT TRIANGLE",
   "mULAR ONE QUARTER BLOCKgVERTICAL BAR WITH QUILLqOX LINEgWHITE CORNER BRACKETnURLY BRACKET",
   "mLENTICULAR BRACKETmPARENTHESISmSQUARE BRACKETmTORTOISE SHELL BRACKEThIGGLY FENCE",
   "f-FACING ARMENIAN ETERNITY SIGNnFISTnSVASTI SIGNy WITH DOTSgHANDED INTERLACED PENTAGRAM",
   "gPOINTING ANGLE BRACKETpCURVED ANGLE BRACKETpDOUBLE ANGLE QUOTATION MARKpMAGNIFYING GLASS",
   "gSHADED WHITE RIGHTWARDS ARROWhIDE ARC CLOCKWISE ARROWgTO-LEFT EMBEDDINGoISOLATEoMARK",
   "oOVERRIDEfHAND INTERIOR PRODUCTfWARDS ARROWq ABOVE ALMOST EQUAL TOxREVERSE ALMOST EQUAL TO",
   "bfTILDE OPERATORxSHORT LEFTWARDS ARROWxTILDE OPERATORsND UPPER AND LOWER ONE EIGHTH BLOCK",
   "rFROM BARz TO BLACK DIAMONDrOVER LEFTWARDS ARROWrTHROUGH GREATER-THANzSUPERSETzXsO BAR",
   "vLACK DIAMONDrWITH CORNER DOWNWARDSwDOTTED STEMyUBLE VERTICAL STROKEwEQUILATERAL ARROWHEAD",
   "wHOOKwLARGE TRIANGLE ARROWHEADxOOPwMEDIUM TRIANGLE ARROWHEADwNOTCHED TAILwPLUS BELOW",
   "wSMALL EQUILATERAL ARROWHEADbcTRIANGLE ARROWHEADxTROKEwTAILba WITH DOUBLE VERTICAL STROKE",
   "bgVERTICAL STROKExIP DOWNWARDSbaUPWARDSwVERTICAL STROKEq-TAIL",
   "lBACK-TILTED SHADOWED WHITE ARROWmLACK ARROWrCIRCLED WHITE ARROWmOTTOM SHADED WHITE ARROW",
   "lCOMPRESSED ARROWlDASHED ARROWmOUBLE ARROWx FROM BARyWITH STROKEbdVERTICAL STROKEx-TAIL",
   "sDASH ARROWlFINGER-POST ARROWmRONT-TILTED SHADOWED WHITE ARROWlHAND",
   "nRPOON OVER LEFTWARDS HARPOONtWITH BARB DOWN ABOVE LEFTWARDS HARPOON WITH BARB DOWN",
   "biBELOW LONG DASHbiFROM BARbiTO BARbhWARDSbdUP ABOVE LEFTWARDS HARPOON WITH BARB UPbnONG DASH",
   "bmRIGHTWARDS HARPOON WITH BARB DOWNbgFROM BARbgTO BARbfWARDSmEAVY ARROWrCOMPRESSED ARROW",
   "lLEFT-SHADED WHITE ARROWlOPEN-HEADED ARROWlPAIRED ARROWSlQUADRUPLE ARROW",
   "lRIGHT-SHADED WHITE ARROWmOCKETlSANS-SERIF ARROWmQUARED ARROWoIGGLE ARROW",
   "lTOP SHADED WHITE ARROWmRIANGLE ARROWHEADt-HEADED ARROW",
   "bg OVER LEFTWARDS TRIANGLE-HEADED ARROWbhTO BARbhWITH BOLD SHAFTbmDOUBLE HORIZONTAL STROKE",
   "btVERTICAL STROKEbmHEAVY SHAFTbmLONG TIP DOWNWARDSbvUPWARDSbmMEDIUM SHAFTbmNARROW SHAFT",
   "bmVERY HEAVY SHAFTbbDASHED ARROWbbPAIRED ARROWSoPLE ARROWsDASH ARROWmWO HEADED ARROW",
   "o-HEADED ARROW FROM BARbcWITH DOUBLE VERTICAL STROKEbhTAILbl WITH DOUBLE VERTICAL STROKE",
   "brVERTICAL STROKEbiRIANGLE ARROWHEADSbhVERTICAL STROKEwTRIPLE DASH ARROWlWAVE ARROW",
   "mHITE ARROWw FROM WALLxWITHIN TRIANGLE ARROWHEADcNGe ABOVEfBUOYfEQUAL TOfIN EQUAL TOfOPERATOR",
   "fPOINTeED PLANETeING BELLcSING DIAGONAL CROSSING FALLING DIAGONALzSOUTH EAST ARROWbLEcIcMcO",
   "bOASTED SWEET POTATOcBOT FACEcCKeETcLL OF PAPEReED-UP NEWSPAPERfR COASTERhSKATE",
   "eING ON THE FLOOR LAUGHINGcMAN AS SIGNgCENTURIAL SIGNgDENARIUS SIGNhIMIDIA SEXTULA SIGN",
   "hUPONDIUS SIGNgNUMERAL EIGHTpLEVENoFIFTYt EARLY FORMuTHOUSANDqVEs HUNDREDtTHOUSANDpOURoNINE",
   "oONEr HUNDREDz THOUSANDsTHOUSANDba C DoREVERSED ONE HUNDREDoSEVENpIXr LATE FORMoTENr THOUSAND",
   "pHREEpWELVEqOgQUINARIUS SIGNgSEMUNCIA SIGNiSTERTIUS SIGNiXTANS SIGNkULA SIGNhILIQUA SIGN",
   "gUNCIA SIGNcOSTERcSEeTTEcTATED CAPITAL QiFLORAL HEART BULLETiHEAVY BLACK HEART BULLET",
   "iLIGHT FOUR POINTED BLACK CUSPiWHITE FOUR POINTED CUSPcUND PUSHPINgTARGETfED SYMBOL FOR CAI",
   "tFUtLUtSHOUvUANGXItXIcWBOATbSbUBLE SIGNcGBY FOOTBALLcLE-DELAYEDcMI DIGIT EIGHTlFIVEmOURlNINE",
   "lONElSEVENmIXlTHREEmWOfFRACTION ONE HALFsQUARTERsTHIRDoTWO THIRDSfNUMBER EIGHT HUNDREDrY",
   "mFIFTYoVE HUNDREDnORTYoUR HUNDREDmNINE HUNDREDqTYmONE HUNDREDmSEVEN HUNDREDrTYnIX HUNDREDpTY",
   "mTENnHIRTYoREE HUNDREDnWENTYoO HUNDREDcNIC ARLAUG SYMBOLgBELGTHOR SYMBOLgCROSS PUNCTUATION",
   "gLETTER AC AoESCoLGIZ EOLHXoNSUZ AnBERKANAN BEORC BJARKAN BnCoALCoEALCpNoWEORTHnDoAGAZ DAEG D",
   "oOTTED-LuNuPnEoARoHWAZ EH EoNGoTHnFEHU FEOH FE FoRANKS CASKET ACbcESCbbEHbbISbbOSnGoAR",
   "oEBO GYFU GpRnHAEGL HpGLAZ HnICELANDIC-YRoNGqWAZoORoSAZ IS ISS IoWAZ EOHnJERAN JnKoAUN KrA",
   "nLAUKAZ LAGU LOGR LoONG-BRANCH-AR AEzHAGALL HzMADR MzOSS OzYRnMANNAZ MAN MnNAUDIZ NYD NAUD N",
   "nOoEoNoOoPEN-PoS OoTHALAN ETHEL OnPERTHO PEORTH PnQnRAIDO RAD REID RnSHpORT-TWIG-AR A",
   "yBJARKAN ByHAGALL HyMADR MyNAUD NyOSS OySOL SyTYR TyYRoIGEL LONG-BRANCH-SOL SoOWILO SoTAN",
   "nTHURISAZ THURS THORNoIWAZ TIR TYR TnURUZ UR UnVnWoUNJO WYNN WnXnYoRnZgMULTIPLE PUNCTUATION",
   "gSINGLE PUNCTUATIONgTVIMADUR SYMBOLdNEReING SHIRT WITH SASHcPEE SIGN",
   "cSSIAN ASTROLOGICAL SYMBOL BINOVILEbcNOVILEbcQUINTILEbcSENTAGONbcTREDECILEbcVIGINTILE",
   "aS IN TRIANGLEbAFETY PINhVESTcGITTARIUScILBOATcKE BOTTLE AND CUPcLT SHAKEReIREdUTING FACE",
   "cMARITAN ABBREVIATION MARKkLETTER ALAFrBAAsITrDALATrFIrGAMANrINsTsYrKAAFrLABATrMIMrNUNrQUF",
   "rRISHrSHANsINGAATrTAAFsITsSAADIYrYUTrZENkMARK DAGESHpEPENTHETIC YUTpINr-ALAFpNEQUDAA",
   "pOCCLUSIONlODIFIER LETTER EPENTHETIC YUTbaIbaSHORT AkPUNCTUATION AFSAAQxNGEDyNAAUxRKAANU",
   "xTMAAUwBAUwMELODIC QITSAwNEQUDAAwQITSAwSHIYYAALAAxOF MASHFAATwTURUwZAEFxIQAAkVOWEL SIGN AwAvE",
   "vIvLONG AbbAbaEbaIbaUvOwVERLONG AbfAvSHORT AwUKUNvUcNDWICH",
   "dS-SERIF HEAVY DOUBLE COMMA QUOTATION MARK ORNAMENTyTURNED COMMA QUOTATION MARK ORNAMENT",
   "rLOW DOUBLE COMMA QUOTATION MARK ORNAMENTlINTERROBANG ORNAMENTcRIcTELLITEj ANTENNAdURN",
   "cURASHTRA CONSONANT SIGN HAARUlDANDAmIGIT EIGHTrFIVEsOURrNINErONErSEVENsIXrTHREEsWOrZERO",
   "mOUBLE DANDAlLETTER AtAtItUsBAtHAsCAtHAsDAtDAuHAtHAsEtEsGAtHAsHAsItIsJAtHAsKAtHAsLAtLAsMAsNA",
   "tGAtNAtYAsOtOsPAtHAsRAsSAtHAtSAsTAtHAtTAuHAsUtUsVAtOCALIC LbbLbaRbbRsYAlSIGN ANUSVARA",
   "qCANDRABINDUqVIRAMAsSARGAlVOWEL SIGN AAxIxUwExEwIxIwOxOwUxUwVOCALIC LbfLbeRbfReOPODcXOPHONE",
   "bCALESdRFcHOOLg SATCHELcIcOOTERdRPIONgUScREENeWDRIVERdIPT CAPITAL BpEpFpHpIpLpMpPpR",
   "hLIGATURE ET ORNAMENThSMALL EnGnLnOdOLLdUPLEbEALdTcCOND PLACE MEDALdTION SIGNeORcDNA",
   "cE-NO-EVIL MONKEYdDLINGcGMENThED DIGIT EIGHTqFIVErOURqNINEqONEqSEVENrIXqTHREErWOqZEROcLFIE",
   "cMICOLONeDIRECT PRODUCT WITH BOTTOM CLOSEDeSEXTILEcPARATED SYMBOL",
   "cRIOUS FACE WITH SYMBOLS COVERING MOUTHdVICE MARKcSAME DOTdQUIQUADRATEcT MINUSeTRANSMIT STATE",
   "cWING NEEDLEcXTILEbGCbHADOWED WHITE CIRCLEpLATIN CROSSpSTARdLLOW PAN OF FOODdMROCK",
   "dRADA ABBREVIATION SIGNiCONTINUATION SIGNiDANDAjIGIT EIGHToFIVEpOURoNINEoONEoSEVENpIXoTHREE",
   "pWOoZEROjOUBLE DANDAiEKAMjXTRA SHORT VOWEL MARKiHEADSTROKEiLETTER AqAqIqUpBAqHApCAqHApDAqDA",
   "rHAqHApEpGAqHApHApIqIpJAqHApKAqHApLAqLApMApNAqGAqNAqYApOpPAqHApRApSAqHAqSApTAqHAqTArHApUqUpVA",
   "qOCALIC LyLxRyRpYAiOMiSANDHI MARKjECTION MARK-1v2kPARATORjIGN ANUSVARAoVAGRAHAnCANDRABINDU",
   "nINVERTED CANDRABINDUnJIHVAMULIYAnNUKTAnSIDDHAMnUPADHMANIYAnVIRAMApSARGAjUTRA MARK",
   "iVOWEL MODIFIER MARKoSIGN AAuIuUtEtIuItOtPRISHTHAMATRA EtUuUtVOCALIC LbcLbbRbcReKdVED ICE",
   "eIAN LETTER ADOqGEqHqIRqRErRAYqSHqWEpBIBpCHURCHpDEADpEARrTqGGqRRpFEEpGAGpHA-HAqUNGpIANqCEqF",
   "pJUDGEpKICKpLOLLpMEASUREqIMEpNUNpOAKqILqNqOZEqRqUTpPEEPpROARpSOqUREpTHEYrIGHqOTpUPpVOWpWOErOL",
   "pYEArWpZOOcEEPcIELDdFT INgOUTdNTO SHRINEdPcOCKED FACE WITH EXPLODING HEADdOTING STAR",
   "dPPING BAGSjTROLLEYdRT BACKSLANTED SOUTH ARROWhENT ARROW POINTING DOWNWARDS THEN NORTH EAST",
   "gDOWN TACKp WITH OVERBARgLEFT TACKgRIGHTWARDS ARROW ABOVE LEFTWARDS ARROWgSLANTED NORTH ARROW",
   "gUP TACKn ABOVE SHORT DOWN TACKoWITH UNDERBARfCAKEfHAND FORMAT CONTINUING OVERLAPrDOWN STEP",
   "rLETTER OVERLAPrUP STEPfSdULDERED OPEN BOXdWERcRIMPdUGcUFFLE PRODUCTcYbIcDDHAM DANDA",
   "jOUBLE DANDAiEND OF TEXT MARKiLETTER AqAqIqLTERNATE UqUpBAqHApCAqHApDAqDArHAqHApEpGAqHApHApI",
   "qIpJAqHApKAqHApLApMApNAqGAqNAqYApOpPAqHApRApSAqHAqSApTAqHArREE-CIRCLE ALTERNATE IqTArHA",
   "qWO-CIRCLE ALTERNATE IblIpUqUpVAqOCALIC LyLxRyRpYAiREPETITION MARK-1y2y3",
   "iSECTION MARK DOUBLE RINGbg WITH RAYSvWITH CIRCLES AND FOUR ENCLOSURESbmRAYSbmTWO ENCLOSURES",
   "baDOUBLE CRESCENTSbaQUADRUPLE CRESCENTSbaRAYS AND DOTTED CRESCENTSbqDOUBLE CRESCENTS",
   "bqTRIPLE CRESCENTSbaSEPTUPLE CRESCENTSbaTRIDENT AND DOTTED CRESCENTSbmU-SHAPED ORNAMENTS",
   "bdPLE CRESCENTSkPARATOR BARsDOTjIGN ANUSVARAnCANDRABINDUnNUKTAnSIDDHAMnVIRAMApSARGA",
   "iVOWEL SIGN AAuIuLTERNATE UbeUuUtEtIuItOtUuUtVOCALIC RbcRdEWAYS BLACK DOWN POINTING INDEX",
   "pLEFT POINTING INDEXpRIGHT POINTING INDEXpUP POINTING INDEXjWHITE DOWN POINTING INDEX",
   "pLEFT POINTING INDEXpRIGHT POINTING INDEXpUP POINTING INDEXcGN OF THE HORNS",
   "eWRITING AIR BLOW SMALL ROTATIONSuING OUTqSUCK SMALL ROTATIONSuING INmBREATH EXHALEtINHALE",
   "oUSH BETWEENsMULTIPLEsSINGLEmCHEEKS NEUTRALtPUFFEDtSUCKEDnOLONoMMA",
   "mDREAMY EYEBROWS DOWN NEUTRALbcNEUTRAL DOWNbkUPbcUP NEUTRALnYNAMIC ARROWHEAD LARGEbeSMALL",
   "uEVERY OTHER TIMEuFASTuGRADUALuRELAXEDuSIMULTANEOUSbg ALTERNATINGvLOWuTENSEmEARSnXCITEMENT",
   "nYE BLINK MULTIPLEwSINGLEqWINKpBROWS STRAIGHT DOWNbeNEUTRALbeUPpGAZE-FLOORPLANE CURVED",
   "bfSTRAIGHTbn ALTERNATINGboDOUBLEuWALLPLANE CIRCLINGbfURVEDbeSTRAIGHTbm ALTERNATINGbnDOUBLE",
   "pLASHES DOWNwFLUTTERINGwUPpS CLOSEDrHALF CLOSEDwOPENrOPENrSQUEEZEDrWIDE OPENvNING MOVEMENT",
   "mFACE DIRECTION POSITION NOSE FORWARD TILTINGbpUP OR DOWNbz TILTINGnILL MODIFIER-2ba3ba4ba5",
   "ba6oNGERnLICK LARGE MULTIPLEySINGLEsSEQUENTIALtMALL MULTIPLEySINGLE",
   "oOORPLANE SHOULDER HIP MOVEnOREHEAD CONTACTvNEUTRALvWRINKLEDnULL STOPmGRASP BETWEENsMULTIPLE",
   "sSINGLEmHAIRoND-ANGLEw INDEXbc MIDDLE LITTLEbkRINGbdRING LITTLEbo OUTbdTHUMBbi INbjOUT",
   "xLITTLE INDEXbj THUMB INDEX THUMBcb OUTbeUPxMIDDLE RING LITTLEbp INbqOUT",
   "xRING DOWN MIDDLE THUMB INDEX CROSSbcLITTLErCIRCLEx INDEXbd BENTbeHINGEbeMIDDLE",
   "bk CROSS LITTLEbqEDblLITTLEblRINGblTHUMBbeRING LITTLEyLITTLE INDEXbfUPyMIDDLE RING LITTLE",
   "bq BENTbfUPyRING LITTLEsLAWv FOUR FINGERS CONJOINEDwINDEX THUMB CURVE THUMB INSIDE",
   "wMIDDLE RING LITTLE CONJOINEDby SIDEwNO THUMBwTHUMB FORWARDbcSIDEsUPu FIVE FINGERS SPREAD",
   "bo OPENvINDEXba RING LITTLEbbTHUMBbg OPENvMIDDLE RING LITTLEvNO THUMBvOPENz NO THUMB",
   "baTHUMB FORWARDbgSIDEvTHUMB FORWARDbbSIDEtRLICUEz INDEX RING LITTLE ONbaMIDDLE RING LITTLE ON",
   "baOPENrFISTv FOUR FINGERS CONJOINED BENTwHEELwINDEXbb BENTbg OVER MIDDLEbcCUPPEDbcHINGED",
   "bi LOWbjMIDDLE UPbs THUMB SIDEbcMIDDLEbi BENTbn THUMB STRAIGHTbjCONJOINEDbs CUPPED",
   "bz THUMB FORWARDbtHINGEDbz THUMB SIDEbtINDEX BENTbtMIDDLE BENTbtTHUMB FORWARDbzSIDEcd BENT",
   "ceCONJOINEDbkROSS LITTLEboEDbq THUMB SIDEbjHINGEDbp SPREAD THUMB SIDEbjLITTLE",
   "bjRAISED KNUCKLESbkINGbn BENTboCONJOINEDbjSTRAIGHT THUMB BENTbjTHUMBbo ANGLEDbv OUTbpBENT",
   "bpCIRCLEDbqONJOINED HINGEDbqUPPEDbpHINGEDbqOOKEDbjUP SPREAD THUMB FORWARDbcRAISED KNUCKLE",
   "bdING LITTLEbcTHUMB ANGLED IN MIDDLE UPbpOUT MIDDLE UPbiCIRCLEboD MIDDLE UPbjUPPED MIDDLE UP",
   "bkRLICUEblVE THUMB INSIDEbuUNDERbiFORWARD INDEX BENTbwSTRAIGHTbiHOOKbmED MIDDLE HINGEDbwUP",
   "biSIDEbm BOTH BENTbnINDEX BENTbtHINGEbnTHUMB BENTbtCONJOINEDbtDIAGONALbcUP MIDDLE HINGED",
   "bs THUMB CONJOINEDbzSIDEwLITTLE BENTbdDOWNbh OTHERS CIRCLEDbiRIPPLE CURVEDbpSTRAIGHTbdINDEX",
   "bi THUMBbdRAISED KNUCKLEbdTHUMBbeOUCHES THUMBbdUPwMIDDLE BENT OVER INDEXbdDOWNbdLITTLE",
   "bdRAISED KNUCKLEbeING LITTLEbdTHUMB ANGLED INDEX UPbqOUT INDEX CROSSEDcaUP",
   "bjCIRCLED INDEX HINGEDbxUPbkUPPED INDEX UPbjHOOKED INDEX UPbjLITTLEbdUPbf THUMB SIDE",
   "wRING DOWNbbINDEXbbLITTLEbbMIDDLEbh CONJOINEDbiRAISED KNUCKLESbbRAISED KNUCKLEbbTHUMBbbUP",
   "wTHUMBbb BETWEEN INDEX MIDDLEbw STRAIGHTbkMIDDLE RINGbkRING LITTLEbcFORWARDbcHEEL",
   "bcOVER FOUR RAISED KNUCKLESbhTWO FINGERSbcSIDE BENTbhCONJOINEDbhDIAGONALbcUNDER FOUR FINGERS",
   "biINDEX BENTbiLITTLE UPbiTHREE FINGERSbjWO FINGERSsLATv BETWEEN PALM FACINGS",
   "wFIVE FINGERS SPREADbp BENTbqFOUR BENTbqHINGEDbw NO THUMBbxTHUMB SIDEbqTHUMB FORWARD",
   "xOUR FINGERSbi BENTbjCONJOINEDbs SPLITbjHINGEDwHEELba FIVE FINGERS SPREADbu BENTbvFOUR BENT",
   "bbTHUMB SIDEwSPLIT CENTREbi THUMB SIDEbt BENTbcINDEX THUMB SIDEbcLITTLEwTHUMB BENTbcFORWARD",
   "bcSIDErHINGEw FIVE FINGERS SPREAD OPENyOUR FINGERS CONJOINEDxINDEXbc HINGEDbdMIDDLE LITTLE",
   "bkRINGbo CONJOINEDbdRING LITTLEbdTHUMBbi LARGEbjOPENbjSIDEbkMALLxLITTLEbd INDEXbj THUMB",
   "beTHUMBxMIDDLEbd RING LITTLExNO THUMBxOPENbb NO THUMBbcTHUMB FORWARDbiSIDExRING",
   "bb DOWN INDEX THUMB HOOK MIDDLExSMALLxTHUMB BETWEEN MIDDLE RINGbdSIDEbh TOUCHING INDEXsOOK",
   "v CURLICUEwINDEX RING LITTLE INboOUTboUNDERwMIDDLE RING LITTLE CONJOINEDby INbzOUTbdTHUMB",
   "wRING THUMBrOVALv FIVE FINGERS SPREADwINDEXwLITTLE UPwNO THUMBwRING LITTLEwTHUMB FORWARD",
   "bcSIDEnEADq MOVEMENT CIRCLEz-FLOORPLANE CURVEblSTRAIGHTbaWALLPLANE CURVEbkSTRAIGHTbkTILTrRIM",
   "mLIMB COMBINATIONrLENGTH-1y2y3y4y5y6y7oP LOWER OVER UPPERqUPPER OVER LOWERpS PRESSED TOGETHER",
   "nOCATION DEPTHvHEAD NECKxIGHTvLIMBS DIGITSvTORSOvWIDTHu-FLOORPLANE SPACEvWALLPLANE SPACE",
   "mMOUTH CLOSED CONTACTzFORWARDzNEUTRALtORNERSsFROWNx OPENyWRINKLEDsKISSw FORWARDxWRINKLED",
   "sOPEN CIRCLExFORWARDxOVALbb WRINKLEDbcYAWNxRECTANGLEbg WRINKLEDbhYAWNxWRINKLEDsSMILEx OPEN",
   "yWRINKLEDsTENSEx FORWARDySUCKEDsWRINKLES DOUBLEbbSINGLEoVEMENT-DIAGONAL AWAY LARGEboST",
   "bjMEDIUMbjSMALLbeBETWEEN AWAY LARGEbwSTbrMEDIUMbrSMALLbmTOWARDS LARGEbzSTbuMEDIUMbuSMALL",
   "beTOWARDS LARGEbrSTbmMEDIUMbmSMALLvFLOORPLANE ARM CIRCLE HITTING WALL LARGE DOUBLEckSINGLE",
   "ceMEDIUM DOUBLEclSINGLEceSMALL DOUBLEckSINGLEbgBENDbhOX LARGEbkMEDIUMbkSMALLbgCHECK",
   "bhORNER LARGEbnMEDIUMbnSMALLbhROSSbhURVE COMBINEDbmHITTING CEILING LARGEccSMALLbuFLOOR LARGE",
   "caSMALLbmLARGEbrSTbmMEDIUMbmSMALLbgDOUBLE ALTERNATINGby WRIST FLEXbnSTRAIGHTbnWRIST FLEX",
   "bgFINGER CIRCLES HITTING WALL DOUBLEciSINGLEboONTACTbgHUMP HITTING CEILING LARGE DOUBLE",
   "chTRIPLEcbSMALL DOUBLEchTRIPLEbtFLOOR LARGE DOUBLEbzSMALL DOUBLEbzTRIPLE LARGE TRIPLE",
   "cgSMALL TRIPLEblSMALLbgJAWbgLOOP HITTING CEILING LARGE DOUBLEchSINGLEcbSMALL DOUBLEchSINGLE",
   "btFLOOR LARGE DOUBLEcfSINGLEbzSMALL DOUBLEcfSINGLEblSMALLbgPEAKS LARGEbmMEDIUMbmSMALL",
   "bgSHAKING PARALLELbhINGLE STRAIGHT LARGEcbSTbwMEDIUMbwSMALLbnWRIST FLEX",
   "bgTRIPLE ALTERNATING MOVEMENTbzWRIST FLEXbnSTRAIGHT MOVEMENTbnWRIST FLEX",
   "bgWAVE HITTING CEILING LARGEcbSMALLbtFLOOR LARGEbzSMALLblLARGEblSMALLbmNAKE",
   "bhRIST CIRCLE HITTING WALL DOUBLEcgSINGLEbgZIGZAG LARGEbnMEDIUMbnSMALLvHINGE DOWN SEQUENTIAL",
   "bbSIDE TO SIDE SCISSORSbbUP DOWN ALTERNATING LARGEbvSMALLbjLARGEbjSMALLbeSEQUENTIAL",
   "vWALLPLANE ARM CIRCLE MEDIUM DOUBLEbxSINGLEbqSMALL DOUBLEbwSINGLEbfBEND LARGEbkMEDIUMbkSMALL",
   "bgOX LARGEbjMEDIUMbjSMALLbfCHECK LARGEblMEDIUMblSMALLbgORNER LARGEbmMEDIUMbmROTATIONbmSMALL",
   "bgROSSbgURVE HALF-CIRCLE LARGEccSTbxMEDIUMbxSMALLbmITTING CHESTbtFRONT WALLblQUARTER LARGE",
   "bySTbtMEDIUMbtSMALLblTHEN STRAIGHTbnREE-QUARTER CIRCLE MEDIUMcgSMALLbkD CROSS MEDIUMbsSMALL",
   "bfDOUBLE ALTERNATINGbx WRIST FLEXbmSTRAIGHTbmWRIST FLEXbfFINGER CIRCLES DOUBLEbuSINGLE",
   "bnONTACTbfHUMP HITTING CHESTbsFRONT WALLbkLARGEbkMEDIUMbkSMALLbfJAWbfLOOP HITTING CHEST",
   "bsFRONT WALLbkLARGEbkMEDIUMbkSMALLbp DOUBLEbfPEAKS LARGEblMEDIUMblSMALLbfSHAKING",
   "bgINGLE STRAIGHT LARGEcaSTbvMEDIUMbvSMALLbmWRIST FLEXbfTRIPLE ALTERNATINGbx WRIST FLEX",
   "bmSTRAIGHT MOVEMENTbmWRIST FLEXbfWAVE CURVE DOUBLE LARGEbxMEDIUMbxSMALLbqTRIPLE LARGEbxMEDIUM",
   "bxSMALLbkDIAGONAL PATH LARGEbyMEDIUMbySMALLbkHITTING CHESTbsFRONT WALL",
   "bgRIST CIRCLE FRONT DOUBLEbySINGLEbfZIGZAG LARGEbmMEDIUMbmSMALLmNECKnOSE CONTACTrNEUTRAL",
   "rWIGGLESsRINKLESmPARENTHESISmROTATION MODIFIER-10bf1bf2bf3bf4bf5bf6be2be3be4be5be6be7be8be9",
   "u-FLOORPLANE ALTERNATINGbr HITTING CEILINGcaFLOORbgDOUBLEbm HITTING CEILINGbvFLOORbgSINGLE",
   "bm HITTING CEILINGbvFLOORvWALLPLANE ALTERNATEbnING HITTING CHESTbzFRONT WALLbfDOUBLE",
   "bl HITTING CHESTbuFRONT WALLbfSINGLEbl HITTING CHESTbuFRONT WALLnUB BETWEENqMULTIPLEqSINGLE",
   "mSEMICOLONnHOULDER HIP POSITIONSzSPINEvTILTING FROM WAISTnQUEEZE FLICK ALTERNATING",
   "uLARGE MULTIPLEbaSINGLEuSEQUENTIALvMALL MULTIPLEbaSINGLEnTRIKE BETWEENtMULTIPLEtSINGLE",
   "nURFACE BETWEENuSYMBOLSmTEETHr BITE LIPSsMOVEMENTsON LIPSz MOVEMENTvTONGUEbb MOVEMENT",
   "oNSE CHEEKS HIGHzLOWzMIDDLEnONGUE CENTRE INSIDE MOUTHbaSTICKING OUTtINSIDE MOUTH RELAXED",
   "tLICKING LIPStMOVES AGAINST CHEEKtSTICKING OUT FARtTIP BETWEEN LIPSxTOUCHING INSIDE MOUTH",
   "oRSO-FLOORPLANE TWISTINGsWALLPLANE CURVED BENDbcSTRAIGHT STRETCHoUCH BETWEENsMULTIPLEsSINGLE",
   "nRAVEL-FLOORPLANE ROTATION-FLOORPLANE ALTERNATINGbyDOUBLEbySINGLEbnWALLPLANE ALTERNATING",
   "bxDOUBLEbxSINGLEbeSHAKINGtWALLPLANE ARM SPIRAL DOUBLEboSINGLEboTRIPLE",
   "bdROTATION-FLOORPLANE ALTERNATINGbxDOUBLEbxSINGLEbmWALLPLANE ALTERNATINGbwDOUBLEbwSINGLE",
   "bdSHAKINGmUPPER BODY TILTING FROM HIP JOINTSmWALLPLANE SHOULDER HIP MOVEcLHOUETTE OF JAPAN",
   "cMILAR ABOVE GREATER-THAN ABOVE EQUALS SIGNoLESS-THAN ABOVE EQUALS SIGNiMINUS SIMILAR",
   "iOR GREATER-THANlLESS-THANcNE WAVEdGLE CHARACTER INTRODUCERhGRAPHIC CHARACTER INTRODUCER",
   "hHIGH-REVERSED-9 QUOTATION MARKhLEFT-POINTING ANGLE QUOTATION MARKiOW-9 QUOTATION MARK",
   "hRIGHT-POINTING ANGLE QUOTATION MARKhSHIFT THREEoWOg-SHIFT-2n3dHALA ARCHAIC DIGIT EIGHTwFIVE",
   "xOURwNINEwONEwSEVENxIXwTHREExWOqNUMBER EIGHTYxFIFTYyORTYxNINETYxONE HUNDREDbbTHOUSANDxSEVENTY",
   "yIXTYxTENyHIRTYyWENTYiLETTER AAYANNAqEEYANNArYANNAqIYANNAqLPAPRAANA BAYANNAbaCAYANNAbaDAYANNA",
   "bbDAYANNAbaGAYANNAbaJAYANNAbaKAYANNAbaPAYANNAbaTAYANNAbbTAYANNAqMBA BAYANNAqUYANNAqYANNA",
   "pDANTAJA LAYANNAxNAYANNAxSAYANNApEEYANNAqYANNApFAYANNApHAYANNApIIYANNAqLUUYANNAsYANNA",
   "qRUUYANNAsYANNAqYANNApKANTAJA NAASIKYAYApMAHAAPRAANA BAYANNAbbCAYANNAbbDAYANNAbcDAYANNA",
   "bbGAYANNAbbJAYANNAbbKAYANNAbbPAYANNAbbTAYANNAbcTAYANNArYANNAqUURDHAJA LAYANNAzNAYANNAzSAYANNA",
   "pOOYANNAqYANNApRAYANNApSANYAKA DAYANNAyDAYANNAxGAYANNAxJAYANNApTAALUJA NAASIKYAYA",
   "xSANYOOGA NAAKSIKYAYAzYANNApUUYANNAqYANNApVAYANNApYAYANNAjITH DIGIT EIGHTtFIVEuOURtNINEtONE",
   "tSEVENuIXtTHREEuWOtZEROiPUNCTUATION KUNDDALIYAiSIGN AL-LAKUNAoNUSVARAYAnCANDRABINDUnVISARGAYA",
   "iVOWEL SIGN AELA-PILLAtDIGA AEDA-PILLAyGAETTA-PILLAbaYANUKITTAyIS-PILLAyKOMBUVAyPAA-PILLA",
   "tGAETTA-PILLAvYANUKITTAtKETTI AEDA-PILLAzIS-PILLAzPAA-PILLAuOMBU DEKAyVAba HAA AELA-PILLA",
   "bfDIGA AELA-PILLAbfGAYANUKITTAcX PETALLED BLACK AND WHITE FLORETTEfOINTED BLACK STAR",
   "mPINWHEEL STARmSTAR WITH MIDDLE DOTd-PER-EM SPACEdTEEN POINTED ASTERISKbKATEBOARD",
   "cI AND SKI BOOTdERcULLf AND CROSSBONESdNKbLANTED EQUAL TO OR GREATER-THANbg WITH DOT INSIDE",
   "uLESS-THANbd WITH DOT INSIDEiNORTH ARROW WITH HOOKED HEADbbRIZONTAL TAILdVONIC ASTERISKcED",
   "dEPING ACCOMMODATIONjFACEjSYMBOLfY FACEdUTH OR SPYcICE OF PIZZAdGHTLY FROWNING FACE",
   "jSMILING FACEcOPEeING LARGE ANDoORdT MACHINEeHbMALL AIRPLANEhMPERSANDhSTERISKgBLUE DIAMOND",
   "gCOLONiMMAkERCIAL ATiNTAINS AS MEMBERpWITH OVERBARuVERTICAL BAR AT END OF HORIZONTAL STROKE",
   "gDOLLAR SIGNgELEMENT OFq WITH OVERBARwVERTICAL BAR AT END OF HORIZONTAL STROKEhM DASH",
   "hQUALS SIGNhXCLAMATION MARKgFULL STOPgGREATER-THAN SIGNgHYPHEN-MINUSgIDEOGRAPHIC COMMA",
   "gLEFT CURLY BRACKETlPARENTHESISlTORTOISE SHELL BRACKETiSS-THAN SIGNgNUMBER SIGN",
   "gORANGE DIAMONDgPERCENT SIGNhLUS SIGNgQUESTION MARKgREVERSE SOLIDUShIGHT CURLY BRACKET",
   "mPARENTHESISmTORTOISE SHELL BRACKEThOMAN NUMERAL EIGHTvLEVENuFIFTYwVEy HUNDREDvOURuNINEuONE",
   "x HUNDREDyTHOUSANDuSEVENvIXuTENvHREEvWELVEwOgSEMICOLONgTILDEhWO DOTS OVER ONE DOT PUNCTUATION",
   "gVEE WITH UNDERBARfER THANm OR EQUAL TOdSH PRODUCTcILEeING CAT FACE WITH HEART-SHAPED EYES",
   "wOPEN MOUTHiFACE WITH HALOtEART-SHAPED EYEStORNSsOPEN MOUTHbc AND COLD SWEATbhSMILING EYES",
   "bhTIGHTLY-CLOSED EYESsSMILING EYESbe AND HAND COVERING MOUTHbjTHREE HEARTStUNGLASSESsTEAR",
   "dRKING FACEcOKING SYMBOLbNAILdKEcEEZING FACEcOW CAPPED MOUNTAINeBOARDEReFLAKEeMAN",
   "h WITHOUT SNOWbOcCCER BALLdKScFT HYPHENfICE CREAMfSHELL FLOPPY DISKeBALLeWARE-FUNCTION SYMBOL",
   "cGDIAN COMBINING CURVE ABOVEyBELOWsDOT ABOVEwBELOWsHOOK ABOVExBELOWsLONG HOOK BELOW",
   "sRESH BELOWsSTROKE BELOWsTWO DOTS ABOVEbbBELOWiINDEPENDENT SHINiLETTER ALEPHqYINpBETHpFETH",
   "pGIMELpHErTHpKAPHpLAMEDHqESHpMEMpNUNpPEpRESH-AYINpSADHErMEKHqHINpTAWpWAWpYODHpZAYIN",
   "iNUMBER ONEs HUNDREDpTENqWENTYiPUNCTUATION CIRCLE WITH DOTuHALF CIRCLE WITH DOT",
   "uTWO CIRCLES WITH DOTSyVERTICAL BARSbl WITH DOTScHcLID QUILT SQUARE ORNAMENT",
   "bb IN BLACK SQUAREfUSh WITH OVERBARcM SIGNcON WITH RIGHTWARDS ARROW ABOVE",
   "cRA SOMPENG DIGIT EIGHTtFIVEuOURtNINEtONEtSEVENuIXtTHREEuWOtZEROnLETTER AHuBAHuCAHuDAHuEEHvH",
   "uGAHuHAHuIHuJAHuKAHuLAHuMAEwHuNAHvGAHvYAHuOHuPAHuRAHuSAHuTAHuUHuVAHuYAHcS",
   "cUND RECORDING COPYRIGHTdTH EAST ARROWq AND SOUTH WEST ARROWrCROSSING NORTH EAST ARROW",
   "rTO CORNERrWITH HOOKlBLACK ARROWlDOUBLE ARROWlPOINTING BUDuLEAFuVINE LEAFlSANS-SERIF ARROW",
   "lTRIANGLE-HEADED ARROWbg TO BARlWHITE ARROWgWEST ARROWq AND NORTH WEST ARROWrWITH HOOK",
   "lBLACK ARROWlDOUBLE ARROWlPOINTING BUDuLEAFuVINE LEAFlSANS-SERIF ARROWlTRIANGLE-HEADED ARROW",
   "bg TO BARlWHITE ARROWcYOMBO CLUSTER-INITIAL LETTER LAbfRAbfSAbgHAiFINAL CONSONANT SIGN -AbdB",
   "bdDbdGbdKbdLbdMbdNbeGbdRbdSbeHiGEMINATION MARKiHEAD MARK WITH MOON AND SUNbj AND FLAME",
   "boTRIPLE FLAMEiLETTER -ApApBAqHApCAqHApDAqDArHAqHAqZApGAqHApHApJAqHApKAqHAqSSApLApMApNAqGAqNA",
   "qYApPAqHApRApSAqHAqSApTAqHAqSArHAqTArHApVApYApZAqHAiMARK DOUBLE SHADnPLUTAnSHADnTSHEG",
   "iSIGN ANUSVARAnJIHVAMULIYAnUPADHMANIYAnVISARGAjUBJOINERiTERMINAL MARK-1w2iVOWEL LENGTH MARK",
   "oSIGN AIuUtEtItOuEtUuEtVOCALIC LbbRbPcAdCEdGHETTIdRKLEhSgING HEARTcEAK-NO-EVIL MONKEYfER",
   "h WITH CANCELLATION STROKEnONE SOUND WAVEnTHREE SOUND WAVESfING HEAD IN SILHOUETTE",
   "dECH BALLOONeDBOATdSMILO SIGNcHERICAL ANGLEp OPENING LEFTyUPcIDERg WEBdRAL CALENDAR PAD",
   "hNOTE PADhSHELLcLASHING SWEAT SYMBOLcONGEdOL OF THREADeNdRTS MEDALdUTING WHALEbQUARE A OVER M",
   "iARUiMiNPEAiPAATOiRUHUAiUhBAARERUjRiEETAiIRUiORUTOiQiUSSYERUhC OVER KGiALjPiCiDiMj CUBED",
   "kSQUAREDiOjRPORATIONiUPhDAjASUiBiESIiJiLiMj CUBEDkSQUAREDiORUhEEKAAiRA NAME HEISEIqMEIZI",
   "qREIWAqSYOUWAqTAISYOUjGiSUKUUDOiVhFMiOOTjUR CORNERShGALjNMAjRONiBiHZiIGAjNIIjRUDAAiPAiURAMU",
   "nTONiYhHAjITUiEKUTAARUjRUTUiGiIRAGANA HOKAiONjONkRUiPjAiUARADDOjIITOjRANiZhIMAGE OF",
   "p OR EQUAL TOtNOT EQUAL TOiNjINGUjTIiUhK OHMiAjIRIjRATTOkORIIiBiCALiEESUiGiHZiIROlGURAMU",
   "lMEETORUlWATTOiKiLiMj CAPITALlUBEDkSQUAREDiOOPOjRUNAiPAiTiUROONEkUZEIROiViWiYURII",
   "hLEFT OPEN BOX OPERATORiMiNiOGjZENGEiXhM CUBEDjOHMkVER Sp SQUAREDjSQUAREDiAjHHAjIKUROkRU",
   "jNSYONjRUKUiBj SMALLiEETORUjGAlTONiGiHZiIKURONjLjRIlBAARUiLiMj CUBEDkSQUAREDiOLiPAiSiU AkFkG",
   "kLkMkSkVkWiVj MEGAiWj MEGAhNAjNOiFiMiOTTOiSiViWhONSUiOMUiRIGINAL OFs OR EQUAL TOwNOT EQUAL TO",
   "iVhPAj AMPSjASENTOkTUiCiEEZIjNIHIkSUjSOiFiHiIASUTORUjKOkURUiMiOINTOjNDOjSITION INDICATORiPMiR",
   "iSiViWhRADk OVER Sr SQUAREDiEMUjNTOGENiIGHT OPEN BOX OPERATORjRAjTTORUiOOTiUPIIjUBURUhSAIKURU",
   "jNTIIMUiENTIlOiIRINGUiRiVhTARGETiHZiONhUONhV OVER MhWATTOiBiITH BOTTOM HALF BLACK",
   "mCONTOURED OUTLINEmDIAGONAL CROSSHATCH FILLmHORIZONTAL FILLmLEFT HALF BLACK",
   "nOWER LEFT DIAGONAL HALF BLACKsRIGHT DIAGONAL HALF BLACKmORTHOGONAL CROSSHATCH FILL",
   "mRIGHT HALF BLACKmTOP HALF BLACKmUPPER LEFT DIAGONAL HALF BLACKxTO LOWER RIGHT FILL",
   "sRIGHT DIAGONAL HALF BLACKyTO LOWER LEFT FILLmVERTICAL FILLhYAADOkRUiUANgD ASTERISK",
   "iCJK UNIFIED IDEOGRAPH-4E00bh9bg2Dbg8CbgA4be518Dbf21Dbg4Dbg72bf3CCbgF3bf408bg39bf5B6bf8F0",
   "bf91Abg29bfB57bfDE6bfF8Cbe624Bbg53bg95bf307bg55bf599bgB0bf620bf708bh9bfE80bfF14be7121bf51F",
   "bg33bf981bfA7AbfD42be89E3bfCA9bfD70be904Abf14DjLjOOLiDOT OPERATORiEIGHT K",
   "iFALLING DIAGONAL SLASHjIVE POINT ONEjOUR DOT PUNCTUATIONnKjREEiHCjDRjI-RESjViIDiKATAKANA DE",
   "rKOKOrSAjEYiLATIN CAPITAL LETTER AbdBbdCbdDbdEbdFbdGbdHbdIbdJbdKbdLbdMbdNbdObdPbdQbdRbdSbdT",
   "bdUbdVbdWbdXbdYbdZoSMALL LETTER DjOGICAL ANDqORkSSLESSiMINUSjViNEWjGiOKjNE HUNDRED TWENTY P",
   "iPLUSjPViRISING DIAGONAL SLASHiSALTIREjDjECOND SCREENkVEN POINT ONEjHVjIXTY PjMALL CIRCLEjOS",
   "jQUAREjSiTHREE DjIMESjWENTY-TWO POINT TWOkO KiUHDjP WITH EXCLAMATION MARKiVODjSiWC",
   "eT BLACK RIGHTWARDS ARROWdIDbS2c3cAbTcADIUMdFF OF AESCULAPIUSjHERMESdMPED ENVELOPE",
   "dNDING PERSONdR AND CRESCENTfEQUALSfOF DAVIDgPERATORfWITH LEFT HALF BLACKkRIGHT HALF BLACK",
   "eT OF GUARDED AREAjHEADINGjPROTECTED AREAjSELECTED AREAkTRINGjTEXTdTIONeUE OF LIBERTY",
   "cEAM LOCOMOTIVEfING BOWLdNOGRAPHIC FULL STOPdTHOSCOPEcICK FIGUREm LEANING LEFTvRIGHT",
   "nWITH ARMS RAISEDsDRESScOCK CHARTdPWATCHcRAIGHT RULERiNESSeWBERRYdESS OUTLINED WHITE STAR",
   "dICTLY EQUIVALENT TOeNG TERMINATORcScUDIO MICROPHONEdFFED FLATBREADdPAcXbUBdSCRIPT EIGHT",
   "lQUALS SIGNkFIVElOURkLEFT PARENTHESISkMINUSkNINEkONEkPLUS SIGNkRIGHT PARENTHESISkSEVENlIX",
   "kTHREElWOkZEROeET ABOVE RIGHTWARDS ARROWnSUBSETpPERSEThOFj ABOVE ALMOST EQUAL TOqEQUALS SIGN",
   "qNOT EQUAL TOqTILDE OPERATORkOR EQUAL TOv WITH DOT ABOVEkWITH NOT EQUAL TOhWITH DOT",
   "mMULTIPLICATION SIGN BELOWmPLUS SIGN BELOWeTITUTEcCCEEDSi ABOVE ALMOST EQUAL TOpEQUALS SIGN",
   "pNOT ALMOST EQUAL TOtEQUAL TOpSINGLE-LINE EQUALS SIGNbbNOT EQUAL TOjBUT NOT EQUIVALENT TO",
   "jOR EQUAL TOpIVALENT TOjUNDER RELATIONcMMATION BOTTOMkTOPkWITH INTEGRALcNd BEHIND CLOUD",
   "eWITH FACEdDANESE AVAGRAHAkCONSONANT SIGN PAMINGKALbbNYAKRAbdIKUbbSANGAN MAbiWAkDIGIT EIGHT",
   "qFIVErOURqNINEqONEqSEVENrIXqTHREErWOqZEROkLETTER AsErBAsHArCArDArEsUrFAsINAL KxMrGArHArIrJA",
   "rKAsHArLAsEUrMArNAsGAsYArOrPArQArRAsEUrSAsYArTArUrVArWArXArYArZAkPUNCTUATION BINDU BA SATANGA",
   "bcCAKRAbcDA SATANGAbcKA SATANGAbcLEU SATANGAbcPANGLONGbdURNAMAbcSURYAkSIGN PAMAAEHrNGLAYAR",
   "tWISADsYECEKpVIRAMAkVOWEL SIGN PAMEPETxNAELAENGyEULEUNGyGHULUyOLONGyYUKUdFLOWERdRISE",
   "h OVER MOUNTAINSdSET OVER BUILDINGScPERHEROfSCRIPT EIGHTnQUALS SIGNmFIVEnOUR",
   "mLATIN SMALL LETTER IbfNnEFT PARENTHESISmMINUSmNINEmONEmPLUS SIGNmRIGHT PARENTHESISmSEVENnIX",
   "mTHREEnWOmZEROgET ABOVE LEFTWARDS ARROWpSUBSETrPERSETjBESIDE AND JOINED BY DASH WITH SUBSET",
   "qSUBSETjOFl ABOVE ALMOST EQUAL TOsEQUALS SIGNsNOT EQUAL TOsTILDE OPERATORmOR EQUAL TO",
   "x WITH DOT ABOVEmWITH NOT EQUAL TOjPRECEDING SOLIDUSjWITH DOToMULTIPLICATION SIGN BELOW",
   "oPLUS SIGN BELOWfVILLAINcRFACE INTEGRALeERcSHIdPENSION RAILWAYbWANdSH AMPERSAND ORNAMENT",
   "cIMMERcUNG DASHbYLOTI NAGRI LETTER AuBHOvOuCHOvOuDDHOwOvHOvOuEuGHOvOuHOuIuJHOvOuKHOvOuLOuMO",
   "uNOuOuPHOvOuROvROuSOuTHOvOvTHOwOuUnPOETRY MARK-1z2z3z4nSIGN ALTERNATE HASANTAtNUSVARA",
   "sDVISVARAsHASANTAnVOWEL SIGN AyEyIyOOyUcMBOL FOR ACKNOWLEDGElBACKSPACEmELLlCANCEL",
   "nRRIAGE RETURNlDATA LINK ESCAPEmELETEr FORM TWOnVICE CONTROL FOURbaONEbaTHREEbbWO",
   "lEND OF MEDIUMsTEXTtRANSMISSIONbe BLOCKnQUIRYmSCAPElFILE SEPARATORmORM FEEDlGROUP SEPARATOR",
   "lHORIZONTAL TABULATIONlLINE FEEDlMARKS CHAPTERlNEGATIVE ACKNOWLEDGEnWLINEmULL",
   "lRECORD SEPARATORlSAMARITAN SOURCEmHIFT INrOUTmPACEmTART OF HEADINGuTEXTmUBSTITUTEv FORM TWO",
   "mYNCHRONOUS IDLElTYPE A ELECTRONICSlUNIT SEPARATORlVERTICAL TABULATIONdMETRYcNdAGOGUE",
   "dCHRONOUS IDLEcRIAC ABBREVIATION MARKhBARREKHhCOLON SKEWED LEFTuRIGHTjNTRACTION",
   "hDOTTED ZLAMA ANGULARuHORIZONTALhEND OF PARAGRAPHiSASA ABOVEnBELOWhFEMININE DOT",
   "hHARKLEAN ASTERISCUSqMETOBELUSqOBELUSiBASA ABOVEnBELOWm-ESASA DOTTEDiORIZONTAL COLON",
   "hLETTER ALAPHoBETHoDALATHpOTLESS DALATH RISHoEoFINAL SEMKATHoGAMALt GARSHUNIoHEqTHoKAPH",
   "oLAMADHoMALAYALAM BHAyJAyLLAbaLAyNGAzNAbaNAzYAyRAySSAyTTApIMoNUNoPEqRSIAN BHETHwDHALATH",
   "wGHAMALoQAPHoREVERSED PEpISHoSADHEpEMKATHpHINpOGDIAN FEwKHAPHwZHAINpUPERSCRIPT ALAPHoTAWpETH",
   "s GARSHUNIoWAWoYUDHs HEoZAINhMUSIChOBLIQUE LINE ABOVEuBELOWhPTHAHA ABOVEoBELOWoDOTTED",
   "hQUSHSHAYAhRBASA ABOVEnBELOWiUKKAKHAiWAHAhSUBLINEAR COLONw SKEWED LEFTbeRIGHTrFULL STOP",
   "jPRALINEAR COLONy SKEWED LEFTtFULL STOPhTHREE DOTS ABOVEsBELOWiWO VERTICAL DOTS ABOVEzBELOW",
   "hZQAPHA ABOVEoBELOWoDOTTEDeNGEaT-REXcSHIRTbABdLE TENNIS PADDLE AND BALLcCOcG AMPERSAND",
   "fPOSTROPHEfSTERISKeCIRCUMFLEX ACCENTfOLONgMMAiERCIAL ATeDIGIT EIGHTkFIVElOURkNINEkONEkSEVEN",
   "lIXkTHREElWOkZEROfOLLAR SIGNeEQUALS SIGNfXCLAMATION MARKeFULL STOPeGRAVE ACCENT",
   "gEATER-THAN SIGNeHYPHEN-MINUSeLATIN CAPITAL LETTER AzBzCzDzEzFzGzHzIzJzKzLzMzNzOzPzQzRzSzTzU",
   "zVzWzXzYzZkSMALL LETTER AxBxCxDxExFxGxHxIxJxKxLxMxNxOxPxQxRxSxTxUxVxWxXxYxZfEFT CURLY BRACKET",
   "jPARENTHESISjSQUARE BRACKETgSS-THAN SIGNfOW LINEeNUMBER SIGNePERCENT SIGNfLUS SIGN",
   "eQUESTION MARKgOTATION MARKeREVERSE SOLIDUSfIGHT CURLY BRACKETkPARENTHESISkSQUARE BRACKET",
   "eSEMICOLONfOLIDUSfPACEeTILDEeVERTICAL LINEdALOG LETTER AqRCHAIC RApBApDApGApHApIpKApLApMApNA",
   "qGApPApRApSApTApUpWApYAiSIGN PAMUDPODnVIRAMAiVOWEL SIGN ItUdBANWA LETTER AqBAqDAqGAqIqKAqLA",
   "qMAqNArGAqPAqSAqTAqUqWAqYAjVOWEL SIGN IuUcI LE LETTER ApIpUEoEpEpHoFAoHAoIoKApHAoLAoMAoNApGA",
   "oOpOoPApHAoQAoSAoTApHApONE-2t3t4t5t6pSAqHAoUpEoVAoXAoYAeTHAM COMBINING CRYPTOGRAMMIC DOT",
   "lNSONANT SIGN BAyFINAL NGAyHIGH RATHA OR LOW PAyLA TANG LAIzOW PAyMAzEDIAL LAbfRAySA",
   "jHORA DIGIT EIGHTuFIVEvOURuNINEuONEuSEVENvIXuTHREEvWOuZEROjLETTER AqBAqDAqEEqGREAT SAqHIGH CA",
   "wHAvFAvHAvKAwHAwXAvPAwHAvRATHAvSAwHAwSAvTAwHAvYAqIrIqLAsErLArOW CAvHAuFAuHAuKAvHAvXAuPAvHA",
   "uRATHAuSAuTAvHAuYArUEqMAqNArGArYAqOOqRAsNAsTArUEqUrUqWAjSIGN CAANGoDOKMAIoHANGpOYoKAANsKUU",
   "pEOWpHUEN TONE-3z4z5t-LUE KARANoMAI KANGw LAIsSAMsYAMOKoRA HAAMpEVERSED ROTATED RANAoSAKOT",
   "qTKAANvKUUqWANoTONE-1t2oWIANGtWAAKjTHAM DIGIT EIGHTuFIVEvOURuNINEuONEuSEVENvIXuTHREEvWOuZERO",
   "jVOWEL SIGN AvAvEvIuEuIvIuMAI SATuOvA ABOVExBELOWvOvYuTALL AAvHAM AIuUvEvUwE",
   "eVIET LETTER HIGH BOvCHOwOvDOvFOvGOvHOvKHHOxOwOvLOvMOvNGOwOwYOvOvPHOwOvROvSOvTHOwOvVOvYO",
   "qLOW BOuCHOvOuDOuFOuGOuHOuKHHOwOvOuLOuMOuNGOvOvYOuOuPHOvOuROuSOuTHOvOuVOuYOjMAI KANGoHIT",
   "jSYMBOL HO HOIqKOI KOIsNqNUENGqSAMjTONE MAI EKsNUENGsSONGsTHOjVOWEL AAqMqNqUEqYpEpIqApOpUqAqE",
   "rAcKEOUT BOXdRI ABBREVIATION SIGNgDIGIT EIGHTmFIVEnOURmNINEmONEmSEVENnIXmTHREEnWOmZERO",
   "gLETTER AoAoIoRCHAIC KHAoUnBAoHAnCAoHAnDAoDApHAoHAnEnGAoHAnHAnIoInJAoHAnKAoHAnLAnMAnNAoGAoNA",
   "oYAnOnPAoHAnRAoRAnSAoHAnTAoHAoTApHAnUoUnVAnYAgSIGN ANUSVARAlNUKTAlVIRAMAnSARGAgVOWEL SIGN AA",
   "sIsUrErIsIrOrUsUcLLY MARK FIVElONEcMALEdIL AND ODD SIGNhS ABOVE SIGNhU LENGTH MARK",
   "gCREDIT SIGNhURRENT SIGNgDAY SIGNhEBIT SIGNhIGIT EIGHTmFIVEnOURmNINEmONEmSEVENnIXmTHREEnWO",
   "mZEROhRY CULTIVATION SIGNgFRACTION DOWNSCALING FACTOR KIIZHpONE EIGHTHyIETHtFIFTHuORTIETH",
   "tHALF-1y2tONE-HUNDRED-AND-SIXTIETHtQUARTERtSIXTEENTH-1bd2xY-FOURTHtTENTHuHIRTY-SECOND",
   "vREE-HUNDRED-AND-TWENTIETHuWENTIETHpTHREE EIGHTIETHSvQUARTERSvSIXTEENTHSzY-FOURTHSvTWENTIETHS",
   "gIN POSSESSION SIGNgLAND SIGNhETTER AoAoIoUnCAnEoEnHAnIoInJAnKAnLAoLApLAnMAnNAoGAoNApNAoYAnO",
   "oOnPAnRAoRAnSAoHAoSAnTAoTAnUoUnVAnYAgMONTH SIGNgNUMBER ONE HUNDREDrTHOUSANDnSIGNnTENgOM",
   "gPUNCTUATION END OF TEXTgRUPEE SIGNgSALT PAN SIGNhIGN AAZHAAKKUmNUSVARAlCEVITUlKAACUmURUNI",
   "nZHIlMUKKURUNInTHALIYAnUVUZHAKKUlNELlPAARAMnNAMnTHAKKUmONlUZHAKKUlVAKAIYARAAnRAAKANmELImIRAMA",
   "nSARGAhPENT SIGNhTARTING FROM SIGNgTOTAL SIGNhRADITIONAL CREDIT SIGNsNUMBER SIGN",
   "gVOWEL SIGN AAsIsUrEsErIsIrOsOrUsUgWET CULTIVATION SIGNgYEAR SIGNcNABATA TREEdGERINE",
   "eSA DIGIT EIGHTnFIVEoOURnNINEnONEnSEVENoIXnTHREEoWOnZEROhLETTER ACpQpWCqQqXqZpXpZoBAoCApHAoDA",
   "pHAoECpQpXpZoFApINAL NGoGApHAoHApTAqTAoICpQpXpZoKApHAoLApONG UEXoMApCpQpXpZoNApGApHApYAoOCpQ",
   "pXpZoPApHAoRAoSApHAqORT AWXuUEZoTApHApSAoUCpECqQqXqZpICqQqUCrQrXrZqXqZpQpXpZoVCpQpXpZoWAoXA",
   "oYAoZAeUT COMPONENT-001t2t3t4t5t6t7t8t9s10t1t2t3t4t5t6t7t8t9s20t1t2t3t4t5t6t7t8t9s30t1t2t3t4",
   "t5t6t7t8t9s40t1t2t3t4t5t6t7t8t9s50t1t2t3t4t5t6t7t8t9s60t1t2t3t4t5t6t7t8t9s70t1t2t3t4t5t6t7t8",
   "t9s80t1t2t3t4t5t6t7t8t9s90t1t2t3t4t5t6t7t8t9r100t1t2t3t4t5t6t7t8t9s10t1t2t3t4t5t6t7t8t9s20t1",
   "t2t3t4t5t6t7t8t9s30t1t2t3t4t5t6t7t8t9s40t1t2t3t4t5t6t7t8t9s50t1t2t3t4t5t6t7t8t9s60t1t2t3t4t5",
   "t6t7t8t9s70t1t2t3t4t5t6t7t8t9s80t1t2t3t4t5t6t7t8t9s90t1t2t3t4t5t6t7t8t9r200t1t2t3t4t5t6t7t8t9",
   "s10t1t2t3t4t5t6t7t8t9s20t1t2t3t4t5t6t7t8t9s30t1t2t3t4t5t6t7t8t9s40t1t2t3t4t5t6t7t8t9s50t1t2t3",
   "t4t5t6t7t8t9s60t1t2t3t4t5t6t7t8t9s70t1t2t3t4t5t6t7t8t9s80t1t2t3t4t5t6t7t8t9s90t1t2t3t4t5t6t7",
   "t8t9r300t1t2t3t4t5t6t7t8t9s10t1t2t3t4t5t6t7t8t9s20t1t2t3t4t5t6t7t8t9s30t1t2t3t4t5t6t7t8t9s40",
   "t1t2t3t4t5t6t7t8t9s50t1t2t3t4t5t6t7t8t9s60t1t2t3t4t5t6t7t8t9s70t1t2t3t4t5t6t7t8t9s80t1t2t3t4",
   "t5t6t7t8t9s90t1t2t3t4t5t6t7t8t9r400t1t2t3t4t5t6t7t8t9s10t1t2t3t4t5t6t7t8t9s20t1t2t3t4t5t6t7t8",
   "t9s30t1t2t3t4t5t6t7t8t9s40t1t2t3t4t5t6t7t8t9s50t1t2t3t4t5t6t7t8t9s60t1t2t3t4t5t6t7t8t9s70t1t2",
   "t3t4t5t6t7t8t9s80t1t2t3t4t5t6t7t8t9s90t1t2t3t4t5t6t7t8t9r500t1t2t3t4t5t6t7t8t9s10t1t2t3t4t5t6",
   "t7t8t9s20t1t2t3t4t5t6t7t8t9s30t1t2t3t4t5t6t7t8t9s40t1t2t3t4t5t6t7t8t9s50t1t2t3t4t5t6t7t8t9s60",
   "t1t2t3t4t5t6t7t8t9s70t1t2t3t4t5t6t7t8t9s80t1t2t3t4t5t6t7t8t9s90t1t2t3t4t5t6t7t8t9r600t1t2t3t4",
   "t5t6t7t8t9s10t1t2t3t4t5t6t7t8t9s20t1t2t3t4t5t6t7t8t9s30t1t2t3t4t5t6t7t8t9s40t1t2t3t4t5t6t7t8",
   "t9s50t1t2t3t4t5t6t7t8t9s60t1t2t3t4t5t6t7t8t9s70t1t2t3t4t5t6t7t8t9s80t1t2t3t4t5t6t7t8t9s90t1t2",
   "t3t4t5t6t7t8t9r700t1t2t3t4t5t6t7t8t9s10t1t2t3t4t5t6t7t8t9s20t1t2t3t4t5t6t7t8t9s30t1t2t3t4t5t6",
   "t7t8t9s40t1t2t3t4t5t6t7t8t9s50t1t2t3t4t5t6t7t8t9s60t1t2t3t4t5t6t7t8hITERATION MARK",
   "cPE CARTRIDGEfDRIVEcURUScXIbEACUP WITHOUT HANDLEdPOTdR-OFF CALENDAR",
   "eDROP-BARBED RIGHTWARDS ARROWjSPOKED ASTERISKcDDY BEARcLEPHONE LOCATION SIGNkON TOP OF MODEM",
   "kRECEIVERs WITH PAGEnORDERkSIGNeSCOPEeVISIONdUGU AI LENGTH MARKhDIGIT EIGHTnFIVEoOURnNINEnONE",
   "nSEVENoIXnTHREEoWOnZEROhFRACTION DIGIT ONE FOR EVEN POWERS OF FOURbeODD POWERS OF FOUR",
   "wTHREE FOR EVEN POWERS OF FOURbgODD POWERS OF FOURxWO FOR EVEN POWERS OF FOUR",
   "beODD POWERS OF FOURwZERO FOR ODD POWERS OF FOURhLENGTH MARKjTTER ApApIpUoBApHAoCApHAoDApDA",
   "qHApHApZAoEpEoGApHAoHAoIpIoJApHAoKApHAoLApLAqLAoMAoNAqKAARA POLLUpGApNApYAoOpOoPApHAoRApRAqRA",
   "oSApHApSAoTApHApSApTAqHAoUpUoVApOCALIC LxLwRxRoYAhSIGN ANUSVARAnVAGRAHAmCANDRABINDU",
   "nOMBINING ANUSVARA ABOVEwCANDRABINDU ABOVEmNUKTAmSIDDHAMmTUUMUmVIRAMAoSARGAhVOWEL SIGN AAtItU",
   "sEtEsItIsOtOsUtUsVOCALIC LbbLbaRbbRcNGE SIGNdNIS RACQUET AND BALLdTcST TUBE",
   "cTRAGRAM FOR ACCUMULATIONpDVANCEpGGRAVATIONpSCENToBARRIERpOLD RESOLUTIONpRANCHING OUToCENTRE",
   "pHANGEpLOSED MOUTHtNESSsUREpOMPLETIONtIANCEqNSTANCYrTACTsENTIONsRARIETYoDARKENINGpECISIVENESS",
   "qFECTIVENESS OR DISTORTIONqPARTUREpIFFICULTIESqMINISHMENTrMINGqVERGENCEpOUBTpUTIESoEASE",
   "pMBELLISHMENTpNCOUNTERSqDEAVOURqLARGEMENTpTERNITYpXHAUSTIONoFAILUREpLIGHTpOLLOWINGqSTERING",
   "pULL CIRCLEsNESSoGATHERINGx INpOING TO MEETpREATNESSpUARDEDNESSoHARDNESSpOLDING BACKoINCREASE",
   "qNERoJOYoKEEPING SMALLpINSHIPoLABOURINGqW OR MODELpEGIONoMASSINGpEASUREpIREDoON THE VERGE",
   "pPPOSITIONoPACKINGqTTERNpENETRATIONpURITYoREACHqLEASEqSIDENCEsSTANCErPONSEpITUALoSEVERANCE",
   "pINKINGpTOPPAGErVEqRENGTHoUNITYoVASTNESS OR WASTINGoWAITINGqTCHoYOUTHFULNESSbHAANA AABAAFILI",
   "iBAFILIhEBEFILIiEBEEFILIiYBEYFILIhIBIFILIhLETTER AINUpLIFUoBAAoCHAVIYANIoDAADHUqVIYANIpHAALU",
   "oFAAFUoGAAFUpHAINUpNAVIYANIoHAApHAAoJAVIYANIoKAAFUpHAAoLAAMUpHAVIYANIoMEEMUoNAApOONUoPAVIYANI",
   "oQAAFUoRAAoSAADHUpEENUpHAVIYANIqEENUoTAVIYANIpHAAsLUpOpTAAoVAAVUoWAAVUoYAAoZAAqVIYANIpO",
   "hOABOAFILIiBOFILIiOBOOFILIhSUKUNhUBUFILIdI CHARACTER ANGKHANKHUpBO BAIMAIpCHO CHANxGvINGvOE",
   "pDO CHADAsDEKpFO FAuNrNGMANpHO HIPsNOKHUKpKHO KHAIvONvUATvWAItRAKHANGsMUTqO KAIpLAKKHANGYAO",
   "qO CHULAsLINGqUpMAI CHATTAWAtEKtHAN-AKATtTHOuRIsTAIKHUsYAMOKqO MApNGO NGUqIKHAHITqO NENtU",
   "pO ANGpPAIYANNOIqHINTHUrO PHANvUNGtSAMPHAOqO PLApRO RUAqUpSARA AvAvEvI MAIMALAIbbUANvMuEuIvI",
   "uOuUvEwEvUqO RUSIsSALAtOtUApTHANTHAKHATrO NANGMONTHOtPHUTHAOtTHAHANwNvONGvUNGqO PATAKsTAO",
   "pWO WAENpYAMAKKANqO YAKtINGgURRENCY SYMBOL BAHTfDIGIT EIGHTlFIVEmOURlNINElONElSEVENmIXlTHREE",
   "mWOlZEROcERE DOES NOT EXISTgEXISTSfFOREeMODYNAMICgMETERcIN GREEK CROSSfSALTIREgPACEeKING FACE",
   "dRD PLACE MEDALcONG SANDALdUGHT BALLOONcREE BUTTON MOUSEgCONSECUTIVE EQUALS SIGNS",
   "gDIMENSIONAL ANGLEhOT PUNCTUATIONgLEFTWARDS ARROWShINES CONVERGING LEFTxRIGHT",
   "gNETWORKED COMPUTERSgPOINTED BLACK STARgRAYS ABOVElBELOWlLEFTlRIGHThIGHTWARDS ARROWS",
   "gSPEECH BUBBLESf-D BOTTOM-LIGHTED RIGHTWARDS ARROWHEAD",
   "iLEFT-LIGHTED DOWNWARDS EQUILATERAL ARROWHEADiRIGHT-LIGHTED UPWARDS EQUILATERAL ARROWHEAD",
   "iTOP-LIGHTED LEFTWARDS EQUILATERAL ARROWHEADuRIGHTWARDS ARROWHEADbfEQUILATERAL ARROWHEAD",
   "gEM DASHgPER-EM SPACEcUMBS DOWN SIGNhUP SIGNdNDER CLOUD AND RAINhSTORM",
   "bIBETAN ASTROLOGICAL SIGN -KHYUD PAbaSDONG TSHUGSbbGRA GCAN -CHAR RTAGS",
   "iCANTILLATION SIGN CANG TE-UbaHEAVY BEATbaLIGHT BEATbaSBUB -CHALiDIGIT EIGHToFIVEpOUR",
   "oHALF EIGHTtFIVEuOURtNINEtONEtSEVENuIXtTHREEuWOtZEROoNINEoONEoSEVENpIXoTHREEpWOoZERO",
   "iKU RU KHAr BZHI MIG CANiLETTER -ApApBAqHApCAqHApDAqDArHAqHAqZArHApFIXED-FORM RApGAqHApHApJA",
   "pKAqHAqKAqSSApLApMApNAqGAqNAqYApPAqHApRAqRApSAqHAqSApTAqHAqSArHAqTArHApWApYApZAqHA",
   "jOGOTYPE SIGN CHAD RTAGSwLHAG RTAGSiMARK ANG KHANG GYASzONnBKA- SHOG GI MGO RGYANxYIG MGO",
   "oSDUS RTAGSpKA- SHOG GI MGO RGYANqUR YIG MGOnCARET -DZUD RTAGS BZHI MIG CANbfME LONG CAN",
   "tYIG MGO PHUR SHAD MAoHE MGOoLOSING BRDA RNYING YIG MGO SGAB MAvYIG MGO SGAB MA",
   "nDELIMITER TSHEG BSTARnGTER TSHEGsYIG MGO -UM GTER TSHEG MAbeRNAM BCAD MAbaTRUNCATED A",
   "oUG RTAGS GYASzONnHALANTAnINITIAL BRDA RNYING YIG MGO MDUN MAvYIG MGO MDUN MA",
   "pTERSYLLABIC TSHEGnLEADING MCHAN RTAGSnMNYAM YIG GI MGO RGYANnNGAS BZUNG NYI ZLAySGOR RTAGS",
   "oYIS SHADsTSHEGx SHADnPALUTAnRGYA GRAM SHADoIN CHEN SPUNGS SHADnSBRUL SHADoHAD",
   "nTRAILING MCHAN RTAGSoSA -PHRUpHEG SHADnYIG MGO TSHEG SHAD MAiSIGN GRU CAN RGYINGS",
   "rMED RGYINGSnINVERTED MCHU CANnLCE TSA CANpI RTAGSnMAR TSHESoCHU CANnNYI ZLA NAA DA",
   "nRDEL DKAR GCIGyNYISySUMxRDEL NAGsNAG GCIGxNYISxSUMwRDEL DKARoJES SU NGA ROoNAM BCADnSNA LDAN",
   "nYANG RTAGSpR TSHESjUBJOINED LETTER -AzAzBAbaHAzCAbaHAzDAbaDAbbHAbaHAbaZAbbHAzFIXED-FORM RA",
   "bkWAbkYAzGAbaHAzHAzJAzKAbaHAbaSSAzLAzMAzNAbaGAbaNAbaYAzPAbaHAzRAzSAbaHAbaSAzTAbaHAbaSAbbHA",
   "baTAbbHAzWAzYAzZAbaHAsSIGN INVERTED MCHU CANxLCE TSA CANxMCHU CANjYLLABLE OMkMBOL DRIL BU",
   "pNOR BUv BZHI -KHYILwGSUM -KHYILwNYIS -KHYILpPADMA GDANqHUR PApRDO RJEw RGYA GRAM",
   "iVOWEL SIGN AAtEuEtIuItOuOtREVERSED IbdItUuUtVOCALIC LbcLbbRbcRcCKETcE OVER INFINITY",
   "cFINAGH CONSONANT JOINERjLETTER AHAGGAR YAZHrYER YAGHqBERBER ACADEMY YAHbhJqTAWELLEMET YAZ",
   "rUAREG YAGHbaNzHzKbaHzNGzQzZHqYAsAsBtHsCHsDtDuHtHsFsGtHuHsHtHsJsKtHuHsLsMsNsPsQsRtRsStHtSsTtH",
   "tTsVsWsYsZtHtZrEsYrIrOrUjMODIFIER LETTER LABIALIZATION MARKjSEPARATOR MARKcGERf FACE",
   "dHT TRIFOLIATE SNOWFLAKEcLDEf OPERATORo ABOVE LEFTWARDS ARROWvRIGHTWARDS ARROWpWITH DOT ABOVE",
   "uRISING DOTSgWITH DOT ABOVEpBELOWlRING ABOVEcMER CLOCKeS WITH LEFT HALF BLACK",
   "lRIGHT HALF BLACKcNYe TWO DOTS OVER ONE DOT PUNCTUATIONcRED FACEdHUTA ABBREVIATION SIGNjNJI",
   "iDIGIT EIGHToFIVEpOURoNINEoONEoSEVENpIXoTHREEpWOoZEROiGVANGiLETTER AqAqIqUpBAqHApCAqHApDAqDA",
   "rHAqHApEpGAqHApHApIqIpJAqHApKAqHApLApMApNAqGAqNAqYApOpPAqHApRApSAqHAqSApTAqHAqTArHApUqUpVA",
   "qOCALIC LyLxRyRpYAiOMiSIGN ANUSVARAoVAGRAHAnCANDRABINDUnNUKTAnVIRAMApSARGAiVOWEL SIGN AAuIuU",
   "tEtIuItOtSHORT EzOtUuUtVOCALIC LbcLbbRbcRdONIAN SIGN CAPITAL EToETbOILETcKYO TOWERcMATOcNGUE",
   "cOLBOXdTHfBRUSHcP ARC ANTICLOCKWISE ARROWbb WITH PLUSiCLOCKWISE ARROW WITH MINUS",
   "eCURLY BRACKETeHALF BLACK CIRCLEjINTEGRALjLEFT PARENTHESISjRIGHT PARENTHESISjSECTION SIGNgT",
   "eLEFT CORNERkROPjHALF BRACKETePARENTHESISeRIGHT CORNERlROPkHALF BRACKETeSQUARE BRACKET",
   "eTORTOISE SHELL BRACKETeWITH UPWARDS ARROW ABOVE",
   "cRTOISE SHELL BRACKETED CJK UNIFIED IDEOGRAPH-4E09bx8Cbv52DDbwB89bv6253bw557bw72Cbv70B9bw6D7",
   "zLATIN CAPITAL LETTER ScTAL RUNOUTdO LETTER AnEmBAnREATHY AEuEvOuIvUmCHAmDAmEnOmGAmHAmInUmJA",
   "mKAmLAmMAmNAnGAmOmPAmRAmSAmTAmUmWAmYAfSIGN RISING TONEbRACKBALLeTORdDE MARK SIGNdINdMe CAR",
   "dNSPLUTOfVERSAL INTERSECTIONcIANGLE WITH DOT ABOVEoROUNDED CORNERSoSERIFS AT BOTTOMoUNDERBAR",
   "i-HEADED RIGHTWARDS ARROWgULAR BULLETlFLAG ON POSTlRULERdCOLONdDENT EMBLEMdGRAM FOR EARTH",
   "mFIREmHEAVENmLAKEmMOUNTAINmTHUNDERmWATERnINDdPLE COLON OPERATORhDAGGER",
   "hHORIZONTAL BAR WITH DOUBLE VERTICAL STROKEbbTRIPLE VERTICAL STROKEhINTEGRAL",
   "hNESTED GREATER-THANoLESS-THANhPLUSiRIMEhSOLIDUS BINARY RELATIONhTILDE",
   "hVERTICAL BAR BINARY RELATIONuDELIMITERuRIGHT TURNSTILEuWITH HORIZONTAL STROKEcOLLfEYBUSdPHY",
   "eICAL DRINKjFISHcUEe LIGHT MOON ARTAdMPETbUGRIK SIGNcLIPcMBLER GLASScRKEYeISH LIRA SIGN",
   "dNED AMPERSANDiNGLEhBLACK PENTAGONnSHOGI PIECEhCAPITAL FiOMMAhDAGGERiIGIT THREEoWO",
   "hGREEK SMALL LETTER IOTAhNORTH EAST POINTING LEAFnWEST POINTING LEAFjT SIGNhOK HAND SIGN",
   "hSANS-SERIF CAPITAL GbaLbaYiEMICOLONiMALL FiOUTH EAST POINTING LEAFnWEST POINTING LEAF",
   "hWHITE SHOGI PIECEdTLEbWELVE POINTED BLACK STARcISTED RIGHTWARDS ARROWS",
   "cO ASTERISKS ALIGNED VERTICALLYeBUTTON MOUSEeCONSECUTIVE EQUALS SIGNSeDOT LEADERiPUNCTUATION",
   "hS OVER ONE DOT PUNCTUATIONeHEARTSeINTERSECTING LOGICAL ANDzOReJOINED SQUARES",
   "eLOGICAL AND OPERATORmOR OPERATOReMEN HOLDING HANDSeSPEECH BUBBLESeWOMEN HOLDING HANDS",
   "d-EM DASHaUGARITIC LETTER AINrLPAqBETAqDELTArHALqGAMLArHAINqHOsTAqIqKAFrHAqLAMDAqMEMqNUNqPU",
   "qQOPAqRASHAqSADEsMKArHINrSUqTETrHANNArOqUqWOqYODqZETArUjWORD DIVIDERbMBRELLAi ON GROUND",
   "jWITH RAIN DROPSbNAMUSED FACEcCERTAINTY SIGNcDERTIEdO SYMBOLcICORN FACEdON",
   "f ABOVE BAR ABOVE INTERSECTIONmINTERSECTIONgBESIDE AND JOINED WITH UNIONgWITH LOGICAL OR",
   "lMINUS SIGNlOVERBARdT SEPARATOReED SYMBOLdVERSAL RECYCLING SYMBOLcMARRIED PARTNERSHIP SYMBOL",
   "bP ARROW THROUGH CIRCLEiHEADm BETWEEN TWO HORIZONTAL BARSnIN A RECTANGLE BOX",
   "dBARB LEFT DOWN BARB LEFT HARPOONxRIGHT HARPOONiRIGHT DOWN BARB LEFT HARPOONyRIGHT HARPOON",
   "dDOWN ARROWn WITH BASEiBLACK ARROWiDOUBLE ARROWiSANS-SERIF ARROWiTRIANGLE-HEADED ARROW",
   "iWHITE ARROWdFISH TAILdRIGHT DIAGONAL ELLIPSISdTACKh WITH CIRCLE ABOVEc-POINTING AIRPLANE",
   "mMILITARY AIRPLANEmRED TRIANGLEmSMALL AIRPLANEsRED TRIANGLEmTRIANGLE WITH LEFT HALF BLACK",
   "baRIGHT HALF BLACKcPER AND LEFT AND LOWER TRIANGULAR THREE QUARTERS BLOCK",
   "lOWER ONE EIGHTH BLOCKqTRIANGULAR HALF BLOCKkRIGHT AND LOWER TRIANGULAR THREE QUARTERS BLOCK",
   "gBLADE SCISSORSgFIVE EIGHTHS BLOCKgHALF BLOCKq AND LOWER HALF INVERSE MEDIUM SHADElCIRCLE",
   "lINVERSE MEDIUM SHADE AND LOWER HALF BLOCKtWHITE CIRCLElMEDIUM SHADE",
   "gLEFT BLOCK DIAGONAL LOWER CENTRE TO LOWER MIDDLE RIGHTbqUPPER MIDDLE RIGHTbwRIGHT",
   "bgLEFT TO LOWER MIDDLE RIGHTboUPPER CENTREbuMIDDLE RIGHTbgMIDDLE LEFT TO UPPER CENTRE",
   "cbMIDDLE RIGHTcbRIGHTbaUPPER MIDDLE LEFT TO UPPER CENTREcbRIGHTlCORNER WITH DOT",
   "lOR LOWER RIGHT CURLY BRACKET SECTIONlQUADRANT CIRCULAR ARClTO LOWER RIGHT FILLmRIANGLE",
   "rULAR MEDIUM SHADEgONE EIGHTH BLOCKkQUARTER BLOCK",
   "gRIGHT BLOCK DIAGONAL LOWER MIDDLE LEFT TO LOWER CENTREccRIGHT",
   "bbUPPER CENTRE TO LOWER MIDDLE RIGHTbxRIGHTbrUPPER MIDDLE RIGHTbhLEFT TO LOWER CENTRE",
   "bvMIDDLE RIGHTbpUPPER MIDDLE RIGHTbhMIDDLE LEFT TO LOWER CENTREccMIDDLE RIGHTccRIGHT",
   "mDROP-SHADOWED WHITE SQUAREmOR LOWER LEFT CURLY BRACKET SECTIONmPENCILmQUADRANT CIRCULAR ARC",
   "mSHADOWED WHITE CIRCLEbbSQUAREmTO LOWER LEFT FILLnRIANGLEsULAR MEDIUM SHADE",
   "gSEVEN EIGHTHS BLOCKgTHREE EIGHTHS BLOCKmQUARTERS BLOCKhRIANGULAR ONE QUARTER BLOCK",
   "cSIDE-DOWN FACEcWARDS ANCORAjRROWn AND RIGHT ONE EIGHTH BLOCKoFROM BAR",
   "oLEFTWARDS OF DOWNWARDS ARROWoTO BARoWITH DOUBLE STROKEtEQUILATERAL ARROWHEAD",
   "tHORIZONTAL STROKEtLARGE TRIANGLE ARROWHEADtMEDIUM TRIANGLE ARROWHEADtNOTCHED TAIL",
   "tSMALL EQUILATERAL ARROWHEADzTRIANGLE ARROWHEADtTIP LEFTWARDSxRIGHTWARDSiBLACK ARROW",
   "oCIRCLED WHITE ARROWiCOMPRESSED ARROWiDASHED ARROWjOUBLE ARROWiFINGER-POST ARROW",
   "iHARPOON WITH BARB LEFT BESIDE DOWNWARDS HARPOON WITH BARB RIGHT",
   "bmUPWARDS HARPOON WITH BARB RIGHTbfFROM BARbfTO BARbeWARDSbaRIGHT FROM BARbgTO BARbfWARDS",
   "jEAVY ARROWoCOMPRESSED ARROWiPAIRED ARROWSiQUADRUPLE ARROWiROCKETiSANS-SERIF ARROW",
   "jQUARED ARROWiTRIANGLE ARROWHEADq-HEADED ARROWbd LEFTWARDS OF DOWNWARDS TRIANGLE-HEADED ARROW",
   "beTO BARbeWITH BOLD SHAFTbjDOUBLE HORIZONTAL STROKEbjHEAVY SHAFTbjLONG TIP LEFTWARDS",
   "bsRIGHTWARDSbjMEDIUM SHAFTbjNARROW SHAFTbjVERY HEAVY SHAFTyDASHED ARROWyPAIRED ARROWS",
   "lPLE ARROWjWO HEADED ARROWl-HEADED ARROW FROM SMALL CIRCLEzWITH TRIANGLE ARROWHEADS",
   "iWHITE ARROWt FROM BARbc WITH HORIZONTAL BARuON PEDESTALbf WITH HORIZONTAL BARblVERTICAL BAR",
   "uWITHIN TRIANGLE ARROWHEADoDOUBLE ARROWba ON PEDESTALbRANUSbSaVAI COMMAeDIGIT EIGHTkFIVElOUR",
   "kNINEkONEkSEVENlIXkTHREElWOkZEROeFULL STOPeQUESTION MARKeSYLLABLE AoNnBAoEpEoHApEqEpIpOqOpUoI",
   "oOpOoUnCAoEpEoIoOpOoUnDAoEpEoHApEqEpHAqErEqIqOrOqUpIpOqOpUoIoOpOoUnEoEpNoNnFAoEpEoIoOpOoUnGA",
   "oBApEqEqNpIpOqNqOpUoEpEpNoIoOpOoUnHApNoEpEpNoIpNoOpNpOoUpNnIoNnJAoEpEoIoOpOoUnKApNoEpEoIoOpO",
   "oPAqNpEqEqNpIpOqOpUoUnLAoEpEpNGTHENERoIoOpOoUnMAoBApEqEpIpOqOpUoEpEoGBAqErEqIqOrOqUoIoOpOoU",
   "nNAoDApEqEpIpOqLE DOtFAtKAtMAtSOOqOpUoEpEoGpANpENpGAqErErNqIqOrOqUpONoIoJApEqEpIpOqOpUoOpOoU",
   "oYApEqEpIpOqOpUnOoNoOpNnPAoEpEoIoOpOoUnRAoEpEoIoOpOoUnSAoEpEoHApEqEpIpOqOpUoIoOpOoUnTAoEpEoHA",
   "pEqEpIpOqOpUoIoOpOoUnUoNnVAoEpEoIoOpOoUnWApNoEpEqNpNoIpNoOpNpOqNoUpNnYAoEpEoIoOpOoUnZAoEpEoHA",
   "pEqEpIpOqOpUoIoOpOoUgMBOL BANGlDANGmO-OnONGlFAAmEENGlJONGlKEENGmUNGlNIIlTAAmINGmONGcMPIRE",
   "cRIATION SELECTOR-1u0v0v1v2v3v4v5v6v7v8v9u1v0v1v2v3v4v5v6v7v8v9u2v0v1v2v3v4v5v6v7v8v9u3v0v1v2",
   "v3v4v5v6v7v8v9u4v0v1v2v3v4v5v6v7v8v9u5v0v1v2v3v4v5v6v7v8v9u6v0v1v2v3v4v5v6v7v8v9u7v0v1v2v3v4",
   "v5v6v7v8v9u8v0v1v2v3v4v5v6v7v8v9u9v0v1v2v3v4v5v6v7v8v9t2u0v0v1v2v3v4v5v6v7v8v9u1v0v1v2v3v4v5",
   "v6v7v8v9u2v0v1v2v3v4v5v6v7v8v9u3v0v1v2v3v4v5v6v7v8v9u4v0v1v2v3v4v5v6v7v8v9u5v0v1v2v3v4v5v6u6",
   "u7u8u9t3u0u1u2u3u4u5u6u7u8u9t4u0u1u2u3u4u5u6u7u8u9t5u0u1u2u3u4u5u6u7u8u9t6u0u1u2u3u4u5u6u7u8",
   "u9t7u0u1u2u3u4u5u6u7u8u9t8u0u1u2u3u4u5u6u7u8u9t9u0u1u2u3u4u5u6u7u8u9bECTOR OR CROSS PRODUCT",
   "cDIC SIGN ANUSVARA ANTARGOMUKHAuBAHIRGOMUKHAuUBHAYATO MUKHAuVAMAGOMUKHAbf WITH TAIL",
   "mRDHAVISARGAmTIKRAMAlDOUBLE ANUSVARA ANTARGOMUKHAlHEXIFORM LONG ANUSVARAlJIHVAMULIYA",
   "lLONG ANUSVARAlNIHSHVASAlREVERSED VISARGA ANUDATTAbcUDATTAmOTATED ARDHAVISARGA",
   "mTHANG LONG ANUSVARAlTIRYAKlUPADHMANIYAlVISARGA ANUDATTAbb WITH TAILtSVARITAtUDATTA",
   "z WITH TAILlYAJURVEDIC MIDLINE SVARITAgTONE ATHARVAVEDIC INDEPENDENT SVARITAlCANDRA ABOVE",
   "sBELOWlDOT BELOWnUBLE RING ABOVEsSVARITAlKARSHANAnTHAKA ANUDATTAlPRENKHA",
   "lRIGVEDIC KASHMIRI INDEPENDENT SVARITAnNG ABOVElSHARAlTHREE DOTS BELOWmRIPLE SVARITA",
   "mWO DOTS BELOWlYAJURVEDIC AGGRAVATED INDEPENDENT SVARITAwINDEPENDENT SVARITA",
   "wKATHAKA INDEPENDENT SVARITAbx SCHROEDERcRSICLEdTICAL BAR BESIDE RIGHT TRIANGLE",
   "nDOUBLE LEFT TURNSTILEnTRIPLE RIGHT TURNSTILEnWITH HORIZONTAL STROKEjELLIPSISjFOUR DOTS",
   "jIDEOGRAPHIC ITERATION MARKjKANA REPEAT MARKz LOWER HALFbaUPPER HALFvWITH VOICED SOUND MARK",
   "br UPPER HALFjLINEn EXTENSIONoWITH CIRCLE ABOVEbaBELOWtMIDDLE DOTjMALE WITH STROKE SIGN",
   "jONE EIGHTH BLOCK-2ba3ba4ba5ba6ba7jSIX DOTSjTAB KEYmULATIONt SETkILDEkRAFFIC LIGHT",
   "jZIGZAG LINEdY BOLD GREEK CROSSfHEAVY EIGHT POINTED BLACK STARrSPOKED ASTERISK",
   "lFIVE SPOKED ASTERISKlGREEK CROSSlREVERSE SOLIDUSlSALTIREmIX SPOKED ASTERISKmOLIDUS",
   "lWHITE CIRCLErSQUAREfMUCH GREATER-THANkLESS-THANcSTAbIBRATION MODEcCTORY HANDcDEO CAMERAgGAME",
   "fCASSETTEcETNAMESE ALTERNATE READING MARK CAbiNHAYdWDATA SQUAREcOLINcRGO",
   "cTHKUQI CAPITAL LETTER AyBBEzEyCEzHEyDEzHEyEzIyFEyGAyHAzHAyIzJEyJEyKAyLAzLAyMEyNEzJEyOyPEyQA",
   "yREySEzHEyTEzHEyUyVEyXEyYyZEjSMALL LETTER AwBBExEwCExHEwDExHEwExIwFEwGAwHAxHAwIxJEwJEwKAwLA",
   "xLAwMEwNExJEwOwPEwQAwREwSExHEwTExHEwUwVEwXEwYwZEbOIDED GREEK CROSScLCANOdLEYBALLdUME INTEGRAL",
   "bS1d0e0e1e2e3e4e5e6e7e8e9d1e0e1e2e3e4e5e6e7e8e9d2e0e1e2e3e4e5e6e7e8e9d3e0e1e2e3e4e5e6e7e8e9d4",
   "e0e1e2e3e4e5e6e7e8e9d5e0e1e2e3e4e5e6e7e8e9d6e0e1e2e3e4e5e6e7e8e9d7e0e1e2e3e4e5e6e7e8e9d8e0e1",
   "e2e3e4e5e6e7e8e9d9e0e1e2e3e4e5e6e7e8e9c2d0e0e1e2e3e4e5e6e7e8e9d1e0e1e2e3e4e5e6e7e8e9d2e0e1e2",
   "e3e4e5e6e7e8e9d3e0e1e2e3e4e5e6e7e8e9d4e0e1e2e3e4e5e6e7e8e9d5e0e1e2e3e4e5e6d6d7d8d9c3d0d1d2d3",
   "d4d5d6d7d8d9c4d0d1d2d3d4d5d6d7d8d9c5d0d1d2d3d4d5d6d7d8d9c6d0d1d2d3d4d5d6d7d8d9c7d0d1d2d3d4d5",
   "d6d7d8d9c8d0d1d2d3d4d5d6d7d8d9c9d0d1d2d3d4d5d6d7d8d9bTcSbULCANUSdGAR FRACTION FIVE EIGHTHS",
   "vSIXTHSrOUR FIFTHSqONE EIGHTHuFIFTHuHALFuNINTHuQUARTERuSEVENTHvIXTHuTENTHvHIRDqSEVEN EIGHTHS",
   "qTHREE EIGHTHSwFIFTHSwQUARTERSrWO FIFTHSuTHIRDSqZERO THIRDSaWAFFLEcNCHO DIGIT EIGHTnFIVEoOUR",
   "nNINEnONEnSEVENoIXnTHREEoWOnZEROhLETTER ApAqNrGpNGpUoBAoCAoDAoEpNoFAoGAoHAoIpNGoJAoKApHAoLA",
   "pLHAoMAoNApGApYAoOpNqGoPApHAoRAoSApHAoTApHApRApSAoUpENoVAoWAoYApIHoZAhNGUN SIGNhTONE KOIpNI",
   "mTUPpNIdING CRESCENT MOON SYMBOLhGIBBOUS MOON SYMBOLcRANG CITI CAPITAL LETTER AbcMbcNGbcTbbBU",
   "bbDAbbEbcNNbdYbbGAbbHARbcIYObcOLObdRRbbIIbbKObbNGAAbcUNGbbObcDDbbPUbbSIIbcSUUbbTTEbbUCbcU",
   "bbVIYObbWIbbYAbcObcUbdJmDIGIT EIGHTsFIVEtOURsNINEsONEsSEVENtIXsTHREEtWOsZEROmNUMBER EIGHTY",
   "tFIFTYuORTYtNINETYtSEVENTYuIXTYtTENuHIRTYuWENTYmOMmSMALL LETTER AbaMbaNGbaTzBUzDAzEbaNNbbYzGA",
   "zHARbaIYObaOLObbRRzIIzKOzNGAAbaUNGzObaDDzPUzSIIbaSUUzTTEzUCbaUzVIYOzWIzYAbaObaUbbJdNING SIGN",
   "cSTEBASKETcTCHdER BUFFALOgCLOSETgPOLOgWAVEfMELONcVE ARROW POINTING DIRECTLY LEFTbdRIGHTfDASH",
   "dING BLACK FLAGhHAND SIGNhWHITE FLAGdY DASHfLINEgOW LINEfOVERLINEcXING CRESCENT MOON SYMBOL",
   "hGIBBOUS MOON SYMBOLbEARY CAT FACEgFACEcDDINGdGE-TAILED RIGHTWARDS ARROW",
   "cIERSTRASS ELLIPTIC FUNCTIONdGHT LIFTERcST SYRIAC CROSSbHALEcEELf OF DHARMAfCHAIR SYMBOL",
   "cITE ARROW SHAFT WIDTH ONEyTWO THIRDSgBULLETgCHESS BISHOPs ROTATED NINETY DEGREES",
   "bbTWO HUNDRED SEVENTY DEGREESmEQUIHOPPERw ROTATED NINETY DEGREESmKINGq ROTATED NINETY DEGREES",
   "zTWO HUNDRED SEVENTY DEGREESnNIGHTs ROTATED FORTY-FIVE DEGREESbbNINETY DEGREES",
   "bbONE HUNDRED THIRTY-FIVE DEGREESbbTHREE HUNDRED FIFTEEN DEGREESbcWO HUNDRED SEVENTY DEGREES",
   "bnTWENTY-FIVE DEGREESs-BISHOPtQUEENtROOKmPAWNq ROTATED NINETY DEGREES",
   "zTWO HUNDRED SEVENTY DEGREESmQUEENr ROTATED NINETY DEGREESbaTWO HUNDRED SEVENTY DEGREESmROOK",
   "q ROTATED NINETY DEGREESzTWO HUNDRED SEVENTY DEGREESmTURNED BISHOPtKINGuNIGHTtPAWNtQUEENtROOK",
   "hIRCLEm CONTAINING BLACK SMALL CIRCLEnWITH DOT RIGHTuWN ARROWsLOWER LEFT QUADRANT",
   "yRIGHT QUADRANTsTWO DOTSsUPPER LEFT QUADRANTyRIGHT QUADRANThLUB SUIThONCAVE-SIDED DIAMOND",
   "bb WITH LEFTWARDS TICKbhRIGHTWARDS TICKgDIAMONDn CONTAINING BLACK MEDIUM DIAMOND",
   "bfSMALL DIAMONDbfVERY SMALL DIAMONDoIN SQUAREoSUIToWITH CENTRED DOT",
   "hOWN POINTING BACKHAND INDEXuINDEXuLEFT HAND INDEXk-POINTING SMALL TRIANGLEuTRIANGLE",
   "hRAUGHTS KINGpMANgEXCLAMATION MARK ORNAMENTgFLAGk WITH HORIZONTAL MIDDLE BLACK STRIPEiORETTE",
   "jWERhOUR POINTED CUSPtSTARhROWNING FACEgHARD SHELL FLOPPY DISKhEARTl SUITjVY CHECK MARK",
   "mSALTIRE WITH ROUNDED CORNERSiXAGONhORIZONTAL ELLIPSEiURGLASSgLARGE SQUAREiTIN CROSS",
   "hEFT LANE MERGElPOINTING BACKHAND INDEXuINDEXk-POINTING POINTERuSMALL TRIANGLEuTRIANGLE",
   "hOZENGE CONTAINING BLACK SMALL LOZENGEgMEDIUM DIAMONDnLOZENGEnSMALL SQUAREoQUAREoTAR",
   "hOON SELENAgNIBgPARALLELOGRAMhENNANTjTAGONgQUESTION MARK ORNAMENTgRECTANGLE",
   "hIGHT POINTING BACKHAND INDEXvINDEXl-POINTING PENTAGONwOINTERvSMALL TRIANGLEvTRIANGLE",
   "gSCISSORShESAME DOThHOGI PIECEhMALL LOZENGEmSQUAREnTARiILING FACEhPADE SUIThQUAREm BUTTON",
   "nCONTAINING BLACK MEDIUM SQUAREbeSMALL SQUAREbeVERY SMALL SQUAREnWITH CENTRE VERTICAL LINE",
   "sLEFTWARDS TICKtOWER LEFT QUADRANTyRIGHT QUADRANTsRIGHTWARDS TICKtOUNDED CORNERS",
   "sUPPER LEFT QUADRANTyRIGHT QUADRANTsVERTICAL BISECTING LINEhTARhUNj BEHIND CLOUDw WITH RAIN",
   "kWITH RAYSpSMALL CLOUDgTELEPHONEhOUCHTONE TELEPHONEhRAPEZIUM",
   "iIANGLE CONTAINING SMALL WHITE TRIANGLEhWO-WAY LEFT WAY TRAFFICgUP POINTING BACKHAND INDEX",
   "sINDEXi-POINTING CHEVRONsSMALL TRIANGLEsTRIANGLEba WITH DOTgVERTICAL BARpELLIPSEpRECTANGLE",
   "jY SMALL SQUAREf-FEATHERED RIGHTWARDS ARROWbIDE-HEADED DOWNWARDS BARB ARROWwHEAVY BARB ARROW",
   "wLIGHT BARB ARROWwMEDIUM BARB ARROWwVERY HEAVY BARB ARROWmLEFTWARDS BARB ARROW",
   "wHEAVY BARB ARROWwLIGHT BARB ARROWwMEDIUM BARB ARROWwVERY HEAVY BARB ARROW",
   "mNORTH EAST BARB ARROWxHEAVY BARB ARROWxLIGHT BARB ARROWxMEDIUM BARB ARROW",
   "xVERY HEAVY BARB ARROWsWEST BARB ARROWxHEAVY BARB ARROWxLIGHT BARB ARROWxMEDIUM BARB ARROW",
   "xVERY HEAVY BARB ARROWmRIGHTWARDS BARB ARROWxHEAVY BARB ARROWxLIGHT BARB ARROW",
   "xMEDIUM BARB ARROWxVERY HEAVY BARB ARROWmSOUTH EAST BARB ARROWxHEAVY BARB ARROW",
   "xLIGHT BARB ARROWxMEDIUM BARB ARROWxVERY HEAVY BARB ARROWsWEST BARB ARROWxHEAVY BARB ARROW",
   "xLIGHT BARB ARROWxMEDIUM BARB ARROWxVERY HEAVY BARB ARROWmUPWARDS BARB ARROWuHEAVY BARB ARROW",
   "uLIGHT BARB ARROWuMEDIUM BARB ARROWuVERY HEAVY BARB ARROWcGGLY VERTICAL LINEcLTED FLOWER",
   "cND BLOWING FACEfCHIMEeOWdE GLASSdKING FACEcRED KEYBOARDbJbOLF FACEcMANf WITH BUNNY EARS",
   "fS BOOTShCLOTHEShHAThSANDALdENS SYMBOLcN SIGNcODcRD JOINERfSEPARATOR MIDDLE DOTdLD MAPdM",
   "dRIED FACEbRAPPED PRESENTcEATH PRODUCTdNCHdSTLERScITING HANDaX IN A RECTANGLE BOXb-RAY",
   "bIANGQI BLACK CANNONpHARIOToELEPHANToGENERALoHORSEoMANDARINoSOLDIERiRED CANNONnHARIOT",
   "mELEPHANTmGENERALmHORSEmMANDARINmSOLDIERbORaYAWNING FACEbELLOW HEARTcN SIGN",
   "cZIDI COMBINING HAMZA MARKrMADDA MARKhHYPHENATION MARKhLETTER BEoCHHIMqIMpIMoDADqLoELIFpTpW",
   "pYNoFAoGAFoHAYpHAoJAoKAFpHAFoLAMr WITH DOT ABOVEoMIMoNUNoOWoPEpHEoQAFoRApHAoSADpEpHINpINoTA",
   "pHEoUMoVAq ALTERNATE FORMoWAWoXApHEYNoYOTr WITH CIRCUMFLEX ABOVEoZAqLpEbI RADICAL BBUTmURlCHE",
   "mIPmUOPmYnPnTlDDURmUlGAmEPmGOPnUOmOTlHMOmXITnOPnUOlJJIEnUTnYmOlKEmITlLInEmYRlMImOPlNBIEmYIP",
   "nOPmZUPlOPlPUTmYTlQOTlSHATnOPnURnYmSIlTATmUlVEPmURlWOlYITmOlZAmOTmUPnRmZIETdSYLLABLE AnPnTnX",
   "mBAoPoToXnBApPpTpXoEpPpXoIpEqPqTqXpPpTpXoOpPpTpXoUpOqPqXpPpRqXpTpXoYpPpTpXnEoPoXnIoEpPpTpXoP",
   "oToXnOoPoToXnUoOpPpXoPoRpXoToXnYoPoRpXoToXmCAoPoToXnEoPoXnHApPpTpXoEpPpTpXoOpPpTpXoUpOqPqTqX",
   "pPpRqXpXoYpPpRqXpTpXnIoEpPpTpXoPoToXnOoPoToXnUoOpPpXoPoRpXoToXnYoPoRpXoToXmDAoPoToXnDApPpTpX",
   "oEpPpXoIpEqPqXpPpTpXoOpPpTpXoUpOqPqXpPpRqXpTpXnEoPoXnIoEpPpXoPoToXnOoPoToXnUoOpXoPoRpXoToXmE",
   "nXmFAoPoToXnIoPoToXnOoPoXnUoPoRpXoToXnYoPoToXmGAoPoToXnEoPoToXnGApPpTpXoEpPpTpXoIpEqPqXpTpXoO",
   "pPpTpXoUpOqPqTqXpPpRqXpTpXnIoEpPpTpXoPoToXnOoPoToXnUoOpPpTpXoPoRpXoToXmHAoPoToXnEoPoXnIEpXoT",
   "nLApPpTpXoEpPpXoIpEqPqXpPpTpXoOpPpXoUpOqPqXpPpRqXpTpXoYpPpRqXpTpXnMApPpTpXoIpEqPqXpPpTpXoOpP",
   "pTpXoUpOqPqXpPpRqXpTpXoYpPpRqXpXnNApPpTpXoEpPpXoIpEqPqTqXpPpTpXoOPpTpXoUOqXpTnOoPoToXnUOpPpT",
   "pXnXApPpTpXoEpPpXoIpEqPqTqXpPpTpXoOpPpTpXoUOqPqTqXmInEoPoToXnPnToERATION MARKnXmJIoEpPpTpXoP",
   "oToXnJIpEqPqTqXpPpTpXoOpPpTpXoUpOqPqXpPpRqXpTpXoYpPpTpXnOoPoToXnUoOpPpTpXoPoRpXoToXnYoPoRpXoT",
   "oXmKAoPoToXnEoPoToXnIoEpPpXoPoToXnOoPoToXnUoOpPpXoPoRpXoToXmLAoPoToXnEoPoXnIoEpPpTpXoPoToXnO",
   "oPoToXnUoOpPpTpXoPoRpXoToXnYoPoRpXoToXmMAoPoToXnEoXnGApPpTpXoEpPpXoIEqXoOpPpTpXoUpOqPqXpPpRqX",
   "pTpXnIoEpPpXoPoToXnOoPoToXnUoOpPpTpXoPoRpXoToXnYoPoToXmNAoPoXnBApPpTpXoIpEqPqXpPpTpXoOpPpTpX",
   "oUpPpRqXpTpXoYpPpRqXpTpXnDApPpTpXoEpPpXoIpEqXpPpTpXoOpPpTpXoUpPpRqXpTpXnEoPoXnGApPpTpXoEpPpX",
   "oIEqPqXoOpPpTpXoUOqTqXnIoEpPpXoPoToXnJIpEqPqTqXpPpTpXoOpPpTpXoUpOqXpPpRqXpXoYpPpRqXpTpXnOoPoT",
   "oXnRApPpTpXoEpPpTpXoOpPpXoUpPpRqXpTpXoYpPpRqXpTpXnUoOpPpXoPoRpXoToXnYIpEqPqTqXpPpTpXoOpPpTpX",
   "oUpOqPqXpPpTpXnZApPpTpXoEpXoIpEqPqXpPpTpXoOPpXoUpOqXpPpRqXpXoYpPpRqXpTpXmOnPnTnXmPAoPoToXnIoE",
   "pPpXoPoToXnOoPoToXnUoOpPpXoPoRpXoToXnYoPoRpXoToXmQIoEpPpTpXoPoToXnOoPoToXnUoOpPpTpXoPoRpXoToX",
   "nYoPoRpXoToXmRAoPoToXnEoPoXnOoPoToXnRApXoEpPpTpXoOpPpTpXoUpOqXpPpRqXpTpXoYpPpRqXpTpXnUoOpPpX",
   "oPoRpXoToXnYoPoRpXoToXmSAoPoToXnEoPoXnHApPpTpXoEpPpTpXoOpPpTpXoUpOqPqXpPpRqXpTpXoYpPpRqXpTpX",
   "nIoEpPpXoPoToXnOoPoToXnSApPpTpXoEpPpXoIpEqPqXpPpTpXoOpPpTpXoUpPpTpXoYpPpRqXpTpXnUoOpPpXoPoRpX",
   "oToXnYoPoRpXoToXmTAoPoToXnEoPoXnIoEpPpXoPoToXnOoPoToXnUoOpPpTpXoPoRpXoToXmUOoPoXmVAoPoToXnEP",
   "oXnIoEpPpTpXoPoToXnOoPoToXnUoPoRpXoToXnYoPoRpXoToXmWAoPoToXnEoPoXnOoPoXnUoOpPpXmXIoEpPpTpXoP",
   "oToXnOoPoToXnUOpXnYoPoRpXoToXmYIoEpPpTpXoPoToXnOoPoToXnUoOpPpTpXoPoRpXoToXnYoPoRpXoToXmZAoPoT",
   "oXnEoPoXnHApPpTpXoEpPpTpXoOpPpTpXoUpOqPqXpPpRqXpTpXoYpPpRqXpTpXnIoEpPpXoPoToXnOoPoToXnUoOpPpX",
   "oPoRpXoToXnYoPoRpXoToXnZApPpTpXoEpPpXoIpEqPqTqXpPpTpXoOpPpXoUpPpRqXpXoYpPpRqXpTpXcN YANGbO-YO",
   "aZ NOTATION BAG MEMBERSHIPlDOMAIN ANTIRESTRICTIONlLEFT BINDING BRACKETqIMAGE BRACKET",
   "lRANGE ANTIRESTRICTIONmELATIONAL COMPOSITIONmIGHT BINDING BRACKETrIMAGE BRACKET",
   "lSCHEMA COMPOSITIONsPIPINGtROJECTIONmPOTlTYPE COLON",
   "bANABAZAR SQUARE CLOSING DOUBLE-LINED HEAD MARKzHEAD MARKtUSTER-FINAL LETTER LAbmRAbmVAbmYA",
   "zINITIAL LETTER RArFINAL CONSONANT MARKrINITIAL DOUBLE-LINED HEAD MARKzHEAD MARKrLETTER -AyA",
   "yBAzHAyCAzHAyDAzDAbaHAzHAzZAbaHAyGAzHAyHAyJAyKAzHAzSSAyLAyMAyNAzGAzNAzYAyPAzHAyRAySAzHAzSAyTA",
   "zHAzSAbaHAzTAbaHAyVAyYAyZAzHArMARK DOUBLE SHADwLONG TSHEGwSHADwTSHEGrSIGN ANUSVARA",
   "wCANDRA WITH ORNAMENTbcBINDUbh WITH ORNAMENTwVIRAMAySARGAsUBJOINERrVOWEL LENGTH MARKxSIGN AI",
   "bdUbcEbcIbcObdEbcREVERSED IbcUbdEbEBRA FACEcRO WIDTH JOINERlNO-BREAK SPACEnN-JOINERlSPACEcUS",
   "bIPPER-MOUTH FACEbNAMENNY COMBINING ATTACHING VERTICAL OMETtLOWER TONAL RANGE INDICATOR",
   "tMARK BORZAYAyCHASHKAbf POLNAYAzURVED OMETyDEMESTVENNY ZADERZHKAzVOETOCHIE",
   "yGORAZDO NIZKO ON LEFTbpRIGHTbmS KRYZHEM ON LEFTbzRIGHTbgVYSOKOyKACHKAzRYZHbd ON LEFTzUPNAYA",
   "yLOMKAyMALO POVYSHE ON LEFTboRIGHTblS KHOKHLOM ON LEFTbzRIGHTboRYZHEMbmTRANNOyNIZKO ON LEFT",
   "bhRIGHTbeS KRYZHEM ON LEFTbrRIGHTyOBLACHKOzNzTSECHKAyPODCHASHIEbi WITH VERTICAL STROKE",
   "bbVERTKAbaVYSHE ON LEFTbjRIGHTbgS KHOKHLOM ON LEFTbuRIGHTbjRYZHEMbhTRANNOyRAVNObaZSEKAySKOBA",
   "zOROCHYA NOZHKAzREDNE ON LEFTbiRIGHTzTRANNO MALO POVYSHEyTIKHAYAzOCHKAzSATA ON LEFTbhRIGHT",
   "beS KRYZHEMyUDARKAyVYSOKO ON LEFTbiRIGHTbfS KHOKHLOM ON LEFTbtRIGHTbiRYZHEMyZADERZHKAzELO",
   "baVOKtTONAL RANGE MARK MRACHNObkSVETLObkTRESVETLOjNEUME CHASHKArELYUSTKApDEMESTVENNY KLYUCH",
   "rRBITSAqOUBLE ZAPYATAYAqUDAqVA V CHELNUpFITApGOLUBCHIK BORZYzMRACHNYzSVETLYzTIKHYbaRESVETLY",
   "pKHAMILOqLYUCHqOBYLAqRYUKu TIKHYsZHqUFISMApMECHIKv KLYUCHENEPOSTOYANNYbdPOVODNYbdVOYwPOVODNY",
   "pNEMKApOBLAKOqSOKAu KLYUCHEVAYA NEPOSTOYANNAYAbhSVETLAYAwRYUKOVAYA SVETLAYAvSVETLAYA",
   "vTRESVETLAYApPALKArRAKLITrUKqEREVODKAy NEPOSTOYANNAYAqODCHASHIErLKULIZMYpREVERSED CHELYUSTKA",
   "qOGpSKAMEYTSA DVOECHELNAYA KLYUCHEVAYAbmNEPOSTOYANNAYAbmPROSTAYAbmSVETLAYA",
   "zKLYUCHENEPOSTOYANNAYAbgVAYA SVETLAYAblTIKHAYAzMRACHNAYAzSVETLAYAzTIKHAYAbaRESVETLAYA",
   "qLOZHITIEy S KRYZHEMbbZAPYATOYzZAKRYTOEqTATYAv NEPOSTOYANNAYAwS DVUMYA ZAPYATYMIyKRYZHEM",
   "bf I ZAPYATOYyROGOMyZAPYATOYbg I KRYZHEMbjPODCHASHIEMwZAKRYTAYAbf S ZAPYATOYrOPITSAx S OCHKOM",
   "yWITH SOROCHYA NOZHKArRELA DVOECHELNAYAbi KLYUCHEVAYAbfOKRYZHEVAYAbgPOVODNAYAbp KLYUCHEVAYA",
   "wGROMNAYAbe WITH SINGLE ZAPYATAYAbaOKRYZHEVAYAbl POVODNAYAbbPOVODNAYAbk WITH DOUBLE ZAPYATAYA",
   "bqSINGLE ZAPYATAYAwKLYUCHENEPOSTOYANNAYAbdPOVODNAYAxRYUKOVAYAbg GROMNAYA",
   "bp WITH SINGLE ZAPYATAYAblOKRYZHEVAYAbw POVODNAYAbmPOVODNAYAbv WITH DOUBLE ZAPYATAYA",
   "cbSINGLE ZAPYATAYAbhPOVODNAYAbhTRYASKAzZHEVAYAwMRACHNOTIKHAYAwNEPOSTOYANNAYAwPOLUPOVODNAYA",
   "yVODNAYAxROSTAYAwTIKHAYA PUTNAYAxRYASOGLASNAYAbcPOVODNAYAbcSTRELNAYA",
   "pVRAKHIYA KLYUCHEVAYA MRACHNAYAbkPROSTAYAbkSVETLAYAbkTRESVETLAYAyMRACHNAYAyPROSTAYAySVETLAYA",
   "yTRESVETLAYApZANOZHEKrPYATAYAqMEYTSAjPRIZNAK MODIFIER DIRECTION FLIPbaKRYZHbaLEVEL-2bg3baROG",
   "bOMBIEbWJcNBSPdJcSP"]

end DeclGen.Text
