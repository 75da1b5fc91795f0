/-!
# Table of character names

The names and aliases of characters in order, but for syllables and ideographs, whose names follow a rule.  Before
each name small letters say how many characters to take off the end of the name before it: `a` none, `b` one, and so
on; letters in a row add up.
-/

set_option autoImplicit false

namespace DesignProps.Text.CharacterName

def table : List String := [
  "aABACUSfC CURRENTiCORDIONfUNT OFiKaNOWLEDGEjTIVATE ARABIC FORM SHAPINGtSYMMETRIC SWAPPINGzUTE ACCENTfNGLEkDDRESSED",
  " TO THE SUBJECTwHESIVE BANDAGEoI SHAKTIiLAM ALIF LENGTHENERpCAPITAL LETTER ALIFeBAbHEdCHIdDAALIeHAdEbFAcGAbBEdHAcI",
  "bJIIMeKAFcHAcPOdLAAMeMIIMeNHAcUNcYAdObPEcQAAFeRAcSHAcINNYIIYHEkTUcUbVAcWAWdYAbHEdZALrONSONANT MODIFIERsDIGIT EIGHT",
  "fFIVEdOUReNINEeONEdSEVENeIXdTHREEeWOdZEROkGEMINATE CONSONANT MODIFIERuION MARKpHAMZAfINITIAL EXCLAMATION MARKqQUES",
  "TION MARKvNASALIZATION MARKqUKTAfSMALL LETTER ALIFeBAbHEdCHIdDAALIeHAdEbFAcGAbBEdHAcIbJIIMeKAFcHAcPOdLAAMeMIIMeNHA",
  "cUNcYAdObPEcQAAFeRAcSHAcINNYIIYHEkTUcUbVAcWAWdYAbHEdZALqVOWEL LENGTHENERuMETOSeISSION TICKETSpULTeEGEAN CHECK MARK",
  "kDRY MEASURE FIRST SUBUNITzLIQUID MEASURE FIRST SUBUNITzdMEASURE SECOND SUBUNIToTHIRD SUBUNITvNUMBER EIGHTa HUNDRE",
  "DhTHOUSANDjYa THOUSANDpFIFTYa THOUSANDmVEa HUNDREDhTHOUSANDmORTYa THOUSANDmURa HUNDREDhTHOUSANDnNINEa HUNDREDhTHOU",
  "SANDjTYa THOUSANDpONEa HUNDREDhTHOUSANDmSEVENa HUNDREDhTHOUSANDjTYa THOUSANDpIXa HUNDREDhTHOUSANDjTYa THOUSANDoTEN",
  "a THOUSANDlHIRTYa THOUSANDnREEa HUNDREDhTHOUSANDnWENTYa THOUSANDnOa HUNDREDhTHOUSANDtWEIGHT BASE UNITjFIRST SUBUNI",
  "TmOURTH SUBUNIToSECOND SUBUNIToTHIRD SUBUNITtORD SEPARATOR DOTdLINEyRIAL TRAMWAYnFGHANI SIGNlHOM CONSONANT SIGN ME",
  "DIAL LAbIGATING RAlRAyDIGIT EIGHTfFIVEdOUReNINEeONEdSEVENeIXdTHREEeWOdZEROkLETTER AaLTERNATE BAcGAcTAmBAbHAdCAbHAd",
  "DAbDAbHAdHAdGAbHAdHAcJAbHAdKAbHAdLAbLAdMAcNAbGAcNAcYAdPAbHAdRAcSAcTAbHAcTAbHAlNUMBER TENcWENTYnSIGN KILLERgRULAIfS",
  "ECTIONgMALL SECTIONrYMBOL VIjVOWEL SIGN AaAbIbMbWcEbIaIcObUaUrIRPLANEa ARRIVINGiDEPARTURErKTIESELSKABlLARM CLOCKjC",
  "HEMICAL SYMBOL FOR AIRcLEMBICfKALIa-2gUMdMALGAMgNTIMONY ORElQUA REGIAa-2hVITAEa-2iFORTISjRSENICgSHESeURIPIGMENTlBA",
  "TH OF MARYeVAPOURSoISMUTH OREkLACK SULFURlORAXa-2b3gRICKfCADUCEUSgLXcPUT MORTUUMmINNABARhOPPER ANTIMONIATElOREjROC",
  "US OF COPPERa-2iIRONmUCIBLEa-2b3b4b5kDAY-NIGHTiISSOLVEa-2hTILLhEARTHfFIREeGOLDdUMdHALF DRAMeOUNCEjORSE DUNGiUReIRO",
  "N OREa-2g-COPPER OREpLEAD OREhODESTONEjMARCASITEiERCURY SUBLIMATEa-2b3sONTHfNIGHTdTREfOILdPHILOSOPHERS SULFURsOT A",
  "SHEShWDERaED BRICKnRECIPITATEkURIFYeTREFACTIONmQUICK LIMEhNTESSENCEmREALGARa-2hGULUSa OF ANTIMONYa-2kIRONi-2b3b4hT",
  "ORTfOCK SALTa-2lSAL-AMMONIACjTa OF ANTIMONYiCOPPER ANTIMONIATEzCEPTER OF JOVEoILVERfOAPdPIRITfTARRED TRIDENTnRATUM",
  " SUPER STRATUMa-2wUBLIMATE OF ANTIMONYiCOPPERgSALT OF ANTIMONYiCOPPERtIONjLFURgTARTARa-2hIN OREeCTUREhRIDENTgUTTYf",
  "URINEfVERDIGRISiINEGARa OF ANTIMONYm-2b3hTRIOLa-2jWATERdXxEF SYMBOLiMBICeRTdIEN MONSTERlL AROUND-PROFILEoEQUAL TOk",
  "MaOST EQUAL OR EQUAL TOlTOa WITH CIRCUMFLEX ACCENTzlTERNATE ONE-WAY LEFT WAY TRAFFICzbIVE KEY SYMBOLvMALGAMATION O",
  "R COPRODUCTxBULANCEhERICAN FOOTBALLpPERSANDgHORAgNATOLIAN HIEROGLYPH A001b2b3b4b5b6b7b8b9c10aAc1b2b3b4b5b6b7b8b9c2",
  "0b1b2b3b4b5b6aAc7b8b9c30b1b2b3b4b5b6b7b8b9aAd40b1aAc2b3b4b5aAc6aAbBc7b8b9c50b1b2b3b4b5b6b7b8b9c60b1b2b3b4b5b6aAbBb",
  "Cc7b8b9c70b1b2b3b4b5b6b7b8b9c80b1b2b3b4b5b6b7b8b9c90b1b2b3b4b5b6b7aAc8aAc9d100aAc1aAc2aAc3b4aAbBbCc5aAbBc6b7aAbBbC",
  "c8b9c10aAbBc1b2b3b4b5aAc6b7b8b9c20b1b2b3b4b5aAc6b7b8b9c30b1b2b3b4b5aAc6b7b8b9c40b1b2b3b4b5b6b7b8b9c50b1b2b3b4b5b6b",
  "7b8b9c60b1b2b3b4b5b6b7b8b9c70b1b2b3b4b5b6b7b8b9c80b1b2b3b4b5b6b7b8b9c90b1b2b3b4b5b6b7b8b9d200b1b2aAbBc3b4b5b6b7aAc",
  "8b9aAd10b1b2b3b4b5aAc6aAc7b8b9c20b1b2b3b4b5b6b7aAc8b9c30b1b2b3b4b5b6b7b8b9c40b1b2b3b4b5b6b7b8b9c50b1b2b3b4b5b6b7b8",
  "b9c60b1b2b3b4b5b6b7aAc8b9c70b1b2b3b4b5b6b7b8b9c80b1b2b3b4b5b6b7b8b9aAd90b1b2b3b4aAc5b6b7b8b9aAe300b1b2b3b4b5b6b7b8",
  "b9aAd10b1b2b3b4b5b6b7b8b9c20b1b2b3b4b5b6b7b8b9aAd30b1b2AbBbCc3b4b5b6aAbBbCc7b8b9c40b1b2b3b4b5b6b7b8b9c50b1b2b3b4b5",
  "b6b7b8b9aAd60b1b2b3b4aAc5b6b7b8aAc9c70b1aAc2b3b4b5b6b7b8b9c80b1aAc2b3 RA OR RIjAc4b5b6aAc7b8b9c90b1b2b3 EIGHTh4b5b",
  "6b7b8b9d400b1b2b3b4b5b6b7b8b9c10 BEGIN LOGOGRAM MARKuA END LOGOGRAM MARKu1b2b3b4b5b6b7b8b9c20b1b2b3b4b5b6b7b8b9c30",
  "b1b2b3b4b5b6b7b8b9c40b1b2b3b4b5b6b7b8b9c50aAc1b2b3b4b5b6b7aAc8b9c60b1b2b3b4b5b6b7b8b9c70b1b2b3b4b5b6b7b8b9c80b1b2b",
  "3b4b5b6b7b8b9c90b1b2b3b4b5b6b7d501b2b3b4b5b6b7b8b9c10b1b2b3b4b5b6b7b8b9c20b1b2b3b4b5b6b7b8b9c30uMICAL HEARToCHOReD",
  " WITH DOTkGER SYMBOLjLEa WITH S INSIDEiUNDERBARqRY FACEhSTROM SIGNkUISHED FACEmKHcTaENNA WITH BARSoICLOCKWISE CLOS",
  "ED CIRCLE ARROWsONTOUR INTEGRALqDOWNWARDS AND UPWARDS OPEN CIRCLE ARROWSzpGAPPED CIRCLE ARROWtINTEGRATIONlOPEN CIR",
  "CLE ARROWrTOP SEMICIRCLE ARROWtRIANGLE-HEADED BOTTOM U-SHAPED ARROWvLEFT U-SHAPED ARROWtOPEN CIRCLE ARROWrRIGHT U-",
  "SHAPED ARROWuTOP U-SHAPED ARROWzwPCbL FUNCTIONAL SYMBOL ALPHAa UNDERBARoBACKSLASH BARnCIRCLE BACKSLASHjDIAERESISjJ",
  "OTdSTARcILEfUNDERBARoOMMA BARjDEL DIAERESISjSTILEfTILDEgTA STILEfUNDERBARnIAMOND UNDERBARpOWN CARET TILDElSHOE STI",
  "LEkTACK JOTdUNDERBARoWARDS VANEoEPSILON UNDERBARqGREATER-THAN DIAERESISwI-BEAMfOTAa UNDERBARnJOT DIAERESISjUNDERBA",
  "RmLEFT SHOE STILElWARDS VANEoOMEGAa UNDERBARoQUADa BACKSLASHjCIRCLEfOLONfDELaTAeIAMONDfVIDEfOWN CARETgWARDS ARROWp",
  "EQUALfGREATER-THANmJOTdLEFTWARDS ARROWnSS-THANjNOT EQUALjQUESTIONiRIGHTWARDS ARROWqSLASHfUP CARETgWARDS ARROWqOTE ",
  "QUADeUNDERBARoRHOcIGHTWARDS VANEpSEMICOLON UNDERBARrLASH BARiQUISH QUADkTAR DIAERESISmILE TILDElTILDE DIAERESISpUP",
  " CARET TILDElSHOE JOTiTACK DIAERESISjJOTdOVERBARnWARDS VANEmZILDEzOLLONeSTROPHEiPLICATION PROGRAM COMMANDyROACHES ",
  "THE LIMITpXIMATELY BUT NOT ACTUALLY EQUAL TOzEQUAL OR EQUAL TOlTOa OR THE IMAGE OFzmQUARIUShRABIC BASELINE ROUND D",
  "OTsCOMMAeURLY DAMMAaTANiFATHAaTANiKASRAaTANoDAMMAa ISOLATED FORMnMEDIAL FORMlWITH DOTjTANa ISOLATED FORMuTE SEPARA",
  "TORnECIMAL SEPARATORqISPUTED END OF AYAHtOUBLE RIGHT ARROWHEAD ABOVEa WITH DOTzgD MADDAnEMPTY CENTRE HIGH STOPjLOW",
  " STOPuND OF AYAHeTEXT MARKqFATHAa ISOLATED FORMnMEDIAL FORMlWITH DOT ABOVEjRINGeTWO DOTSoTANa ISOLATED FORMvIVE PO",
  "INTED STARqOOTNOTE MARKERoULL STOPjHALF MADDA OVER MADDAtMZA ABOVEfBELOWlINVERTED DAMMAoKASRAa ISOLATED FORMnMEDIA",
  "L FORMlWITH DOT BELOWpTANa ISOLATED FORMwLARGE CIRCLE BELOWmROUND DOT ABOVEfBELOWfINSIDE CIRCLE BELOWzjEFT ARROWHE",
  "AD ABOVEfBELOWsTTER AEbFRICAN FEHdNOONeQAFa WITH THREE DOTS ABOVEzhINa FINAL FORMkINITIAL FORMlSOLATED FORMnMEDIAL",
  " FORMlWITH THREE DOTS ABOVEfBELOWfPOINTING DOWNWARDS ABOVEzjWO DOTS ABOVEfVERTICALLY ABOVEziLEFa FINAL FORMkISOLAT",
  "ED FORMnMAKSURAa FINAL FORMkISOLATED FORMvWASLAa FINAL FORMkISOLATED FORMsITH ATTACHED BOTTOM RIGHT KASRAa AND DOT",
  " ABOVEjLEFT RINGzhFATHAfKASRAfLEFT HAMZAfROUND DOToRIGHT HAMZAfROUND DOToOUND DOT ABOVEfBELOWpTOP RIGHT FATHAa AND",
  " DOT ABOVEjLEFT RINGznDOT ABOVEjEXTENDED ARABIC-INDIC DIGIT THREE ABOVEkWO ABOVEzmHAMZA ABOVEa FINAL FORMkISOLATED",
  " FORMtBELOWa FINAL FORMkISOLATED FORMzLEFT MIDDLE STROKEsMADDA ABOVEa FINAL FORMkISOLATED FORMzRIGHT MIDDLE STROKE",
  "a AND DOT ABOVEjLEFT RINGziWAVY HAMZA ABOVEfBELOWzbBEEHa FINAL FORMkINITIAL FORMlSOLATED FORMnMEDIAL FORMoHa FINAL",
  " FORMkINITIAL FORMlSOLATED FORMnMEDIAL FORMlWITH DOT BELOW AND THREE DOTS ABOVEzfHAMZA ABOVElINVERTED SMALL V BELO",
  "WwSMALL MEEM ABOVEkVa BELOWnTHREE DOTS HORIZONTALLY BELOWsPOINTING UPWARDS BELOWa AND TWO DOTS ABOVEzzbWO DOTS BEL",
  "OW AND DOT ABOVEzjEHa FINAL FORMkINITIAL FORMlSOLATED FORMnMEDIAL FORMrDADa FINAL FORMkINITIAL FORMlSOLATED FORMnM",
  "EDIAL FORMlWITH DOT BELOWqHALa FINAL FORMkISOLATED FORMrLa FINAL FORMkISOLATED FORMnWITH DOT BELOWa AND SMALL TAHx",
  "FOUR DOTS ABOVEpINVERTED SMALL V BELOWnVkRINGeTHREE DOTS ABOVE DOWNWARDSpBELOWpWO DOTS VERTICALLY BELOW AND SMALL ",
  "TAHzwDAHALa FINAL FORMkISOLATED FORMrLa FINAL FORMkISOLATED FORMrOTLESS BEHdFEHdQAFkULa FINAL FORMkISOLATED FORMqY",
  "EHa FINAL FORMkINITIAL FORMlSOLATED FORMnMEDIAL FORMqEa FINAL FORMkINITIAL FORMlSOLATED FORMnMEDIAL FORMnFARSI YEH",
  "a FINAL FORMkINITIAL FORMlSOLATED FORMnMEDIAL FORMlWITH EXTENDED ARABIC-INDIC DIGIT FOUR BELOWkTHREE ABOVEkWO ABOV",
  "EzmINVERTED VkTHREE DOTS ABOVEpWO DOTS ABOVEzdEHa FINAL FORMkINITIAL FORMlSOLATED FORMnMEDIAL FORMlWITH DOT BELOWa",
  " AND THREE DOTS ABOVEzbMOVED BELOWpTHREE DOTS BELOWfPOINTING UPWARDS BELOWzhWO DOTS BELOWxGAFa FINAL FORMkINITIAL ",
  "FORMlSOLATED FORMnMEDIAL FORMlWITH INVERTED STROKEpRINGeTHREE DOTS ABOVEpWO DOTS BELOWwHAINa FINAL FORMkINITIAL FO",
  "RMlSOLATED FORMnMEDIAL FORMlWITH DOT BELOWjTHREE DOTS ABOVEzbRAFdUEHa FINAL FORMkINITIAL FORMlSOLATED FORMnMEDIAL ",
  "FORMqHAHa FINAL FORMkINITIAL FORMlSOLATED FORMnMEDIAL FORMlWITH EXTENDED ARABIC-INDIC DIGIT FOUR BELOWznHAMZA ABOV",
  "ElINVERTED SMALL V BELOWwSMALL ARABIC LETTER TAH ABOVEeND TWO DOTSmBELOWzeTHREE DOTS ABOVEfPOINTING UPWARDS BELOWz",
  "hWO DOTS ABOVEfVERTICAL ABOVEzfMZAa ISOLATED FORMsEHa DOACHASHMEEa FINAL FORMkINITIAL FORMlSOLATED FORMnMEDIAL FOR",
  "MxFINAL FORMkGOALa FINAL FORMkINITIAL FORMlSOLATED FORMnMEDIAL FORMlWITH HAMZA ABOVEvINITIAL FORMlSOLATED FORMnMED",
  "IAL FORMlWITH INVERTED VkYEH ABOVEa FINAL FORMkISOLATED FORMzgIGH HAMZAa ALEFeWAWdYEHoJEEMa FINAL FORMkINITIAL FOR",
  "MlSOLATED FORMnMEDIAL FORMlWITH THREE DOTS ABOVEfBELOWpWO DOTS ABOVEwHa FINAL FORMkISOLATED FORMrKAFa FINAL FORMkI",
  "NITIAL FORMlSOLATED FORMnMEDIAL FORMlWITH DOT ABOVEfBELOWjRINGeTHREE DOTS BELOWpWO DOTS ABOVEvSHMIRI YEHlEHEHa FIN",
  "AL FORMkINITIAL FORMlSOLATED FORMnMEDIAL FORMlWITH DOT ABOVEjSMALL VhTHREE DOTS ABOVEfBELOWfPOINTING UPWARDS BELOW",
  "zhWO DOTS ABOVEfVERTICALLY BELOWzkHAHa FINAL FORMkINITIAL FORMlSOLATED FORMnMEDIAL FORMpIRGHIZ OEa FINAL FORMkISOL",
  "ATED FORMqYUa FINAL FORMkISOLATED FORMyLAMa FINAL FORMkINITIAL FORMlSOLATED FORMnMEDIAL FORMlWITH BARdDOT ABOVEhUB",
  "LE BARkSMALL ARABIC LETTER TAH ABOVExVhTHREE DOTS ABOVEfBELOWyOW ALEFiMARKdEEMa FINAL FORMkINITIAL FORMlSOLATED FO",
  "RMnMEDIAL FORMlWITH DOT ABOVEfBELOWjTHREE DOTS ABOVEzbNGa FINAL FORMkINITIAL FORMlSOLATED FORMnMEDIAL FORMmOEHa FI",
  "NAL FORMkINITIAL FORMlSOLATED FORMnMEDIAL FORMqOONa FINAL FORMkGHUNNAa FINAL FORMkISOLATED FORMuINITIAL FORMlSOLAT",
  "ED FORMnMEDIAL FORMlWITH DOT BELOWjINVERTED SMALL VqRINGeSMALL TAHdVhTHREE DOTS ABOVEpWO DOTS BELOWxYEHa FINAL FOR",
  "MkINITIAL FORMlSOLATED FORMnMEDIAL FORMqOEa FINAL FORMkISOLATED FORMqPEHa FINAL FORMkINITIAL FORMlSOLATED FORMnMED",
  "IAL FORMlWITH SMALL MEEM ABOVEkVnEHa FINAL FORMkINITIAL FORMlSOLATED FORMnMEDIAL FORMrQAFa FINAL FORMkINITIAL FORM",
  "lSOLATED FORMnMEDIAL FORMlWITH DOT ABOVEfBELOWa AND NO DOTS ABOVEzcTHREE DOTS ABOVEzREHa FINAL FORMkISOLATED FORMn",
  "WITH DOT BELOWa AND DOT ABOVExFOUR DOTS ABOVEpHAMZA ABOVElINVERTED VkLOOPeRINGeSMALL ARABIC LETTER TAH AND TWO DOT",
  "SzfNOON ABOVEkVa BELOWmTROKEgTWO DOTS ABOVEfVERTICALLY ABOVEziNOONa FINAL FORMkINITIAL FORMlSOLATED FORMnMEDIAL FO",
  "RMqOHINGYA YEHlREHa FINAL FORMkISOLATED FORMsSADa FINAL FORMkINITIAL FORMlSOLATED FORMnMEDIAL FORMlWITH THREE DOTS",
  " ABOVEfBELOWpWO DOTS BELOWwEENa FINAL FORMkINITIAL FORMlSOLATED FORMnMEDIAL FORMlWITH DOT BELOW AND DOT ABOVExEXTE",
  "NDED ARABIC-INDIC DIGIT FOUR ABOVEznFOUR DOTS ABOVEpINVERTED VkSMALL ARABIC LETTER TAH AND TWO DOTSzlTHREE DOTS BE",
  "LOWa AND THREE DOTS ABOVEzlWO DOTS VERTICALLY ABOVEzjHEENa FINAL FORMkINITIAL FORMlSOLATED FORMnMEDIAL FORMlWITH D",
  "OT BELOWtTRAIGHT WAWlUPERSCRIPT ALEFpWASH KAFjTAHa FINAL FORMkINITIAL FORMlSOLATED FORMnMEDIAL FORMlWITH DOT BELOW",
  "jTHREE DOTS ABOVEfBELOWpWO DOTS ABOVEwCHEHa FINAL FORMkINITIAL FORMlSOLATED FORMnMEDIAL FORMlWITH DOT ABOVEjSMALL ",
  "VnEHa FINAL FORMkINITIAL FORMlSOLATED FORMnMEDIAL FORMsEHa FINAL FORMkINITIAL FORMlSOLATED FORMnMARBUTAa FINAL FOR",
  "MkGOALeISOLATED FORMuEDIAL FORMlWITH RINGeSMALL TEH ABOVEjVhTHREE DOTS ABOVE DOWNWARDSzhEHa FINAL FORMkINITIAL FOR",
  "MlSOLATED FORMnMEDIAL FORMqHALa FINAL FORMkISOLATED FORMqEHa FINAL FORMkINITIAL FORMlSOLATED FORMnMEDIAL FORMoIN Y",
  "EHhTEHa FINAL FORMkINITIAL FORMlSOLATED FORMnMEDIAL FORMlWITH SMALL VnEHa FINAL FORMkINITIAL FORMlSOLATED FORMnMED",
  "IAL FORMsUa FINAL FORMkISOLATED FORMnWITH HAMZA ABOVEa ISOLATED FORMzgIGHUR KAZAKH KIRGHIZ ALEF MAKSURA INITIAL FO",
  "RMmMEDIAL FORMzvVEa FINAL FORMkISOLATED FORMoHa FINAL FORMkINITIAL FORMlSOLATED FORMnMEDIAL FORMpWAWa FINAL FORMkI",
  "SOLATED FORMnWITH DOT ABOVEfWITHINkEXTENDED ARABIC-INDIC DIGIT THREE ABOVEkWO ABOVEzmHAMZA ABOVEa FINAL FORMkISOLA",
  "TED FORMzRINGeTWO DOTS ABOVExYEHa BARREEa FINAL FORMkISOLATED FORMnWITH EXTENDED ARABIC-INDIC DIGIT THREE ABOVEkWO",
  " ABOVEzmHAMZA ABOVEa FINAL FORMkISOLATED FORMzmFINAL FORMkINITIAL FORMlSOLATED FORMnMEDIAL FORMlWITH HAMZA ABOVEa ",
  "FINAL FORMkINITIAL FORMlSOLATED FORMnMEDIAL FORMxSMALL VhTAILdHREE DOTS BELOWpWO DOTS BELOW AND DOT ABOVEjHAMZA AB",
  "OVElSMALL NOON ABOVEzsUa FINAL FORMkISOLATED FORMqZAHa FINAL FORMkINITIAL FORMlSOLATED FORMnMEDIAL FORMnINa FINAL ",
  "FORMkISOLATED FORMnWITH INVERTED V ABOVEzhIGATURE AIN WITH ALEF MAKSURA FINAL FORMkISOLATED FORMzbJEEM INITIAL FOR",
  "MlSOLATED FORMnWITH MEEM FINAL FORMkINITIAL FORMzcMEEM INITIAL FORMlSOLATED FORMnWITH ALEF MAKSURA FINAL FORMxMEEM",
  " FINAL FORMkINITIAL FORMrYEH FINAL FORMyYEH FINAL FORMkISOLATED FORMzKBAR ISOLATED FORMsLAYHAA AS-SALAAMmE ISOLATE",
  "D FORMpI AS-SALAAMbTU WAS-SALAAMwM AS-SALAAMkAA AS-SALAAMrEF MAKSURA WITH SUPERSCRIPT ALEF FINAL FORMkISOLATED FOR",
  "MzsWITH FATHATAN FINAL FORMkISOLATED FORMzfLAH ISOLATED FORMsZZA WA JALLmBEH WITH ALEF MAKSURA FINAL FORMkISOLATED",
  " FORMzbHAH INITIAL FORMlSOLATED FORMnWITH YEH FINAL FORMwEH INITIAL FORMmMEDIAL FORMpJEEM INITIAL FORMlSOLATED FOR",
  "MsKHAH INITIAL FORMlSOLATED FORMnWITH YEH FINAL FORMyMEEM FINAL FORMkINITIAL FORMlSOLATED FORMnMEDIAL FORMqNOON FI",
  "NAL FORMpREH FINAL FORMoYEH FINAL FORMkISOLATED FORMrZAIN FINAL FORMxISMILLAH AR-RAHMAN AR-RAHEEMzeDAD WITH ALEF M",
  "AKSURA FINAL FORMkISOLATED FORMzbHAH INITIAL FORMlSOLATED FORMnWITH ALEF MAKSURA FINAL FORMxYEH FINAL FORMxJEEM IN",
  "ITIAL FORMlSOLATED FORMsKHAH INITIAL FORMlSOLATED FORMnWITH MEEM FINAL FORMkINITIAL FORMzcMEEM INITIAL FORMlSOLATE",
  "D FORMsREH FINAL FORMkISOLATED FORMrYEH FINAL FORMkISOLATED FORMzbFEH WITH ALEF MAKSURA FINAL FORMkISOLATED FORMzb",
  "HAH INITIAL FORMlSOLATED FORMrJEEM INITIAL FORMlSOLATED FORMsKHAH INITIAL FORMlSOLATED FORMnWITH MEEM FINAL FORMkI",
  "NITIAL FORMzcMEEM INITIAL FORMlSOLATED FORMnWITH YEH FINAL FORMyYEH FINAL FORMkISOLATED FORMzbGHAIN WITH ALEF MAKS",
  "URA FINAL FORMkISOLATED FORMzbJEEM INITIAL FORMlSOLATED FORMsMEEM INITIAL FORMlSOLATED FORMnWITH ALEF MAKSURA FINA",
  "L FORMxMEEM FINAL FORMpYEH FINAL FORMyYEH FINAL FORMkISOLATED FORMzdHAH WITH ALEF MAKSURA FINAL FORMkISOLATED FORM",
  "zbJEEM INITIAL FORMlSOLATED FORMnWITH YEH FINAL FORMyMEEM INITIAL FORMlSOLATED FORMnWITH ALEF MAKSURA FINAL FORMxY",
  "EH FINAL FORMyYEH FINAL FORMkISOLATED FORMzEH WITH ALEF MAKSURA ISOLATED FORMzbJEEM INITIAL FORMlSOLATED FORMsMEEM",
  " INITIAL FORMlSOLATED FORMnWITH JEEM INITIAL FORMrMEEM INITIAL FORMzcSUPERSCRIPT ALEF INITIAL FORMzeYEH ISOLATED F",
  "ORMzbJALLAJALALOUHOUoEEM WITH ALEF MAKSURA FINAL FORMkISOLATED FORMzbHAH INITIAL FORMlSOLATED FORMnWITH ALEF MAKSU",
  "RA FINAL FORMxYEH FINAL FORMxMEEM INITIAL FORMlSOLATED FORMnWITH ALEF MAKSURA FINAL FORMxHAH FINAL FORMkINITIAL FO",
  "RMqYEH FINAL FORMyYEH FINAL FORMkISOLATED FORMzcKAF WITH ALEF FINAL FORMkISOLATED FORMnMAKSURA FINAL FORMkISOLATED",
  " FORMzbHAH INITIAL FORMlSOLATED FORMrJEEM INITIAL FORMlSOLATED FORMsKHAH INITIAL FORMlSOLATED FORMsLAM FINAL FORMk",
  "INITIAL FORMlSOLATED FORMnMEDIAL FORMpMEEM FINAL FORMkINITIAL FORMlSOLATED FORMnMEDIAL FORMlWITH MEEM FINAL FORMkI",
  "NITIAL FORMrYEH FINAL FORMyYEH FINAL FORMkISOLATED FORMzHAH WITH ALEF MAKSURA FINAL FORMkISOLATED FORMzbHAH ISOLAT",
  "ED FORMrJEEM INITIAL FORMlSOLATED FORMsMEEM INITIAL FORMlSOLATED FORMsYEH FINAL FORMkISOLATED FORMzcLAM WITH ALEF ",
  "FINAL FORMkISOLATED FORMnMAKSURA FINAL FORMkISOLATED FORMvWITH HAMZA ABOVE FINAL FORMkISOLATED FORMtBELOW FINAL FO",
  "RMkISOLATED FORMzMADDA ABOVE FINAL FORMkISOLATED FORMzkHAH INITIAL FORMlSOLATED FORMnWITH ALEF MAKSURA FINAL FORMx",
  "MEEM FINAL FORMkINITIAL FORMrYEH FINAL FORMwEH INITIAL FORMqJEEM INITIAL FORMlSOLATED FORMnWITH JEEM FINAL FORMkIN",
  "ITIAL FORMrMEEM FINAL FORMkINITIAL FORMrYEH FINAL FORMyKHAH INITIAL FORMlSOLATED FORMnWITH MEEM FINAL FORMkINITIAL",
  " FORMzcMEEM FINAL FORMkINITIAL FORMlSOLATED FORMnMEDIAL FORMlWITH HAH FINAL FORMkINITIAL FORMqYEH FINAL FORMyYEH F",
  "INAL FORMkISOLATED FORMzbMEEM WITH ALEF FINAL FORMkMAKSURA ISOLATED FORMzbHAH INITIAL FORMlSOLATED FORMnWITH JEEM ",
  "INITIAL FORMrMEEM INITIAL FORMrYEH FINAL FORMxJEEM INITIAL FORMlSOLATED FORMnWITH HAH INITIAL FORMqKHAH INITIAL FO",
  "RMrMEEM INITIAL FORMrYEH FINAL FORMyKHAH INITIAL FORMlSOLATED FORMnWITH JEEM INITIAL FORMrMEEM INITIAL FORMrYEH FI",
  "NAL FORMyMEEM FINAL FORMkINITIAL FORMlSOLATED FORMnWITH YEH FINAL FORMyYEH ISOLATED FORMzbOHAMMAD ISOLATED FORMwNO",
  "ON WITH ALEF MAKSURA FINAL FORMkISOLATED FORMzbHAH INITIAL FORMlSOLATED FORMnWITH ALEF MAKSURA FINAL FORMxMEEM INI",
  "TIAL FORMrYEH FINAL FORMwEH INITIAL FORMmMEDIAL FORMpJEEM INITIAL FORMlSOLATED FORMnWITH ALEF MAKSURA FINAL FORMxH",
  "AH FINAL FORMkINITIAL FORMqMEEM FINAL FORMkINITIAL FORMrYEH FINAL FORMyKHAH INITIAL FORMlSOLATED FORMsMEEM FINAL F",
  "ORMkINITIAL FORMlSOLATED FORMnMEDIAL FORMlWITH ALEF MAKSURA FINAL FORMxYEH FINAL FORMyNOON FINAL FORMpREH FINAL FO",
  "RMoYEH FINAL FORMkISOLATED FORMrZAIN FINAL FORMzQAF WITH ALEF MAKSURA FINAL FORMkISOLATED FORMzbHAH INITIAL FORMlS",
  "OLATED FORMrMEEM INITIAL FORMlSOLATED FORMnWITH HAH FINAL FORMkINITIAL FORMqMEEM FINAL FORMpYEH FINAL FORMyYEH FIN",
  "AL FORMkISOLATED FORMyLA USED AS KORANIC STOP SIGN ISOLATED FORMzsUDDISA SIRRAHoRADI ALLAAHU ANHaAAcUMaAAdNNAsHIMA",
  "HU ALLAAHhM ALLAAHoSOUL ISOLATED FORMtEH WITH SUPERSCRIPT ALEF ISOLATED FORMzoSAD WITH ALEF MAKSURA FINAL FORMkISO",
  "LATED FORMzbHAH INITIAL FORMlSOLATED FORMnWITH HAH FINAL FORMkINITIAL FORMqYEH FINAL FORMxKHAH INITIAL FORMrMEEM I",
  "NITIAL FORMlSOLATED FORMnWITH MEEM FINAL FORMkINITIAL FORMzcREH FINAL FORMkISOLATED FORMrYEH FINAL FORMkISOLATED F",
  "ORMyLAAMUHU ALAYNAAnM ISOLATED FORMqLA ISOLATED FORMnUSED AS KORANIC STOP SIGN ISOLATED FORMzpLLAAHU ALAYHI WA-AAL",
  "IHtHOU ALAYHE WASALLAMsU ALAYHI WAAALIHEE WA-SALLAMzlEEN WITH ALEF MAKSURA FINAL FORMkISOLATED FORMzbHAH INITIAL F",
  "ORMlSOLATED FORMnMEDIAL FORMlWITH JEEM INITIAL FORMzEH INITIAL FORMmMEDIAL FORMpJEEM INITIAL FORMlSOLATED FORMnMED",
  "IAL FORMlWITH ALEF MAKSURA FINAL FORMxHAH INITIAL FORMzbKHAH INITIAL FORMlSOLATED FORMnMEDIAL FORMlWITH ALEF MAKSU",
  "RA FINAL FORMxYEH FINAL FORMyMEEM INITIAL FORMlSOLATED FORMnMEDIAL FORMlWITH HAH FINAL FORMkINITIAL FORMqJEEM INIT",
  "IAL FORMrMEEM FINAL FORMkINITIAL FORMzcREH FINAL FORMkISOLATED FORMrYEH FINAL FORMkISOLATED FORMzbHADDA WITH DAMMA",
  " ISOLATED FORMnMEDIAL FORMmTAN ISOLATED FORMwFATHA ISOLATED FORMnMEDIAL FORMrKASRA ISOLATED FORMnMEDIAL FORMmTAN I",
  "SOLATED FORMwSUPERSCRIPT ALEF ISOLATED FORMzpEEN WITH ALEF MAKSURA FINAL FORMkISOLATED FORMzbHAH FINAL FORMkINITIA",
  "L FORMlSOLATED FORMnMEDIAL FORMlWITH MEEM FINAL FORMkINITIAL FORMrYEH FINAL FORMwEH INITIAL FORMmMEDIAL FORMpJEEM ",
  "FINAL FORMkINITIAL FORMlSOLATED FORMnMEDIAL FORMlWITH YEH FINAL FORMyKHAH FINAL FORMkINITIAL FORMlSOLATED FORMnMED",
  "IAL FORMqMEEM FINAL FORMkINITIAL FORMlSOLATED FORMnMEDIAL FORMlWITH KHAH FINAL FORMkINITIAL FORMrMEEM FINAL FORMkI",
  "NITIAL FORMzcREH FINAL FORMkISOLATED FORMrYEH FINAL FORMkISOLATED FORMzcUBHAANAHU WA TAAALAAvTABAARAKA WA-TAAALAAs",
  "H WITH ALEF MAKSURA FINAL FORMkISOLATED FORMzbHAH INITIAL FORMlSOLATED FORMrMEEM INITIAL FORMlSOLATED FORMnMEDIAL ",
  "FORMlWITH HAH FINAL FORMkINITIAL FORMqMEEM INITIAL FORMrYEH FINAL FORMyYEH FINAL FORMkISOLATED FORMzEH WITH ALEF M",
  "AKSURA FINAL FORMkISOLATED FORMzbHAH INITIAL FORMlSOLATED FORMnWITH JEEM FINAL FORMkINITIAL FORMrMEEM INITIAL FORM",
  "zEH INITIAL FORMmMEDIAL FORMpJEEM INITIAL FORMlSOLATED FORMnWITH ALEF MAKSURA FINAL FORMxMEEM INITIAL FORMrYEH FIN",
  "AL FORMyKHAH INITIAL FORMlSOLATED FORMnWITH ALEF MAKSURA FINAL FORMxMEEM INITIAL FORMrYEH FINAL FORMyMEEM FINAL FO",
  "RMkINITIAL FORMlSOLATED FORMnMEDIAL FORMlWITH ALEF MAKSURA FINAL FORMxHAH INITIAL FORMqJEEM INITIAL FORMrKHAH INIT",
  "IAL FORMrYEH FINAL FORMyNOON FINAL FORMpREH FINAL FORMoYEH FINAL FORMkISOLATED FORMrZAIN FINAL FORMxHAL WITH SUPER",
  "SCRIPT ALEF ISOLATED FORMznEH WITH ALEF MAKSURA FINAL FORMkISOLATED FORMzbHEH MEDIAL FORMpJEEM ISOLATED FORMsMEEM ",
  "FINAL FORMkINITIAL FORMlSOLATED FORMnMEDIAL FORMqNOON FINAL FORMpREH FINAL FORMoYEH FINAL FORMkISOLATED FORMrZAIN ",
  "FINAL FORMzUIGHUR KIRGHIZ YEH WITH HAMZA ABOVE WITH ALEF MAKSURA FINAL FORMkINITIAL FORMlSOLATED FORMzzrWASALLAM I",
  "SOLATED FORMwYEH WITH ALEF MAKSURA FINAL FORMkISOLATED FORMzbHAH INITIAL FORMlSOLATED FORMnWITH YEH FINAL FORMvMZA",
  " ABOVE WITH AE FINAL FORMkISOLATED FORMpLEF FINAL FORMkISOLATED FORMnMAKSURA FINAL FORMkISOLATED FORMzbE FINAL FOR",
  "MkINITIAL FORMlSOLATED FORMpHAH INITIAL FORMlSOLATED FORMqEH INITIAL FORMmMEDIAL FORMpJEEM INITIAL FORMlSOLATED FO",
  "RMsKHAH INITIAL FORMrMEEM FINAL FORMkINITIAL FORMlSOLATED FORMnMEDIAL FORMqNOON FINAL FORMpOE FINAL FORMkISOLATED ",
  "FORMqREH FINAL FORMoU FINAL FORMkISOLATED FORMpWAW FINAL FORMkISOLATED FORMrYEH FINAL FORMkISOLATED FORMqU FINAL F",
  "ORMkISOLATED FORMqZAIN FINAL FORMzgEH INITIAL FORMmMEDIAL FORMpJEEM INITIAL FORMlSOLATED FORMnWITH YEH FINAL FORMy",
  "KHAH INITIAL FORMlSOLATED FORMsMEEM FINAL FORMkINITIAL FORMlSOLATED FORMnMEDIAL FORMlWITH MEEM FINAL FORMkINITIAL ",
  "FORMrYEH FINAL FORMyNOON FINAL FORMpREH FINAL FORMoYEH FINAL FORMkISOLATED FORMrZAIN FINAL FORMyZAH WITH MEEM INIT",
  "IAL FORMlSOLATED FORMnMEDIAL FORMzjMADDA WAAJIBhH ABOVEkRK NOON GHUNNAlSIDEWAYS NOON GHUNNAxTHEMATICAL AINcLEFeBEH",
  "dDADbLcOTLESS BEHdFEHdNOONeQAFjUBLE-STRUCK AINdBEHdDADbLdFEHdGHAINfHAHdJEEMeKHAHeLAMdMEEMeNOONeQAFdREHdSADcEENdHEE",
  "NfTAHcEHcHALcEHeWAWdYEHdZAHbINsFEHdGHAINfHAHdINITIAL AINdBEHdDADdFEHdGHAINfHAHcEHdJEEMeKAFcHAHeLAMdMEEMeNOONeQAFdS",
  "ADcEENdHEENfTEHcHEHeYEHlJEEMeKAFcHAHeLAMcOOPED AINcLEFeBEHdDADbLdFEHdGHAINfHAHcEHdJEEMeKHAHeLAMdMEEMeNOONeQAFdREHd",
  "SADcEENdHEENfTAHcEHcHALcEHeWAWdYEHdZAHbINlMEEMeNOONeOPERATOR HAH WITH DALmMEEM WITH HAH WITH TATWEELzkQAFdREHdSADc",
  "EENdHEENeTRETCHED AINdBEHdDADcOTLESS BEHdFEHlFEHdGHAINfHAHcEHdJEEMeKAFcHAHeMEEMeNOONeQAFdSADcEENdHEENfTAHcEHcHEHeY",
  "EHdZAHnTAHbILED AINdDADcOTLESS NOONeQAFlGHAINfHAHdJEEMeKHAHeLAMdNOONeQAFdSADcEENdHEENfYEHjEHcHALcEHeWAWdYEHdZAHbIN",
  "rNUMBER MARK ABOVEkSIGNlOPEN DAMMATANiFATHATANiKASRATANnPERCENT SIGNlIASTRE MARK ABOVErLACE OF SAJDAHoOETIC VERSE ",
  "SIGNpUND MARK ABOVEqQUESTION MARKnRAISED ROUND DOToYcEVERSED DAMMAnIGHT ARROWHEAD ABOVEa WITH DOToBELOWuOUNDED HIG",
  "H STOP WITH FILLED CENTREzlSEMICOLONiHADDAa ISOLATED FORMnMEDIAL FORMrIGN ALAYHE ASSALLAMpMISRAfRADI ALLAHOU ANHUp",
  "HMATULLAH ALAYHEsSAFHAdLLALLAHOU ALAYHE WASSALLAMzbMVATeNAHeINDHI AMPERSANDjPOSTPOSITION MENxTAKHALLUSnMALL DAMMAf",
  "FARSI YEHhTHAfHIGH AINdDOTLESS HEAD OF KHAHuFARSI YEHiOOTNOTE MARKERpJEEMeLAM ALEFhIGATURE ALEF WITH LAM WITH YEHw",
  "QAF WITH LAM WITH ALEF MAKSURAzfSAD WITH LAM WITH ALEF MAKSURAzoMADDAeEEM INITIAL FORMlSOLATED FORMsNOONa WITH KAS",
  "RApQAFdROUNDED ZEROmSADcEENdIGN SAFHAkTAHcHREE DOTSkUPRIGHT RECTANGULAR ZEROyWAWcORD AL-JUZfN-NISFgR-RUBfS-SAJDAhT",
  "H-THALATHAmQIFdSAHbKTAfWAQFAkYEHa BARREE WITH TWO DOTS BELOWzfZAHbINjKASRAfLOW MEEMeNOON WITH KASRApSEENeWAWcORD I",
  "MAALAfSHMAAMhTASHEELqWAWdYEHiTART OF RUB EL HIZBtUBSCRIPT ALEFmKUNa BELOWfISOLATED FORMnMEDIAL FORMpPERSCRIPT ALEF",
  " MOKHASSASzYMBOL DOT ABOVEfBELOWhUBLE VERTICAL BAR BELOWzFOUR DOTS ABOVEfBELOWpRINGeSMALL TAH ABOVEfBELOWpTHREE DO",
  "TS ABOVEfBELOWfPOINTING DOWNWARDS ABOVEfBELOWzjWO DOTS ABOVEfBELOWfVERTICALLY ABOVEfBELOWzWASLA ABOVEsTAIL FRAGMEN",
  "TlTWEELa WITH FATHATAN ABOVEoOVERSTRUCK HAMZAfWAWoTWO DOTS BELOWzbHOUSANDS SEPARATORsONE LOOP ABOVEfBELOWkONE DOT ",
  "ABOVEfBELOWnTWO DOTS ABOVEfBELOWsRIPLE DOT PUNCTUATION MARKzbURNED DAMMA BELOWsVERTICAL TAILmOWEL SIGN DOT BELOWjI",
  "NVERTED SMALL V ABOVEwSMALL V ABOVEyWAVY HAMZA BELOWqZWARAKAYj-INDIC CUBE ROOTjDIGIT EIGHTfFIVEdOUReNINEeONEdSEVEN",
  "eIXdTHREEeWOdZEROkFOURTH ROOTlPER MILLE SIGNkTEN THOUSAND SIGNzhCbIESdMENIAN ABBREVIATION MARKqPOSTROPHEkCAPITAL L",
  "ETTER AYBdBENdCAbHAbEHdOcDAcECHcHbTcFEHdGHADdIMdHOcINIdJAbHEHeKEHbNdLIWNeMENdNOWdOHcPEHcIWReRAbEHdSEHcHAdTIWNdOcVE",
  "WcOcXEHdYIaWNeZAbHErOMMAfDRAM SIGNjEMPHASIS MARKmXCLAMATION MARKqFULL STOPjHYPHENgMODIFIER LETTER LEFT HALF RINGzf",
  "QUESTION MARKnSMALL LETTER AYBdBENdCAbHAbEHdOcDAcECHcHbTcFEHdGHADdIMdHOcINIdJAbHEHeKEHbNdLIWNeMENdNOWdOHcPEHcIWReR",
  "AbEHdSEHcHAdTIWNdObURNED AYBkVEWcOcXEHdYIa WITH STROKEmWNeZAbHEjIGATURE ECH YIWNiMEN ECHdINIdNOWdXEHhVEW NOWzeROW ",
  "POINTING DOWNWARDS THEN CURVING LEFTWARDSjRIGHTWARDSziRIGHTWARDS THEN CURVING DOWNWARDSjSOUTH WESTkUPWARDSzgUPWARD",
  "S THEN NORTH WESTziHEAD-SHAPED POINTERwTICULATED LORRYnST PALETTEnSCENDING NODElIA SYMBOLkSERTIONhTERISKa OPERATOR",
  "kMfONISHED FACEmRAEAdONOMICAL SYMBOL FOR URANUSzdYMPTOTICALLY EQUAL TOwTHLETIC SHOElOM SYMBOLkUBERGINEhSTRAL SIGNk",
  "TO RICKSHAWjMATED TELLER MACHINEtOBILEjVESTAN ABBREVIATION MARKrLETTER AaAaNbOcEaEcNbOcBEbHEdCEcDEbHEdEaEcFEcGEbGE",
  "cHEdHEbMEdIaIcJEcKEcLEcMEcNEbGEbVEcYEdNEcYEdOaOcPEcREcSEbHEbYEdSHEeTEbHEcTEdUaUcVEcXEbVEcYEdYEbYEdZEbHEqOCADOgXEdB",
  "ABYa ANGELfBOTTLEgCHICKfSYMBOLjCK OF ENVELOPElWITH LEFTWARDS ARROW ABOVEzc-TILTED SHADOWED WHITE RIGHTWARDS ARROWz",
  "oSLANTED SOUTH ARROW WITH HOOKED TAILjRIZONTAL TAILzoPACEgONcTRIAN CAMELmDGERdMINTON RACQUET AND SHUTTLECOCKzgGELc",
  "GAGE CLAIMkUETTE BREADmLINESE ADEG ADEGjCARIK PAMUNGKAHhRERENhSIKIkDIGIT EIGHTfFIVEdOUReNINEeONEdSEVENeIXdTHREEeWO",
  "dZEROkLETTER AIKARAfKARAa TEDUNGlRCHAIC JNYAlSYURA SASAKmBAa KEMBANGkCAa LACAhDAa MADUdURDA ALPAPRANAjMAHAPRANAsEF",
  " SASAKhKARAfGAa GORAhHAcIKARAa TEDUNGmJAa JERAhKAa MAHAPRANAkF SASAKiHOT SASAKkLAa LENGAa TEDUNGpMAcNAa RAMBATiGAc",
  "YAdOKARAa TEDUNGmPAa KAPALiRAa REPAa TEDUNGoSAa SAGAcPAhTAa LATIKfMURDA MAHAPRANApTAWAgZIR SASAKkUKARAa TEDUNGmVE ",
  "SASAKiWAcYAcZAL SASAKqMUSICAL SYMBOL COMBINING BENDEfENDEPfGONGeJEGOGANhKEMPLIa WITH JEGOGANpULa WITH JEGOGANtTEGE",
  "HpDAENGdINGdNGa GEDEeSURANGkENGcUNGeINGdONGdUNGeLEFT-HAND CLOSED PLAKcUKlOPEN PANGdINGdUNGtRIGHT-HAND CLOSED TAKcU",
  "KkOPEN DAGcUGzjPAMADAa LANTANGlENENGgNTIa LANTANGnSIGN BISAHfCECEKfREREKANhSURANGgULU CANDRAgRICEMoVOWEL SIGN LA L",
  "ENGAa TEDUNGpPEPETa TEDUNGmRA REPAa TEDUNGoSUKUa ILUTjTALINGa REPAa TEDUNGlTEDUNGmEDUNGgULUa SARItWINDUlL OF YARNi",
  "ET SHOESiOONa-SPOKED ASTERISKsT BOLD SCRIPT XlXa WITH BALLOTfOLD CHECKfSCRIPT XnCHECKfLIGHT XhSCRIPT XiXkSCRIPT Xi",
  "XgMUM COLONdMBINING MARK KOQNDONhTUKWENTISvMAfFULL STOPjLETTER AbEEcFAAMAEfEEcOMcUcIbKAbENbTbUXdIbOaGHOMeVUUePAcUb",
  "YEEeLAbEEEEeIbOQcUcMaAbBAAcENdEEEEdNcIbObUcNAbDAAdGAbGAcKWAENgIbJAEMdEEcUAEeSHAdTEEcUUdUaAEdYIdObPAbEEbUXdHASE-A F",
  "IRIeGBIEE FONiHEUAEGHEUAEgRAEjKAFAcQcETbUKEUTNDAjPOQdUOQeLAPAQeET KUTgOMMAEfUaAEPfMAEKEUPeMaBGBIEEgKPENeVEUXfNYIdS",
  "IdNSUAEfP PIEETiBANYIdQdEUNJOMNDEUQlGBASAfON NGGEUAETkOMEUTdPUQgVEUAENGAMkNAA MFONgQcDA LEERAEWAjANGGEUAETlENcGANG",
  "UeGENdKUE MFONfNZEUMjIKAdJAMdKAARAEfINDIfSHAbIEEfTAPa MFAAeNTAAhOQPENgYETcIaT MONGKEUAEQoZA MFONgUN MEUTjPA LEERAE",
  "WAjAMbRAEeMSHAEfSHAEfETcON MFON PIPAEMBAcGBIEEqPA NJI PIPAEMBAcGBIEEvUPdROMdSEUNYAMgHINDA PA NJIkRAEeOQ NSHUT YUMm",
  "UENSHUEThMdISAdONJAMeQbTcUUdTEUAENdTEUWENiITA MFONiU MAEMBAhAEPfU YUQ NAEiNKNOWNhVEEfB FEEbUXeGHEUGHENbUAEMlKAMcEU",
  "AEMdPUQdYEUXgIEEMdQdLAANAEeM NSHUT NYAMnETcOM NTEUMjMAa NJEUAENAgUQAhBA MAELEEhARAEfEURIeIT MBAAKETkUOQeEUQbT NGGE",
  "ETkFIYAQeON TEUAEQkONTIEENiNDU NJAAhGGAAMdEU MBUgUOQa LARGEkKINDI MVOPkOMdSENcHUETfTIEE SHEUOQlYAEMAEfI NTEUMjPARU",
  "MeEESHIfITcUNGAAMhSAKEUAEgET TUfHET NJAQgUAEQTUiIEEdUEdTAAMdU MAEMGBIEEjNSIEEiVEUMeWUAETfYAFU LEERAEWAmEURAEiC BUN",
  "GeFUEdGBAYIeHAPbRAEgKAAcEN FATIGUEhLAWfTbUKAQdMbSEUXdHEUAEPjPARAQfUOP NKAARAEkTdLAMbPcIQcUcMA KEUAERIhNSIEEgEMBAdS",
  "IeBAA CABBAGE-TREEmPICKETiNYIeEEKEETfRAEdUMbXdIaRIEENfTcUAEMdEdGBASAQgIEEdUAEeNANSANAQgQcDAMbPcEUAEREEfTdIDAdOMBUf",
  "GAQcGENcUaAEN NYAMiEETdMbONeKAQcUE MAEMBAkOMdJAEMcMcEEEEdUXdUEQeSAbEUAENfHAQdOMcUNbOT NGOMjTAAcENbUNGBAgU MBIThYIR",
  " MKPARAQ MEUNqZAbEUMfPENcINbRIEENhRUcSETFONeUXdHIQcUEQeUAETfTAASHAEgETbUTEUXgITA YUEfUAEPhVEUAEPENfXeWANGKUOQhUPdY",
  "AAcEUQdU MUOMAEhMbWOQhD FAAcEUFEUAETjGHAAcEUAEgKETbUAETMEUNhMbOT MBUAEiPdUaNbOMcQcWAETeYEEeLEEEEdTbUAEPdMdIEEdOQcU",
  "MdMaAENJETfLEERIgBAAa SEVENiUOdEEEEdUNbTdFEUAEcTdIEEdOaNdGBEUNdIEEdOFUMgONIdUbVOPeNDAMcEEbUXdONdGGAAMaAEePcEUXdUOM",
  "dWAENfKAPcEUAEQdRIeIEEdUNcYEEfIbJAPcEUAEMdTdIaEEdUEQeSHEEcUTdIEEPbTeUMdTEEbUMdUUdUbYAMcETcIbUEePAPcEEbUTAEfIPcUQbU",
  "TeRAEMdEN MUCHeOLDgIIdSAPbQcEUAEQfHEEbUAEcXdIIcOQcUcOTcUAEcEbUdTAEcEEEEdUAENdNbTdIbOQcUaOTeWAPcUAENfYAEMMAEgENcUOM",
  "bPcWOQhE AbFAaQcEEcOMcU CALLeIbREMEDYhEaTeGBETbUXeHAAMAEfETbUAEcNbXdOMeIbKETbUAEcXdIbObPEUXeUETcOPcTdLAAMcPbQcEUAE",
  "MfOMbONbTcQcUcMAaEaMcPbQcBEEbUMeENcFEUQeGBAbENeIaEEdONcUAEdVIdNAaEcDAA MY HOUSEiSOFTNESSkPcIAQcQcUNdGAbEUREUTgGEEE",
  "EdUAEaTfUAESHAE NYAMlPbRAEfKAaAMIeEUAEMdXdUMbPdOPbQcUAEaTfJAEMLIfEEa EPOCHhUXeKOMdSHIEEdUEbOPfTAPcUMdYI BETWEENhCL",
  "EAVERkZAQcUQeObPA PEOPLEfLURALhAaMdEEMcUTbXdIaEEQcTdOaONdUaAEbQcEbMdRAEbQcEUXdIMGBAgSAAcEEbTcHEUAEQfIQcOaQdOMcUAEN",
  "fTAAaQcEN NTEUMiMbQcENbUaAEQfOOaNcQcUAEcMaAEfVEEbUAEeOMdWEUXdUEbOdYAPcEUAEaTdMbXdIEEcTcOQ COVERfSWIMMINGlUAENdEQcN",
  "bQfF EEcFOMdKAbENbTcObPAcUbYEEeLAbIbOQdMaAbBAAcENdEEEEeOcNDAAdGGAcKWAENgIbJAEMdUAEeSHAdTEEdUaAEdYIdPEEbUXdUAEeREEb",
  "NbUXdIEEcIcUcSAMBAeEUXdHIIcObUcIbUUdTAAbEcETdUbVUEQeWAbUEdYAbOQkIbUAEcEdRAEcEEbNbUXdIEEcIcUcSAMBAeEUXdHEUXdIIcObUc",
  "IbUUdTAAbEcENbTcIcUbWAbUEdYAbOQcUQkNJAEMLIhQUESTION MARKnSEMICOLONnNANAdJOcKaNOTE WITH DOLLAR SIGNlEURO SIGNjPOUND",
  " SIGNkYEN SIGNuR CHARTfOF SOAPiBER POLEjSEBALLfKETaBALL AND HOOPqSA VAH COMBINING HIGH TONEf-LOW TONEnLOW TONEf-MI",
  "D TONEmMID TONEsFULL STOPjLETTER AbBAcCEcDHIIdOcEaEbNNIeFAcGAHcBUdHWAHeIbJOcKAbPAHeMBEdOaOcPAcSEcTOcUaWUdVUcWAaDDA",
  "fYEINdIEdZOrTaAK CONSONANT SIGN HbNGrLETTER AbBAcCAcDAcGAcHAcIbJAcKARO BAhLAcMAaNDAILING HAcNAcSAmBAdNAbDAcGAcORTH",
  "ERN TAkYAdPAaKPAK WAjRAcSAbIMALUNGUN AbGAcHAcLAcMAcPAcRAcSAcWAcYAmOUTHERN TAlUbWAcYAjPANGOLATfONGONANkSIGN TOMPIjY",
  "MBOL BINDU JUDULfNA METEKiPANGOLAThINARBORASxVOWEL SIGN EaEcIbKARO IbOgObPAKPAK EiUa FOR SIMALUNGUN SAziHaTUBeTERY",
  "gEACH WITH UMBRELLAqMED ASCENDING MUSICAL NOTESxDESCENDING MUSICAL NOTESyEIGHTH NOTESmSIXTEENTH NOTEStNScR FACEfDE",
  "D PERSONlTING HEARTkVEReCAUSEfDbER MUGfTLEeLaLa PEPPERgSYMBOLgWITH CANCELLATION STROKEzHOP BELLkNGALI ABBREVIATION",
  " SIGNqNJIdU LENGTH MARKoCURRENCY DENOMINATOR SIXTEENtNUMERATOR FOUReONEa LESS THAN THE DENOMINATORzeTHREEeWOwDIGIT",
  " EIGHTfFIVEdOUReNINEeONEdSEVENeIXdTHREEeWOdZEROkGANDA MARKkISSHARgLETTER AaAbIbUcBAbHAdCAbHAdDAbDAbHAdHAdEbGAbHAdH",
  "AcIaIcJAbHAdKAbHAaNDA TAjLAcMAcNAbGAcNAcYAdObPAbHAdRAa WITH LOWER DIAGONALoMIDDLE DIAGONALwHAcRAdSAbHAcSAdTAbHAcTA",
  "bHAeUaUcVEDIC ANUSVARAnOCALIC LaLcRaRkYAbYAkRUPEE MARKeSIGNkSANDHI MARKkIGN ANUSVARAhVAGRAHAiCANDRABINDUlNUKTAfVIR",
  "AMAeSARGAmVOWEL SIGN AAbIbUcEbIaIcObUaUcVOCALIC LaLcRaRzbT ARROW POINTING DOWNWARDS THEN NORTH EASTzqO BOXgZENE RI",
  "NGa WITH CIRCLEwT SYMBOLhWEENfVERAGE BOXlHAIKSUKI DANDAeIGIT EIGHTfFIVEdOUReNINEeONEdSEVENeIXdTHREEeWOdZEROjOUBLE ",
  "DANDAmGAP FILLER-1b2mHUNDREDS UNIT MARKsLETTER AaAbIbUcBAbHAdCAbHAdDAbDAbHAdHAdEbGAbHAdHAcIaIcJAbHAdKAbHAdLAcMAcNA",
  "bGAcNAcYAdObPAbHAdRAcSAbHAcSAdTAbHAcTAbHAeUaUcVAbOCALIC LbRaRkYAjNUMBER EIGHTaYgFIFTYdVEdORTYdUReNINEaTYgONEdSEVEN",
  "aTYgIXaTYfTENcHIRTYeREEeWENTYeOkSIGN ANUSVARAhVAGRAHAiCANDRABINDUlVIRAMAeSARGAmVOWEL SIGN AAbIbUcEbIaIcObUaUcVOCAL",
  "IC LbRaRvWORD SEPARATORxICYCLEbISThG REVERSE SOLIDUSpSOLIDUSjKINIeLLED CAPgIARDShOHAZARD SIGNmRDbTHDAY CAKElSONdTC",
  "OIN SIGNjING LIPjLACK BOWTIEgCENTRE WHITE STARqHESS BISHOPa ROTATED NINETY DEGREESoTWO HUNDRED SEVENTY DEGREESzrEQ",
  "UIHOPPERa ROTATED NINETY DEGREESziKINGa ROTATED NINETY DEGREESoTWO HUNDRED SEVENTY DEGREESzoNIGHTa ROTATED FORTY-F",
  "IVE DEGREESsNINETY DEGREESoONE HUNDRED THIRTY-FIVE DEGREESzgTHREE HUNDRED FIFTEEN DEGREESzdWO HUNDRED SEVENTY DEGR",
  "EESpTWENTY-FIVE DEGREESzp-BISHOPgQUEENfROOKlPAWNa ROTATED NINETY DEGREESoTWO HUNDRED SEVENTY DEGREESzpQUEENa ROTAT",
  "ED NINETY DEGREESoTWO HUNDRED SEVENTY DEGREESzqROOKa ROTATED NINETY DEGREESoTWO HUNDRED SEVENTY DEGREESzpTURNED BI",
  "SHOPgKINGdNIGHTgPAWNeQUEENfROOKqIRCLEa FOR RECORDkWITH DOWN ARROWkTWO WHITE DOTSoWHITE DOT RIGHTzbLUB SUITiROSS ON",
  " SHIELDoURVED DOWNWARDS AND LEFTWARDS ARROWpRIGHTWARDS ARROWzfLEFTWARDS AND DOWNWARDS ARROWpUPWARDS ARROWzcRIGHTWA",
  "RDS AND DOWNWARDS ARROWpUPWARDS ARROWzdUPWARDS AND LEFTWARDS ARROWpRIGHTWARDS ARROWzkDIAMONDa CENTREDhMINUS WHITE ",
  "XnON CROSSiSUITeWITH DOWN ARROWwOWN POINTING BACKHAND INDEXy-POINTING DOUBLE TRIANGLEpISOSCELES RIGHT TRIANGLEySMA",
  "LL TRIANGLEoTRIANGLEsWARDS EQUILATERAL ARROWHEADzfRAUGHTS KINGeMANkOPLEThFLAGcORETTEhOLDEReUR POINTED STARrHARD SH",
  "ELL FLOPPY DISKvEARTa SUITiXAGONgORIZONTAL ELLIPSEqURGLASSjLARGE CIRCLEgSQUARElEFT LANE MERGEkPOINTING BACKHAND IN",
  "DEXoINDEXp-POINTING DOUBLE TRIANGLEa WITH VERTICAL BARziISOSCELES RIGHT TRIANGLEyPOINTERhSMALL TRIANGLEoTRIANGLEsW",
  "ARDS BULLETgEQUILATERAL ARROWHEADzfOWER LEFT TRIANGLEnRIGHT TRIANGLEsZENGEhMEDIUM DIAMONDgOWN-POINTING TRIANGLEa C",
  "ENTREDzfLEFT-POINTING TRIANGLEa CENTREDzeOZENGEhRIGHT-POINTING TRIANGLEa CENTREDzgSMALL DIAMONDhLOZENGEhSQUARElQUA",
  "REgUP-POINTING TRIANGLEa CENTREDzjOON LILITHlNIBdOCTAGONhPARALLELOGRAMmENNANTeTAGONhUSHPINhQUESTION MARK ORNAMENTw",
  "RECTANGLEiIGHT POINTING BACKHAND INDEXoINDEXp-POINTING DOUBLE TRIANGLEa WITH VERTICAL BARziISOSCELES RIGHT TRIANGL",
  "EyPENTAGONhOINTERhSMALL TRIANGLEoTRIANGLEa WITH DOUBLE VERTICAL BARzsWARDS ARROWaHEADjBULLETgEQUILATERAL ARROWHEAD",
  "zgOSETTEhSAFETY SCISSORSoCISSORShHOGI PIECEkKULL AND CROSSBONEStLIGHTLY SMALL CIRCLEgSQUAREuMALL DIAMONDhLOZENGEhS",
  "QUAREfTARiILING FACElNOWMANgPADE SUITjQUAREa BUTTONgCENTREDhFOR STOPoTARdUN WITH RAYSnTELEPHONEiINY DIAMONDhLOZENG",
  "EhSQUAREkOUCHTONE TELEPHONEsRUCKeWO-WAY LEFT WAY TRAFFICyUNIVERSAL RECYCLING SYMBOLzP POINTING BACKHAND INDEXy-POI",
  "NTING DOUBLE TRIANGLEpISOSCELES RIGHT TRIANGLEySMALL TRIANGLEoTRIANGLEsPER LEFT TRIANGLEnRIGHT TRIANGLEsWARDS EQUI",
  "LATERAL ARROWHEADzeVERTICAL ELLIPSEhRECTANGLEpY SMALL DIAMONDhLOZENGEhSQUAREs-FEATHERED NORTH EAST ARROWqRIGHTWARD",
  "S ARROWqSOUTH EAST ARROWzbLETTER CAPITAL CbHbIbRbZtNK SYMBOLkOCK SEXTANT-1a2a3a4a5b6c5a6c6c4a5a6c6c5a6c6c3a4a5a6c6",
  "c56c6c4a5a6c6c5a6c6c2a3a4a5a6c6c5a6c6c4a5a6d5a6c6c3a4a5a6c6c5a6c6c4a5a6c6c5a6c6mSSOMeWFISHgUE BOOKeHEARTgBERRIESkO",
  "ARcLD EIGHT SPOKED ASTERISKvFIVE SPOKED ASTERISKuGREEK CROSSlSALTIREgIX SPOKED ASTERISKtWHITE CIRCLEgSQUAREpMaBcNE",
  "cOKaMARKa TABSjScMERANGhPOMOFO FINAL LETTER GbHbKbPbToLETTER AaHbIaNNdMbNaGbNcUaNNeBaUcCaHcDbEaEbHbIbNaGbNcRcFbGaH",
  "bNbUbWcHbIaHbMbNNaNdRbUcJaIcKaWcLaHcMbNaGaGcNcOa WITH DOT ABOVEpEbMbNGbNcObUcPbQbRbSaHcTbUaNNdVbXbZaHbIbYqTTLE WIT",
  "H POPPING CORKuOM ARC ANTICLOCKWISE ARROWxCURLY BRACKETnHALF BLACK CIRCLEmINTEGRALiLEFT PARENTHESISqRIGHT PARENTHE",
  "SISwLEFT CORNERfROPeHALF BRACKETrPARENTHESISlRIGHT CORNERfROPeHALF BRACKETsSQUARE BRACKETa OVER TOP SQUARE BRACKET",
  "znTORTOISE SHELL BRACKETzcUQUETa OF FLOWERSqW AND ARROWkL OF HYGIEIAkWITH SPOONlINGeTIEa WITH LEFT HALF BLACKpRIGH",
  "T HALF BLACKzbX DRAWINGS DOUBLE DOWN AND HORIZONTALkLEFTeRIGHToHORIZONTALkUP AND HORIZONTALkLEFTeRIGHTmVERTICALa A",
  "ND HORIZONTALkLEFTeRIGHTxWN DOUBLE AND HORIZONTAL SINGLErLEFT SINGLElRIGHT SINGLExHEAVY AND HORIZONTAL LIGHTqLEFT ",
  "LIGHTfUP LIGHTnRIGHT LIGHTfUP LIGHToUP HORIZONTAL LIGHTzeLIGHT AND HORIZONTAL HEAVYqLEFT HEAVYfUP HEAVYnRIGHT HEAV",
  "YfUP HEAVYoUP HORIZONTAL HEAVYzeSINGLE AND HORIZONTAL DOUBLErLEFT DOUBLElRIGHT DOUBLEzdHEAVY DOUBLE DASH HORIZONTA",
  "LkVERTICALsWNa AND HORIZONTALkLEFTeRIGHToHORIZONTALkLEFTa AND LIGHT RIGHTuQUADRUPLE DASH HORIZONTALkVERTICALxRIGHT",
  "fTRIPLE DASH HORIZONTALkVERTICALuUPa AND HORIZONTALkLEFTdIGHT DOWNkRIGHTmVERTICALa AND HORIZONTALkLEFTeRIGHTyLEFT ",
  "DOWN HEAVY AND RIGHT UP LIGHTzeHEAVY AND RIGHT DOWN LIGHTkUP LIGHTiVERTICAL LIGHTzfLIGHT AND RIGHT DOWN HEAVYkUP H",
  "EAVYiVERTICAL HEAVYzfUP HEAVY AND RIGHT DOWN LIGHTziIGHT ARC DOWN AND LEFTeRIGHToUP AND LEFTeRIGHTqDIAGONAL CROSSf",
  "DIAMONDhMIDDLE LEFT TO LOWER CENTREa TO MIDDLE RIGHTzdUPPER CENTRE TO MIDDLE RIGHTa TO LOWER CENTREzzcRIGHT TO LOW",
  "ER CENTREmUPPER CENTRE TO MIDDLE LEFT TO LOWER CENTREzzjUPPER CENTRE TO MIDDLE LEFTa AND MIDDLE RIGHT TO LOWER CEN",
  "TREzhTO LOWER CENTREa TO MIDDLE RIGHTzlRIGHTa AND MIDDLE LEFT TO LOWER CENTREzgTO LOWER CENTREa TO MIDDLE LEFTzzdL",
  "EFT TO LOWER RIGHTtRIGHT TO LOWER LEFTziOUBLE DASH HORIZONTALkVERTICALsWNa AND HORIZONTALkLEFTeRIGHToHORIZONTALa W",
  "ITH VERTICAL STROKEzgLEFTa AND HEAVY RIGHTuQUADRUPLE DASH HORIZONTALkVERTICALxRIGHTfTRIPLE DASH HORIZONTALkVERTICA",
  "LuUPa AND HEAVY DOWNjORIZONTALkLEFTeRIGHTmVERTICALa AND HORIZONTALkLEFTeRIGHTyRIGHT DOWN HEAVY AND LEFT UP LIGHTzd",
  "HEAVY AND LEFT DOWN LIGHTkUP LIGHTiVERTICAL LIGHTzeLIGHT AND LEFT DOWN HEAVYkUP HEAVYiVERTICAL HEAVYzeUP HEAVY AND",
  " LEFT DOWN LIGHTzjUP DOUBLE AND HORIZONTAL SINGLErLEFT SINGLElRIGHT SINGLExHEAVY AND DOWN HORIZONTAL LIGHTvHORIZON",
  "TAL LIGHTqLEFT DOWN LIGHTkLIGHTkRIGHT DOWN LIGHTkLIGHTvLIGHT AND DOWN HORIZONTAL HEAVYvHORIZONTAL HEAVYqLEFT DOWN ",
  "HEAVYkHEAVYkRIGHT DOWN HEAVYkHEAVYvSINGLE AND HORIZONTAL DOUBLErLEFT DOUBLElRIGHT DOUBLEzbVERTICAL DOUBLE AND HORI",
  "ZONTAL SINGLErLEFT SINGLElRIGHT SINGLExHEAVY AND HORIZONTAL LIGHTqLEFT LIGHTkRIGHT LIGHTvLIGHT AND HORIZONTAL HEAV",
  "YqLEFT HEAVYkRIGHT HEAVYvSINGLE AND HORIZONTAL DOUBLErLEFT DOUBLElRIGHT DOUBLEzrING GLOVEkYaS SYMBOLkPHcRAHMI DAND",
  "AeIGIT EIGHTfFIVEdOUReNINEeONEdSEVENeIXdTHREEeWOdZEROjOUBLE DANDAmLETTER AaAbIbUcBAbHAdCAbHAdDAbDAbHAdHAdEbGAbHAdH",
  "AcIaIcJAbHAdKAbHAdLAbLAdMAcNAbGAcNAcYAdOaLD TAMIL LLAbLAeNNNAeRRAdSHORT EbOrPAbHAdRAcSAbHAcSAdTAbHAcTAbHAeUaUcVAbO",
  "CALIC LaLcRaRkYAjNUMBER EIGHTaYgFIFTYdVEdORTYdUReJOINERgNINEaTYgONEa HUNDREDhTHOUSANDmSEVENaTYgIXaTYfTENcHIRTYeREE",
  "eWENTYeOkPUNCTUATION CRESCENT BARmDOTbUBLE DOTkLINEdOTUSrSIGN ANUSVARAiCANDRABINDUlJIHVAMULIYAlOLD TAMIL VIRAMAqUP",
  "ADHMANIYAlVISARGAmVIRAMAfOWEL SIGN AAbIbUcBHATTIPROLU AAoEbIaIcOaLD TAMIL SHORT EbOrUaUcVOCALIC LaLcRaRzILLE PATTE",
  "RN BLANKfDOTS-1a2a3a4a5a6a7a8c8c7a8c8c6a7a8c8c7a8c8c5a6a7a8c8c7a8c8c6a7a8c8c7a8c8c4a5a6a7a8c8c7a8c8c6a7a8c8c7a8c8c",
  "5a6a7a8c8c7a8c8c6a7a8c8c7a8c8c3a4a5a6a7a8c8c7a8c8c6a7a8c8c7a8c8c5a6a7a8c8c7a8c8c6a7a8c8c7a8c8c4a5a6a7a8c8c7a8c8c6a",
  "7a8c8c7a8c8c5a6a7a8c8c7a8c8c6a7a8c8c7a8c8c2a3a4a5a6a7a8c8c7a8c8c6a7a8c8c7a8c8c5a6a7a8c8c7a8c8c6a7a8c8c7a8c8c4a5a6a",
  "7a8c8c7a8c8c6a7a8c8c7a8c8c5a6a7a8c8c7a8c8c6a7a8c8c7a8c8c3a4a5a6a7a8c8c7a8c8c6a7a8c8c7a8c8c5a6a7a8c8c7a8c8c6a7a8c8c",
  "7a8c8c4a5a6a7a8c8c7a8c8c6a7a8c8c7a8c8c5a6a7a8c8c7a8c8c6a7a8c8c7a8c8sNdEADbK PERMITTED HEREqST-FEEDINGlVEdICKcDE WI",
  "TH VEILlGE AT NIGHTmEFCASEeSeOCCOLIfKEN BARdCIRCLE WITH NORTHWEST ARROWzcHEARTjOMcWN HEARTkSbUBBLE TEAeSfCKETeGaIN",
  "ESE END OF SECTIONoLETTER AbBAcCAcDAcGAcHAcJAcKAcLAcMAbPAdNAbGAbKAdRAcYAbCAePAcRAcSAcTAcVAcYAjPALLAWAhVOWEL SIGN A",
  "EcEbIbObUtHID LETTER AbBAcDAcGAcHAcIbKAcLAcMAcNAbGAdPAcRAcSAcTAcUbWAcYAjVOWEL SIGN IbUqILDING CONSTRUCTIONtLLETa O",
  "PERATORlHORNa WITH SOUND WAVESvSEYEgRRITOfSa STOPfT IN SILHOUETTEoS IN SILHOUETTErTTERaFLYiYTE ORDER MARKnZANTINE ",
  "MUSICAL SYMBOL AGOGI ARGIbOTERIiGORGIbOTERIjMESIcTRIAgPOLI ARGIeGORGIpNATRICHISMAkTIKENOKYLISMAhMAjPESO EKFONITIKO",
  "NkXO NEOlLIcODERMA ARCHAIONiNEOjSTROFOI SYNDESMOS NEOnTELOUS ICHIMATOSsSa DIPLIfNEOlTHEMAhRGONbSYNTHETONlKTIKO DIc",
  "GAcKEcNIcPAcVOUdZOkCHAMILIbONgOREVMA ARCHAIONiNEOkROA KLITONgSPATHIgZYGOSlDASEIAfIARGONeSTOLI APLI MEGALIfIKRIkDIP",
  "LIfTHESEOSoESIS APLI DYO DODEKATArDIGRAMMOS EX DODEKATAvMONOGRAMMOS TESSERA DODEKATAzdTETARTIMORIONmRIGRAMMOS OKTO",
  " DODEKATAvTIMORIONqFTOGGOS OUkGORGONa PARESTIGMENON ARISTERA ANOdKATOnDEXIAzRAMMA GGjPLIa ARCHAIONnYOdEKSTREPTONjL",
  "AFRONgNARXIS KAI FTHORA VOUuDOFONONiPEGERMAhTERON ARGOSYNTHETONnPARAKALESMArXO EKFONITIKONpFANEROSIS DIFONIASiMONO",
  "FONIASkTETRAFONIASuHTORA SKLIRON CHROMA VASISzbTHORA ARCHAIONa DEYTEROU ICHOUxDIATONIKI DIcKEcNANAdI ANOdKATOhPAcZ",
  "OmENARMONIOS ANTIFONIAuI YFESIS TETARTIMORIONwMALAKON CHROMA DIFONIASiMONOFONIASzNAOS ICHOSjENANOgSKLIRON CHROMA S",
  "YNAFIgVASISmDIATONON DIzbGENIKI DIESISgYFESISmORGON ARCHAIONiNEO ANOdKATOiPARESTIGMENON ARISTERAiDEXIAvSYNTHETONlT",
  "HMIKON N APLOUNgDIPLOUNtRONTHISMATAmICHADINgMIDIARGONhFONONeTHORAbONjSAKIA TELOUS ICHIMATOSvON ARCHAIONiNEOiKATAVA",
  " TROMIKONjSMAgHISTIhENTIMA ARCHAIONiNEO ANOdKATOeMESOjTAa ARCHAIONiNEO ANOdKATOeMESOrLASMAa ANOdKATOkONTEVMAa ALLO",
  "lRONISfUFISMAhRATIMA ALLOdRCHAIONiNEOeTAdOKOUFISMAiYPORROONnEMASTIhYLISMAhLEIMMA DYO CHRONONlENOS CHRONOUmIMISEOS ",
  "CHRONOUpTESSARON CHRONONpRION CHRONONsMOIeYGISMAhMARTYRIA ALLI DEYTEROS ICHOSoPROTOS ICHOSrDEYTEROS ICHOSoLEGETOS ",
  "ICHOSnPLAGIOS ICHOSfTETARTOS ICHOSvROTOS ICHOShVARYS ICHOSqTETARTOS ICHOSfLEGETOS ICHOSvRIFONIASgTOS ICHOSmVARYS I",
  "CHOStIKRON ISONlNANAeOLIGON ARCHAIONiNEOjMALONfXEIA DIPLIfEKFONITIKONlNEOeI ARCHAIONoYRANISMA ARCHAIONiNEOnPARAKAL",
  "ESMA ARCHAIONiNEOkLITIKIa ARCHAIONiNEOmICHONhELASTONa NEOkRISPOMENIjTASMAcTIbOKOUFISMAoIASMA ARCHAIONiNEOjSIFISTOL",
  "YGISMAhNa NEOfPARAKALESMAlSYNAGMAmLIbONgRAPISMAgEVMAfSAXIMATAhEISMAa NEOjIMANSIS ARSEOSa DISIMOUhTETRASIMOUjRISIMO",
  "UpTHESEOSa DISIMOUhTETRASIMOUjRISIMOUyTAVROSa APODEXIAoIGMAeRAGGISMATAlYNAGMA ARCHAIONiMETA STAVROUmNEOiEVMAfRMAaT",
  "IKIjTELEIAeSSERAfTRAPLIhHEMAa APLOUNhTISMOS ESOcXOmS KAI APOTHESoITAeINAGMAgRIAbGORGONgPLIeOMIKOLYGISMAhN ALLOdRCH",
  "AIONiNEOfPARAKALESMAkSIFISTONjSYNAGMAoVAREIA DIPLIfEKFONITIKONlNEOeI ARCHAIONoTHYfXIRON KLASMAmYFEN ANOdKATOgSIS A",
  "PLI DYO DODEKATArDIGRAMMOS EX DODEKATAvMONOGRAMMOS TESSERA DODEKATAzdTRIGRAMMOS OKTO DODEKATAvTIMORIONrPOKRISISa D",
  "IPLImRROIfSILIzgCACTUSeDA UNAfUCEUSgLENDARfL ME HANDkMERAa WITH FLASHoPINGfNaADIAN SYLLABICS AaAaIbYcIaVILIK BiNbT",
  "HAPASCAN MbSlYcBEAVER DENE LbRmIBLE-CREE YlLACKFOOT AbEbIbKAbEbIbOcNAbEbIbOcObSbWaAbEbIbOmCaAaAaIcRRIER CHAbEaEcIb",
  "ObUdDEEbNE GEEfTAL ShIbLAbEaEcIbObUcZAbEaEcIbObUdEEcGAaAcEaEcHAbEaEcIbObUcIbObUbWAbUdHaEEcIbWAbEaEcIbObUdIaNITIAL ",
  "ZjJAbEaEcIbJAbEaEcIbObUcObUbWAdKHAbEaEcIbObUcKaAbEaEcIbObUdLAbEaEcHAbEaEcIbObUcIbObUcMAbEaEcIbObUcNAbEaEcGbIbObUcP",
  "aAbEaEcIbObUcRAbEaEcIbObUcSAbEaEcHaAbEaEcIbObUcIbObUcTHAbEaEcIbObUcLAbEaEcHAbEaEcIbObUcIbObUcSAbEaEcIbObUcTAbEaEcI",
  "bObSAbEaEcIbObUcUdWAbEaEcIbObUcYAbEaEcIbObUcZaAbEaEcIbObUjEbHI SIGNhIaIcOaOcWAaAcEbIaIcOaOeEaASTERN WiNcFaAaAaIdEb",
  "IaIbNAL ACUTEfBOTTOM HALF RINGqDOUBLE ACUTEfSHORT VERTICAL STROKESzcWN TACKjGRAVEfMIDDLE DOTkPLUSeRAISED DOTjIGHT ",
  "HALF RINGnNGeSHORT HORIZONTAL STROKEwMALL RINGkTOP HALF RINGsOaOcULL STOPiWAAeGLOTTAL STOPmHKbYPHENgIaIbNcKaAaAaIc",
  "YcEbIaIcOaOcWaAaAbYcEbIaIcOaOeLaAaAaIcYcEbHaAaAcIaIcOaOdIaIcOaOcWAaAcEbIaIcOaOeMaAaAaIcYcEaDIAL LbRhHbIaIcOaOaSE-C",
  "REE SKmWAaAcEbIaIcOaOeNa-CREE THEbIaIkAaAaIcSKAPI CWAAeKWAAeMWAAeNWAAeS-WcCWAdKWaAdPWAdTWAdWAAeTWAAeWAAcOOdYWAAkTT",
  "ILIK HAaAcIaIcOaOdSHRAaAcIaIcOaOmYcEbGaAaAaIcIcIaIcOaOdHbIaIcNGaAaAcIaIcOaOeOaObYcUNAVIK HaAaAcEbIaIcOaOgUT HiWAaA",
  "cEbIaIcOaOeOaJIBWAY CbKbMbNaWIaIcOaOePbSaHcTiNbObYcPaAaAaIcYcEbIaIcOaObYcWAaAcEbIaIcOaObYeQaAaAaIcIcIaIcOaOdRa-CRE",
  "E REbWEjAaAaIcYcEbIaIcOaOcWAaAcEEcIaIcOaOeSaAaAaIcYaISI HAbEbIbOaOdJIbUaUdMbSHAbEbIbOaOcWEeTHcYIiEbHaAaAbYcEbIaIcO",
  "aObYcWAaAcEbIaIcOaObYeIaIcOaObUTH-SLAVEY KAHcEHcIHcOHoYcPAbEbIbOcWaAaAcEbIaIcOaOeTaAaAaIcYcEbHa-CREE THaAaAcEbIaIc",
  "OaOkAaAcEbIaIcOaOcWAaAcEdIaIcLHAbEbIbOaOcWEeOaOcTAbEbHaAaAcEbIbOaOcWEdIbOcWAaAcEbIaIcOaOdYAbEbIbOdWAaAbYcEaST-CREE",
  " CWAaAcEbIaIcOaOeFWAAeKWAaAcEbIaIcOaOeLaAaAcEbOaOcWAaAcEbIaIcOaOeMaWAaAcEbIaIcOaOeNWAaAcEdPaWAaAcEbIaIcOaOeRaAbEbI",
  "bObWAAeSHWAaAcEbIaIcOaOeWAaAcEbIaIcOaOeTHWAAeWAaAcEbIaIcOaOeWAaAcEbIaIcOaOdYaWAaAcEbIaIcOaOkERN WiIaIcOaOaDS-CREE ",
  "FINAL THiTHaAbEbIbObWAaAcEEcIaIcOaOqYa-CREE COOdKOOdLOOdMOOdNOOdOOcPOOcWAAeSOOdTOOdWbYOOjAaAaIcYcEbIaIcOaObYcWAaAc",
  "EbIaIcOaOuCELa CHARACTERjTAGeLATION XjRdDLEcYcNED FOODiOEdPITULUMgRICORNhR SLIDINGiD FILE BOXiINDEXa DIVIDERSqE OF",
  "dTa INSERTION POINTsIAN LETTER Aa2cBbC-18c39eDa2cEa2cGa2cIaIcKa2cLaDa2dMaBa2b3b4dNaDbGbNcObPa2cQbRaRcSaHa2cSbTa2dT",
  "aTa2dUaUaUa2b3bUeXmONbUSEL HORSElP STREAMERjENTRY SAWkRIAGE RETURNlOTeSTLEeTa FACEa WITH TEARS OF JOYmWRY SMILEvUC",
  "ASIAN ALBANIAN CITATION MARKnLETTER ALTcORdBETdCARbYNdHAaTcIbOYdYAWbYeDATcYANdZAYcYAYfEBbYNdFAMdGHEYSeIMdHEYTeINYA",
  "dRBcWNdJAYNdHOXeKARcIWdLANcYITeMAQdNOWCeONcPENcIWReQARbYdRATdSEYKdHAaKcOYeTAScIWRdYAYeVEYZeXEYNeYAYDdOWDeZARLdHAbI",
  "LzcTION SIGNlCHcEDI SIGNfLLAfLTIC CROSSkNT SIGNfRE LINE SYMBOLmLINE LOW LINEiOVERLINErRESeGJcHAINScRcKMA AU MARKhD",
  "ANDAeIGIT EIGHTfFIVEdOUReNINEeONEdSEVENeIXdTHREEeWOdZEROjOUBLE DANDAmLETTER AAcBAAcHAAeCAAcHAAeDAAcDAAcHAAeHAAeEbG",
  "AAcHAAeHAAdIbJAAcHAAeKAAcHAAeLAAcHAAeMAAdNAAcGAAdNAAdYAAePAAcHAAeRAAdSAAdTAAcHAAdTAAcHAAfUbVAAdWAAdYAAcYAAlMAAYYAA",
  "hO MARKgQUESTION MARKnSECTION MARKlIGN ANUSVARAiCANDRABINDUlVISARGAmVIRAMAfOWEL SIGN AaAbIbUcEaIcIaIcOaIcUaUrM CON",
  "SONANT SIGN FINAL HbMbNGiLAcRAcWAcYArDIGIT EIGHTfFIVEdOUReNINEeONEdSEVENeIXdTHREEeWOdZEROkLETTER AaIcBAbBAcHAdCHAb",
  "HAeDAbDAcHAdEbFINAL CHcGbKbLbNaGcPbRbSScTbYhGAbHAdHAcIbJAbHAdKAbHAdLAcMAbUEdNAbGAbUEdHAbJAcUEdUEdObPAbHAcPAdRAcSAb",
  "SAdTAbHAdUbVAcYAjPUNCTUATION DANDAeOUBLE DANDAmSPIRALgTRIPLE DANDAyVOWEL SIGN AAbIbUcEIcIaIcOaEcUaEpRACTER TABULAT",
  "IONa SETdWITH JUSTIFICATIONzdIEjT WITH DOWNWARDS TRENDpUPWARDS TRENDa AND YEN SIGNzkECK MARKfER BOARDa FILLpERING ",
  "MEGAPHONEoSE WEDGEjQUERED FLAGlROKEE LETTER AbDAbEbIbLAcObUbVcEbGAbEbIbObUbVcHAbEbIbNAcObUbVcIbKAcLAbEbIbObUbVcMAb",
  "EbIbObUbVcNAaHcEbIbObUbVcObQUAbEbIbObUbVdSaAbEbIbObUbVcTAbEbIbLAbEbIbObUbVcSAbEbIbObUbVdUbVbWAbEbIbObUbVcYAbEbIbOb",
  "UbVjSMALL LETTER AbDAbEbIbLAcObUbVcEbGAbEbIbObUbVcHAbEbIbNAcObUbVcIbKAcLAbEbIbObUbVcMAbEbIbObUbVcNAaHcEbIbObUbVcOb",
  "QUAbEbIbObUbVdSaAbEbIbObUbVcTAbEbIbLAbEbIbObUbVcSAbEbIbObUbVdUbVbWAbEbIbObUbVcYAbEbIbObUbVuRIESdY BLOSSOMlSTNUTgI ",
  "RHOeCKENeLDaREN CROSSINGoPMUNKfRONeOCOLATE BARkPSTICKShRASMIAN LETTER ALEPHeYINeBETHeCURLED WAWkDALETHgGIMELfHEaTH",
  "eKAPHeLAMEDHgMEMdNUNdPEcRESHeSAMEKHfHINdMALL ALEPHlTAWdWAWdYODHeZAYINmNUMBER FOUReONEa HUNDREDlTENcHREEeWENTYeOtRI",
  "STMAS TREEmURCHfINEMAeRCLE DIVIDED BY HORIZONTAL BAR AND TOP HALF DIVIDED BY VERTICAL BARzzmWITH ALL BUT UPPER LEF",
  "T QUADRANT BLACKziHORIZONTAL BARoLEFT HALF BLACKoOWER HALF BLACKqRIGHT HALF BLACKqSMALL CIRCLE TO THE RIGHTyUPERIM",
  "POSED XoTWO HORIZONTAL STROKES TO THE RIGHTzkUPPER HALF BLACKkRIGHT QUADRANT BLACKzbVERTICAL FILLtD ANTICLOCKWISE ",
  "ARROWg-ROTATED DIVISION SIGNzjSTERISK OPERATORrBOLD XfULLETgC WITH OVERLAID BACKSLASHyCbDbROSS FORMEEa WITH FOUR D",
  "OTSjTWO DOTSuPOMMEEhING LANESoDASHdIGIT EIGHTfFIVEdOUReNINEeONEdSEVENeIXdTHREEeWOdZEROiVISION SIGNdLASHnOLLAR SIGN",
  " WITH OVERLAID BACKSLASHziT OPERATORmEQUALSgGREATER-THANmHANGUL CHIEUCHa AiIEUCa AhHIEUHa AhIEUNGa AbUhKHIEUKHa Ai",
  "IYEOKa AiMIEUMa AhNIEUNa AhPHIEUPHa AiIEUPa AhRIEULa AhSIOSa AgTHIEUTHa AiIKEUTa AoEAVY WHITE RIGHTWARDS ARROWzcOR",
  "IZONTAL BAR WITH NOTCHyUMAN FIGUREmIDEOGRAPH ACCEPTfDVANTAGEiLLIANCEhTTENTIONjCENTREfONGRATULATIONmPYcRRECThEARTHe",
  "IGHTeNTERPRISEjXCELLENTjFEMALEfINANCIALhREcVEdOUReHAVEdIGHeITEMeKINDERGARTENlOTOeLABOReEFTdOWdMALEdEDICINEgTALeOON",
  "eNAMEdIGHTdNEeONEdPRINTfQUESTIONiRELIGIONgSOURCEfTdIGHTfSCHOOLfECRETeVENeIXcOCIETYgPECIALgTOCKdUDYeUITABLEgNbPERVI",
  "SEjTENcHREEeWOdWATEReOODnNFORMATION SOURCErTALIC LATIN CAPITAL LETTER CbRzeKATAKANA AbEbHAbEbIbObUcIbKAbEbIbObUcMA",
  "bEbIbObUcNAbEbIbObUcObRAbEbIbObUcSAbEbIbObUcTAbEbIbObUcUbWAbEbIbOcYAbObUkOREAN CHARACTER CHAMKOgJUEUIwLATIN CAPITA",
  "L LETTER AbBbCbDbEbFbGbHbIbJbKbLbMbNbObPbQbRbSbTbUbVbWbXbYbZqSMALL LETTER AbBbCbDbEbFbGbHbIbJbKbLbMbNbObPbQbRbSbTb",
  "UbVbWbXbYbZtESS-THANjMINUSeULTIPLICATION SIGN WITH CIRCUMFLEX ACCENTzrNUMBER EIGHTEENdY ON BLACK SQUAREvLEVENgFIFT",
  "EENdYa ON BLACK SQUAREuORTYa EIGHTfFIVEdOUReNINEeON BLACK SQUAREnEdSEVENeIXdTHREEeWOhURTEENiNINETEENiSEVENTEENdY O",
  "N BLACK SQUAREwIXTEENdY ON BLACK SQUAREvTENa ON BLACK SQUAREsHIRTEENdYa EIGHTfFIVEdOUReNINEeON BLACK SQUAREnEdSEVE",
  "NeIXdTHREEeWOjWELVEdNTYa EIGHTfFIVEdOUReNINEeON BLACK SQUAREnEdSEVENeIXdTHREEeWOrOPEN CENTRE EIGHT POINTED STARzfP",
  "ARALLELhERPENDICULARmLUSdOSTAL MARKlREVERSE SOLIDUSoING OPERATORnSQUAREgTIMESeRIANGLEa DOWNnVERTICAL BARmWHITE BUL",
  "LETgSTARjZcXbZERO WITH SLASHtULATION FUNCTIONpMFLEX ACCENTmS TENTjTYSCAPEa AT DUSKqJK COMPATIBILITY IDEOGRAPH-2F80",
  "0b1b2b3b4b5b6b7b8b9bAbBbCbDbEbFc10b1b2b3b4b5b6b7b8b9bAbBbCbDbEbFc20b1b2b3b4b5b6b7b8b9bAbBbCbDbEbFc30b1b2b3b4b5b6b7",
  "b8b9bAbBbCbDbEbFc40b1b2b3b4b5b6b7b8b9bAbBbCbDbEbFc50b1b2b3b4b5b6b7b8b9bAbBbCbDbEbFc60b1b2b3b4b5b6b7b8b9bAbBbCbDbEb",
  "Fc70b1b2b3b4b5b6b7b8b9bAbBbCbDbEbFc80b1b2b3b4b5b6b7b8b9bAbBbCbDbEbFc90b1b2b3b4b5b6b7b8b9bAbBbCbDbEbFcA0b1b2b3b4b5b",
  "6b7b8b9bAbBbCbDbEbFcB0b1b2b3b4b5b6b7b8b9bAbBbCbDbEbFcC0b1b2b3b4b5b6b7b8b9bAbBbCbDbEbFcD0b1b2b3b4b5b6b7b8b9bAbBbCbD",
  "bEbFcE0b1b2b3b4b5b6b7b8b9bAbBbCbDbEbFcF0b1b2b3b4b5b6b7b8b9bAbBbCbDbEbFd900b1b2b3b4b5b6b7b8b9bAbBbCbDbEbFc10b1b2b3b",
  "4b5b6b7b8b9bAbBbCbDbEbFc20b1b2b3b4b5b6b7b8b9bAbBbCbDbEbFc30b1b2b3b4b5b6b7b8b9bAbBbCbDbEbFc40b1b2b3b4b5b6b7b8b9bAbB",
  "bCbDbEbFc50b1b2b3b4b5b6b7b8b9bAbBbCbDbEbFc60b1b2b3b4b5b6b7b8b9bAbBbCbDbEbFc70b1b2b3b4b5b6b7b8b9bAbBbCbDbEbFc80b1b2",
  "b3b4b5b6b7b8b9bAbBbCbDbEbFc90b1b2b3b4b5b6b7b8b9bAbBbCbDbEbFcA0b1b2b3b4b5b6b7b8b9bAbBbCbDbEbFcB0b1b2b3b4b5b6b7b8b9b",
  "AbBbCbDbEbFcC0b1b2b3b4b5b6b7b8b9bAbBbCbDbEbFcD0b1b2b3b4b5b6b7b8b9bAbBbCbDbEbFcE0b1b2b3b4b5b6b7b8b9bAbBbCbDbEbFcF0b",
  "1b2b3b4b5b6b7b8b9bAbBbCbDbEbFdA00b1b2b3b4b5b6b7b8b9bAbBbCbDbEbFc10b1b2b3b4b5b6b7b8b9bAbBbCbDfF900b1b2b3b4b5b6b7b8b",
  "9bAbBbCbDbEbFc10b1b2b3b4b5b6b7b8b9bAbBbCbDbEbFc20b1b2b3b4b5b6b7b8b9bAbBbCbDbEbFc30b1b2b3b4b5b6b7b8b9bAbBbCbDbEbFc4",
  "0b1b2b3b4b5b6b7b8b9bAbBbCbDbEbFc50b1b2b3b4b5b6b7b8b9bAbBbCbDbEbFc60b1b2b3b4b5b6b7b8b9bAbBbCbDbEbFc70b1b2b3b4b5b6b7",
  "b8b9bAbBbCbDbEbFc80b1b2b3b4b5b6b7b8b9bAbBbCbDbEbFc90b1b2b3b4b5b6b7b8b9bAbBbCbDbEbFcA0b1b2b3b4b5b6b7b8b9bAbBbCbDbEb",
  "FcB0b1b2b3b4b5b6b7b8b9bAbBbCbDbEbFcC0b1b2b3b4b5b6b7b8b9bAbBbCbDbEbFcD0b1b2b3b4b5b6b7b8b9bAbBbCbDbEbFcE0b1b2b3b4b5b",
  "6b7b8b9bAbBbCbDbEbFcF0b1b2b3b4b5b6b7b8b9bAbBbCbDbEbFdA00b1b2b3b4b5b6b7b8b9bAbBbCbDbEbFc10b1b2b3b4b5b6b7b8b9bAbBbCb",
  "DbEbFc20b1b2b3b4b5b6b7b8b9bAbBbCbDbEbFc30b1b2b3b4b5b6b7b8b9bAbBbCbDbEbFc40b1b2b3b4b5b6b7b8b9bAbBbCbDbEbFc50b1b2b3b",
  "4b5b6b7b8b9bAbBbCbDbEbFc60b1b2b3b4b5b6b7b8b9bAbBbCbDc70b1b2b3b4b5b6b7b8b9bAbBbCbDbEbFc80b1b2b3b4b5b6b7b8b9bAbBbCbD",
  "bEbFc90b1b2b3b4b5b6b7b8b9bAbBbCbDbEbFcA0b1b2b3b4b5b6b7b8b9bAbBbCbDbEbFcB0b1b2b3b4b5b6b7b8b9bAbBbCbDbEbFcC0b1b2b3b4",
  "b5b6b7b8b9bAbBbCbDbEbFcD0b1b2b3b4b5b6b7b8b9zdRADICAL BAMBOOfLUEdOLT OF CLOTHlNEcXcRUSH ONEdTWOjC-SIMPLIFIED BIRDeC",
  "ARTeDRAGONgEATcVENeFISHdLYcROGeGATEdOLDeHORSEfLEAFdONGeSALTdEEcHELLeILKdPEECHgTANNED LEATHERnOOTHeURTLEgWINDqHOKEe",
  "ITYcVILIANhLIFFdOTHESgOWdDEATHeIVINATIONjOGdEAT ONEdTHREEeWOgWEcYEdFIREdOOTeGHOSTeRASS ONEdTHREEeWOjHANDdEADbRT ON",
  "EdTWOiORNeJ-SIMPLIFIED DRAGONgEVENeTOOTHeURTLEsADEeKNIFE ONEdTWOjLAME FOUReONEdTHREEeWOhONG ONEdTWOiMEATcSHdOONcRT",
  "AReTHEReUND ONEdTWOjNET FOUReONEdTHREEeWOhOLDdPAW ONEdTWOgERSONgRAINcMbPcEPEATgSEALcCOND ONEdTHREEeWOjHEEPeILKcMPL",
  "IFIED HALF TREE TRUNKoORNeWALKdHEATfYELLOWqMALL ONEdTWOiNAKEdOUT ONEdTWOiPIRIT ONEdTWOjUNdTABLEeHREADfIGEReURTLEgW",
  "ALK ONEdTWOgTER ONEdTWOiEST ONEdTWOqSTROKE BXGdDbHaGbPaWGdXWGdZaGbTbWaGcZaPbZaGfNbPaDbGbZcQbSaGbPbTbWaGbZcZaWGcZdT",
  "aNcWGcXGmLAMSHELL MOBILE PHONEtPPER BOARDiING HANDS SIGNqSSICAL BUILDINGqEAR SCREEN SYMBOLrINKING BEER MUGSjGLASSE",
  "SnPBOARDhOCK FACE EIGHT OCLOCKh-THIRTYlLEVEN OCLOCKh-THIRTYnFIVE OCLOCKh-THIRTYkOUR OCLOCKh-THIRTYlNINE OCLOCKh-TH",
  "IRTYlONE OCLOCKh-THIRTYkSEVEN OCLOCKh-THIRTYlIX OCLOCKh-THIRTYkTEN OCLOCKh-THIRTYjHREE OCLOCKh-THIRTYlWELVE OCLOCK",
  "h-THIRTYlO OCLOCKh-THIRTYqWISE CLOSED CIRCLE ARROWsONTOUR INTEGRALqDOWNWARDS AND UPWARDS OPEN CIRCLE ARROWSzpGAPPE",
  "D CIRCLE ARROWtINTEGRALiOPEN CIRCLE ARROWrRIGHT AND LEFT SEMICIRCLE ARROWSzcWARDS AND LEFTWARDS OPEN CIRCLE ARROWS",
  "a WITH CIRCLED ONE OVERLAYzzsTOP SEMICIRCLE ARROWtRIANGLE-HEADED OPEN CIRCLE ARROWzpSE UPdD BOOKeINTERSECTION WITH",
  " SERIFSyLOCK WITH KEYnMAILBOX WITH LOWERED FLAGmRAISED FLAGySUBSETa OR EQUAL TOqPERSETa OR EQUAL TOuUMBRELLAhNION ",
  "WITH SERIFSa AND SMASH PRODUCTzoUDa WITH LIGHTNINGjRAINeSNOWeTORNADOpWN FACEjOATcCKROACHfTAIL GLASSlONUTfFFINeINcL",
  "LISION SYMBOLnONa EQUALSgSIGNiMBINING ACUTE ACCENTa BELOWmTONE MARKk-GRAVE-ACUTElMACRONlLMOST EQUAL TO ABOVEfBELOW",
  "uNNUITY SYMBOLmTICLOCKWISE ARROW ABOVElRING OVERLAYzSTERISK ABOVEfBELOWoBINDU BELOWkREVEa BELOWg-MACRONkIDGE ABOVE",
  "fBELOWmCANDRABINDUjRONa BELOWkEDILLAgIRCUMFLEX ACCENTa BELOWwLOCKWISE ARROW ABOVElRING OVERLAYvOMMA ABOVEa RIGHTlB",
  "ELOWjNJOINING MACRONa BELOWwYRILLIC DASIA PNEUMATAoHUNDRED MILLIONS SIGNnTHOUSANDS SIGNwKAVYKAgLETTER AbBEbIG YUSh",
  "CHEdDEbJERVfEFbLbMbNbRbSa-TEfFITAeGHEdHAaRD SIGNjIaEbOTIFIED AbBIG YUShEkKAcLITTLE YUSkMONOGRAPH UKmOaMEGAfPEcSHAb",
  "CHAeOFT SIGNjTEbSEdUaKRAINIAN IEmVEcYATcERUdIbUcZEbHEkMILLIONS SIGNnPALATALIZATIONmYEROKgOKRYTIEhSILI PNEUMATAoTEN",
  " MILLIONS SIGNqHOUSAND MILLIONS SIGNvITLOa LEFT HALFjRIGHT HALFqVZMEToDELETION MARKlVANAGARI DIGIT EIGHTfFIVEdOURe",
  "NINEeONEdSEVENeIXdTHREEeWOdZEROkLETTER AbKAcNAcPAcRAcUbVIjSIGN AVAGRAHAxIAERESISa BELOWg-RINGnOT ABOVEa LEFTeRIGHT",
  "lBELOWa LEFTlTED ACUTE ACCENTmGRAVE ACCENTrUBLE ACUTE ACCENTmBREVEa BELOWlCIRCUMFLEX ABOVEqGRAVE ACCENTmINVERTED B",
  "REVEa BELOWuLOW LINEiMACRONa BELOWmOPEN MARK BELOWoVERLINEiPARENTHESES ABOVEqLUS SIGN ABOVEfBELOWpRIGHTWARDS ARROW",
  " BELOWuNG BELOWkTILDEa LEFT HALFjRIGHT HALFqVERTICAL LINE ABOVEfBELOWkSTROKE OVERLAYyD CIRCUMFLEX ACCENTxWN TACK B",
  "ELOWlWARDS ARROWpENCLOSING CIRCLEa BACKSLASHqDIAMONDhKEYCAPgSCREENfQUAREgUPWARD POINTING TRIANGLEziQUALS SIGN BELO",
  "WrFERMATAgOUR DOTS ABOVEpGLAGOLITIC LETTER AZUdBIG YUSgUKYeCHRIVIgDJERVIfOBROfFITAdRITUfGLAGOLIhHERUeIaNITIAL IZHE",
  "lOTATED BIG YUShSMALL YUSqZHEeKAKOeLJUDIJEhMYSLITEhNASHIfONUdPOKOJIgRITSIfSHAbTAdLOVOeMALL YUSjTSIcVRIDOgUKUdVEDEe",
  "YATIdERIbUcSTUeObUcZEMLJAfHIVETEyRANTHA DIGIT FIVEdOUReONEdSIXdTHREEeWOdZEROkLETTER AbKAcNAcPAcVIoPHEME JOINERmVE ",
  "ACCENTa BELOWmTONE MARKk-ACUTE-GRAVElMACRONkEEK DIALYTIKA TONOSpKORONIShMUSICAL PENTASEMEjTETRASEMEiRISEMEpPERISPO",
  "MENIlYPOGEGRAMMENItHOMOTHETIC ABOVEoOK ABOVEiRNeINFINITYgVERTED BREVEa BELOWjIDGE BELOWmDOUBLE ARCH ABOVEfBELOWzS ",
  "BELOWiKATAKANA-HIRAGANA SEMI-VOICED SOUND MARKwVOICED SOUND MARKziVYKA ABOVE LEFTeRIGHTsLATIN LETTER SMALL CAPITAL",
  " GbLbMbNbRwSMALL LETTER Aa WITH DIAERESISpEbLPHAeObVcBaETAeCa CEDILLAjDbEaSHcTHdFaLATTENED OPEN A ABOVEwGbHbIaNSUL",
  "AR DbGbRbTjKbLa WITH DOUBLE MIDDLE TILDEzONG SgMbNbOa WITH DIAERESISjLIGHT CENTRALIZATION STROKEzjPbRa BELOWfROTUN",
  "DAjSaCHWAfTaURNED W BELOWoUa WITH DIAERESISjLIGHT CENTRALIZATION STROKEzjVbWa BELOWhXbZtEFT ANGLE ABOVEfBELOWkRROW",
  " ABOVEfBELOWgHEAD ABOVEfBELOWpHALF RING ABOVEfBELOWnRPOON ABOVEnPARENTHESIS ABOVE LEFTkBELOW LEFTwRIGHT ARROW ABOV",
  "EfBELOWrTACK BELOWlWARDS ARROW OVERLAYnHARPOON WITH BARB DOWNWARDSzlIGATURE LEFT HALFa BELOWpRIGHT HALFa BELOWwHT ",
  "CENTRALIZATION STROKE BELOWzhONG DOUBLE SOLIDUS OVERLAYwSOLIDUS OVERLAYoTROKE OVERLAYoVERTICAL LINE OVERLAYyW LINE",
  "iMACRONa BELOWfLEFT HALFa BELOWpRIGHT HALFa BELOWr-ACUTEfBREVEfGRAVElINUS SIGN BELOWqNOT TILDE ABOVEoUMBER SIGN AB",
  "OVErOGONEKa ABOVElLD PERMIC LETTER ANcDOIdNENOEfSIIdZATAvPEN MARK BELOWoVERLINEiPALATALIZED HOOK BELOWuRENTHESES A",
  "BOVEfBELOWfOVERLAYsLUS SIGN ABOVEfBELOWpRETROFLEX HOOK BELOWsVERSE SOLIDUS OVERLAYqD COMMA ABOVEtIGHT ARROW ABOVEf",
  "BELOWgHEAD ABOVEeND DOWN ARROWHEAD BELOWuUP ARROWHEAD BELOWwBELOWpHALF RING ABOVEfBELOWnRPOON ABOVEnPARENTHESIS AB",
  "OVE RIGHTlBELOW RIGHTxTACK BELOWlWARDS HARPOON WITH BARB DOWNWARDSzlNG ABOVEfBELOWfOVERLAYmSEAGULL BELOWmHORT SOLI",
  "DUS OVERLAYoTROKE OVERLAYoVERTICAL LINE OVERLAYzbNAKE BELOWkQUARE BELOWeRACKETS ABOVEuTRONG CENTRALIZATION STROKE ",
  "BELOWziUSPENSION MARKpTHREE DOTS ABOVEpILDEa BELOWfLEFT HALF BELOWpOVERLAYhRIGHT HALF BELOWvRIPLE ACUTE ACCENTmDOT",
  "dUNDERDOToURNED COMMA ABOVEsUP TACK ABOVEfBELOWlWARDS ARROW BELOWsR ABOVEhS ABOVEiVERTICAL LINE ABOVEfBELOWkTILDEo",
  "WIDE BRIDGE ABOVEmINVERTED BRIDGE BELOWyGGLY LINE BELOWrX ABOVEfBELOWg-X BELOWjZIGZAG ABOVEfBELOWtETcMAbERCIAL ATc",
  "MINUS SIGNsPASSdLEMENTgOSITION SYMBOLoRESSIONjNFETTI BALLjOUNDED FACElUSED FACEkGRUENT WITH DOT ABOVEvICAL TAPERkJ",
  "UNCTIONiSTRUCTION SIGNeWORKERqTAINS AS MEMBERgNORMAL SUBGROUPa OR EQUAL TOzfWITH LONG HORIZONTAL STROKEwOVERBARhVE",
  "RTICAL BAR AT END OF HORIZONTAL STROKEzzINUOUS UNDERLINE SYMBOLxOUR INTEGRALmROL KNOBSfSEQUENCE INTRODUCERyVENIENC",
  "E STOREpOKED RICEhIEbNGfPTIC CAPITAL LETTER AKHMIMIC KHEImLFAeBOHAIRIC KHEInCROSSED SHEIkYPTOGRAMMIC EIEdGANGIAgNI",
  "cSHEIsDALDAeEIcIALECT-P ALEFeHORIeKAPAeNImEIEdFEIcIcGAMMAdNGIAgHATEdORIeIAUDAfKAPAdHEIcIcSIdL-SHAPED HAkAULAfMIcNI",
  "cOaLD COPTIC AINdDJAdESHdGANGIAgHAaTcEIcORIeOOUdSHEIcIMAmNUBIAN NGIcYIdSHIMAfWAUnOUdPIbSIdROcSAMPIeHEIcIMAeIMAdOUd",
  "TAUcHETHEgUAcVIDAeZATAsOMBINING NI ABOVEiSPIRITUS ASPERfLENISyEPACT DIGIT EIGHTfFIVEdOUReNINEeONEdSEVENeIXdTHREEeW",
  "OjNUMBER EIGHT HUNDREDiYgFIFTYdVE HUNDREDlORTYdUR HUNDREDmNINE HUNDREDiTYgONE HUNDREDlSEVEN HUNDREDiTYgIX HUNDREDi",
  "TYfTENcHIRTYeREE HUNDREDmWENTYeO HUNDREDsTHOUSANDS MARKuFRACTION ONE HALFqULL STOPjMORPHOLOGICAL DIVIDERvOLD NUBIA",
  "N DIRECT QUESTION MARKuFULL STOPjINDIRECT QUESTION MARKwVERSE DIVIDERySMALL LETTER AKHMIMIC KHEImLFAeBOHAIRIC KHEI",
  "nCROSSED SHEIkYPTOGRAMMIC EIEdGANGIAgNIcSHEIsDALDAeEIcIALECT-P ALEFeHORIeKAPAeNImEIEdFEIcIcGAMMAdNGIAgHATEdORIeIAU",
  "DAfKAPAdHEIcIcSIdL-SHAPED HAkAULAfMIcNIcOaLD COPTIC AINdDJAdESHdGANGIAgHAaTcEIcORIeOOUdSHEIcIMAmNUBIAN NGIcYIdSHIM",
  "AfWAUnOUdPIbSIdROcSAMPIeHEIcIMAeIMAdOUdTAUcHETHEgUAcVIDAeZATAqYMBOL KAIcHI ROgMI ROfPI ROfSHIMA SIMAjTAUROShTAU RO",
  "rYLEFT SYMBOLlRIGHT SIGNmRALcNISH VERSE DIVIDERsRESPONDS TOmUCH AND LAMPlNTERBOREeSINKgING ROD TENS DIGIT EIGHTfFI",
  "VEdOUReNINEeONEdSEVENeIXdTHREEeWOoUNIT DIGIT EIGHTfFIVEdOUReNINEeONEdSEVENeIXdTHREEeWOyPLE WITH HEARTpWa FACEhRaAB",
  "cEDIT CARDiSCENT MOONlICKETa BAT AND BALLsOCODILEgISSANTgSS MARKeOF JERUSALEMjLORRAINElPATTY WITH LEFT CROSSBARnRI",
  "GHT CROSSBARyOMMEEa WITH HALF-CIRCLE BELOWzfED FLAGSfNEGATIVE SQUARED LATIN CAPITAL LETTER PzoSWORDSjING LANESlWNd",
  "UTCHdZEIRO SIGNlYING CAT FACEiFACEiSTAL BALLlSIcUBE ROOThCUMBERgNEIFORM NUMERIC SIGN EIGHT ASHdDISHeGESH2fSHAR2fUa",
  " VARIANT FORMoVARIANT FORM USSUa3xLAMITE FIFTYeORTYfONE THIRDjTWO THIRDSsFIVE ASHa TENUiBAN2a VARIANT FORMqURUeDIS",
  "HeGESH2bUfSHAR2bUeIXTHS DISHlUa VARIANT FORMsOUR ASHa TENUiBAN2a VARIANT FORMqURUeDISHeGESH2bUfSHAR2bUfUa VARIANT ",
  "FORMoVARIANT FORM LIMMUa AbBc4yNIGIDAESHdMINhNE ASHdDISHeGESH2fSHAR2fUa VARIANT FORMoVARIANT FORM ILIMMUa Ac3b4zOL",
  "D ASSYRIAN ONE QUARTERhSIXTHvNE BAN2dURUeEIGHTH ASHjSHE3fGESH2bUfHALF GURiQUARTER ASHdGURlSHARUfTHIRD DISHeVARIANT",
  " FORM AySEVEN ASHdDISHeGESH2fSHAR2fUa VARIANT FORMoVARIANT FORM IMIN AbBc3xHAR2 TIMES GAL PLUS DISHeMINxIX ASHa TE",
  "NUiDISHeGESH2fSHAR2fUa VARIANT FORMoVARIANT FORM ASH9vTHREE ASHa TENUiBAN2dURUa VARIANT FORMrDISHeGESH2bUfSHAR2a V",
  "ARIANT FORMoUa VARIANT FORMsVARIANT FORM ESH16c21xWO ASHa TENUiBAN2dURUeESHE3fGESH2bUfSHAR2bUfTHIRDS DISHeVARIANT ",
  "FORM AznPUNCTUATION SIGN DIAGONAL COLONfQUADCOLONjTRICOLONrOLD ASSYRIAN WORD DIVIDERzVERTICAL COLONzgSIGN Aa TIMES",
  " AbBADdGAN2 TENUjHAcIGIdLAGAR GUNUkMUSHeSAGk2bBa GUNUeTIMES ASH2eDUN3 GUNUjGALbN2 TENUjHAcIGI GUNUhMINeLAGABfNUNa ",
  "TENUiSHESHdU2eU PLUS U PLUS Uw2a TIMES AbBALAGfGAN2 TENUjME PLUS ENkSHA3eTAK4nDa TIMES ESH2mKa TIMES ERIN2fSHITA P",
  "LUS GISHxLa TIMES ALcDIM2eGISHeHAcKAD3dIcSHEdUSHkANcEPHeMARa TIMES KUGdSHEnNa OVER ANhPLUS NAGA OPPOSING AN PLUS N",
  "AGAvSQUAREDrTHREE TIMESmSHEePINdRADa TIMES KURmKABeSAL2dHa KABA TENUjOVER ASH OVER ASHa CROSSING ASH OVER ASH OVER",
  " ASHzoTUG2 OVER TUG2 TUG2 OVER TUG2 PAPzrZIDA TENUk2bGABgBAaDa TIMES DISH TENUrG3cHAR2a TIMES AB2dNIcZAnLa OVER BA",
  "LjAGdRaA2eIa TIMES AbGARdIGI GUNUqUa CROSSING BUlOVER BU ABcTIMES NA2jUNlLUGa OVER BULUGoRa2eDAa TIMES TAK4lGa KIS",
  "IM5 TIMES A PLUS MASHkMAReBALAGeIcGAa PLUS MASHlIaR2dUDdHAcIRa PLUS LUkKAKdLAbUa PLUS MASH2lMdNEcPAP PLUS PAPmSIcT",
  "AK4eU2 PLUS GIR2eMASHlSHqTIMES KURk3cMbRaA3b4eIaBbMa TIMES IGIdSHEdU U Um2a TIMES UDlNa KASKAL U GUNU DISHuSHa PLU",
  "S SHUmUa GUNUeOVER DUhSHESHIGiBa TIMES ESH2eSHEk2cGa TIMES ANSHEeSHa AT LEFTlDINcUNdERIN2fGAbIaR2 GUNUhSHeHAbIcIGI",
  " GUNUiKASKALfURbSHU2a PLUS KASKALsLAK-020fMa TIMES KURmUH PLUS GISHnMASHdEScIcNIcPIcSHEcI GUNUoUDdHbNa3a GUNUa GUN",
  "Ul4cR2eEa OVER E NUN OVER NUNtTIMES PAPk2a TIMES A PLUS HA PLUS DArGARdKURdMIcPAPdSALcHEdUjDINdGIRdLbNa CROSSING E",
  "NlOPPOSING ENlSQUAREDhTIMES GAN2a TENUjMEkRENcIN2a XgSH2a CROSSING ESH2rZENa SHESHIG TIMES ASHdHIcIGI GUNUiLAaLdME",
  "aSdSUqTIMES Aa PLUS LALa TIMES LALtNcBADdDUN3 GUNUa GUNUoGUDdHAa GUNUhIGI GUNUiKASKALa SQUAREDnU3dLAaL TIMES LALmI",
  "bUcSHEcUcU2bDnGAa GUNUf2a OVER GA2iTIMES A PLUS DA PLUS HAkHAcIGIjB2 TENU PLUS TABqNa PLUS KAK PLUS ArSHa2a PLUS G",
  "ALnBADbHAR2eR PLUS RAkURa PLUS RAlDAbIaM GUNUeTIMES SHEmUBbG TIMES IGI GUNUiKASKALqELa PLUS LAjNa TIMES GAN2 TENUr",
  "RENeGAaN2 TENUhRa PLUS DIcNEkIa4a PLUS AiR2 PLUS SUmHA PLUS AbLU PLUS ESH2sLa PLUS LAkI PLUS LIjUB2eIGI GUNUhSH PL",
  "US HU PLUS ASHuKAKbSKALfIDa PLUS LALlU3 PLUS ANjSHU2 PLUS KASKALsLAaMa TIMES KURmUHdME PLUS ENjIbUSHeNEa PLUS E2cG",
  "IjUNa OVER NUNmPAcSALbRcHEa PLUS TURkIDbMdUMdTAK4eUaDa PLUS DUkZIZ2mBAa CROSSING GABAnROTATED NINETY DEGREESzDa OV",
  "ER GAD GAR OVER GARxLa GAD OVER GAD GAR OVER GARzbAMdMbNa2a CROSSING GAN2nOVER GAN2jTENUhRa3cSHANfE22cSHTINa TIMES",
  " KURdUoIa CROSSING GIlTIMES EbUi4a CROSSING GI4mOVER GI4kDIMdGbR2a GUNUg3a TIMES A PLUS IGIkGAN2 TENUjIGIdLU PLUS ",
  "IGIlPAlSALcHa CROSSING GISHnTENUdIMES BADdGISH CROSSING GISHsTAK4oUa CROSSING GUm2a GUNUeTIMES IGI GUNUiKAKa TIMES",
  " IGI GUNUsNUNdSAL PLUS TUG2vDa OVER GUD LUGALoPLUS GISH TIMES TAK4uTIMES A PLUS KURkKURlLbMa TIMES SHElRa7bUNbSHgH",
  "Aa GUNUeTENUa GUNUkLcIa TIMES ASHa OVER HI TIMES ASHs2eBADdDISHeGADdKINdNUNdSHEdUjUaB2a TIMES ANcHALdKASKALgLISHeU",
  "DlL2cSHeIa AcBbDIMa OVER IDIM BURdSQUAREDvGaIa DIBdGUNUeOVER IGI SHIR OVER SHIR UD OVER UDzjRIfLa TIMES GAN2 TENUq",
  "2cMa CROSSING IMlOPPOSING IMlSQUAREDhTIMES TAK4lINdNbRbSHdKAa TIMES AaDa PLUS KU3kNSHEeSH2b3eBADbLAGdRcIbUcERIN2eS",
  "H2eGAaLbN2 TENUhRa PLUS SHA3 PLUS AtIaR2cSHa CROSSING GISHnPLUS SARmUaDbR7eHI TIMES ASH2nIGIcMcKAaKcIaDdLIbUaMdMEa",
  " PLUS DUcGIcTEjIa PLUS NUNUZnNEbUNdPAbIcRUcSAaRcHAbEbIDcUaLdIGcUHURfTARcUcUa U Ue2bDbMUM TIMES PAmRa2cSHdZIj2a CRO",
  "SSING KA2oBbD2b3b4b5a OVER KAD5mKa TIMES IGI GUNUqLa CROSSING KALmTIMES BADlM2b4cP ELAMITEjSKALa LAGAB TIMES U OVE",
  "R LAGAB TIMES UzhOVER KASKAL LAGAB TIMES U OVER LAGAB TIMES UzzESH2eIa TIMES BADdUaDjDbNbSALcHbIM5a OVER KISIM5rUa",
  " OVER HI TIMES ASH2 KU OVER HI TIMES ASH2zq3b4a VARIANT FORMo7bLa GUNUgNbRa OPPOSING KURoSHU2fWU318gLAaGABa SQUARE",
  "DhTIMES Aa PLUS DA PLUS HAkGARdLALjLbNbSH ZIDA TENUnBADcIcDARdENcGAaRcIbUDa PLUS GUDmHAaLcI TIMES NUNmIGI GUNUhMa ",
  "PLUS HAcLUkKIaNcU3bLa PLUS HI PLUS AsLAGABeISHdUaLdMEa PLUS ENjUSHeNEcSHE PLUS SUMkITA PLUS GISH PLUS ERIN2kTENUsU",
  "2a PLUS SHU2nUMdTAGbK4dE PLUS A PLUS SU PLUS NAzUa PLUS AbU PLUS Uo2 PLUS ASHkDbSHdZU OVER ZUsRa GUNUa OVER LAGAR ",
  "GUNU SHEyTIMES SHEa PLUS SUMwHSHUeK-003c21b5c30c50b1c62c79 OVER LAK-079 GUNUu80b1 OVER LAK-081p92d130c42d210b9c20b",
  "5b8c38c65b6d343b7b8c83b4c90d441b9a TIMES GUcIGIdPAP PLUS LU3dPAP PLUS LU3vU2 PLUS BAt50b7c70c83c90b2b3b5d550d608c1",
  "7a TIMES ASHdBADdDUN3 GUNU GUNUoKU3dLAcTARcEcU2bDbRUDAo36c48a TIMES DUBdGAcIGIa GUNUiNIcPAP PLUS PAP PLUS LU3vSHES",
  "H PLUS KInUDbRUDAp724c49fLa TIMES LALlMa TIMES KURa PLUS RUuIaLbMMU2eSHdUa TIMES BADk2a CROSSING LU2mGUNU TIMES AS",
  "HoOPPOSING LU2mSHESHIGa TIMES BADqQUAREDhTENUdIMES ALcBADdDISHeESH2a PLUS LALiTENUjGAN2 TENUjHALcI TIMES BADmIMcKA",
  "D2b3a PLUS ASHmIcLA PLUS ASHjGABfME PLUS ENkNEbUcPAPa PLUS PAP PLUS LU3vSHUcI PLUS ASHjK2 PLUS BUmTAK4dUG2m3bGALa ",
  "OPPOSING LUGALnVER LUGALkSHESHIGlHbLbMa OVER LUMa GAR OVER GARzMAa GUNUeTIMES TAK4l2bHbRbSHa2eEaSaHdIa PLUS ZA7jNc",
  "Ua OVER MUiGa GUNUgNSUBeRGU2eSHa CROSSING MUSHnOVER MUSHa TIMES A PLUS NAjGAcKAKtTIMES AbKURdZAj3a GUNUeTIMES Aa P",
  "LUS DIjDIcZAoNAa2b4bGAa INVERTEDiOPPOSING NAGAnTIMES SHU TENUpRdMa NUTILLUi2dEa SHESHIGhTIMES AbUDkIa TIMES Ei2bMa",
  " TIMES GAN2 TENUhR PLUS GAN2 TENUzbNa9bDA2a TIMES ANbSHa PLUS ASHmBALdDIM GUNUiGIaSHdUDbLdHIcKESH2fLAK-050hMASHdE ",
  "PLUS GAN2 TENUrNEbUNdPAP PLUS PAPmSHEa PLUS A ANdSHa PLUS ASHvUa PLUS Uh2 PLUS ASHkRUDAeSHoSAGeUa11a OVER NU11 BUR",
  " OVER BURwROTATED NINETY DEGREESwTENUhNa CROSSING NUNa LAGAR OVER LAGARzeLAGAR TIMES GARdMASHeSALa OVER NUN LAGAR ",
  "TIMES SALzdUSHpOVER NUNiTENUfUZa AB2 TIMES ASHGABgBIcDUGdGUDdIGI GUNUiKAD3eLAcNEcSILA3fU2mKISIM5 TIMES BIa UxPAaDb",
  "NbPcESH2a ASTERISKnIa CROSSING PIlTIMES AaBcBIbUcEbIaBcUa2jR2bIGa OPPOSING PIRIGoTIMES KALdUDcZAoRAaBcIbUcSAaGa GU",
  "NUa TIMES HAnNUTILLUhOVER SAGiTIMES AbDUaBdENcHAcIGI GUNUiKAKcURdLUMdMIcNUNdSALcHE AT LEFTjIDeTABbK4eU2bBbMbRbSHlL",
  "a LAGAB TIMES ASH2sNGA2eRcHAa3a TIMES AbBADdGISHeNEcSHU2eTURdUa PLUS Aq6a TENUgB6cR2dEa HUcOVER SHEa GAD OVER GAD ",
  "GAR OVER GARzTAB OVER TAB GAR OVER GARzjPLUS HUB2eNAM2eSARjG9cNbSHa2bLAMgIDa TIMES AbIMkMa TIMES AbBALcULUGfDINdGA",
  "RdIGIa GUNUiKUSHU2gLULdMUGdSALlNIGdRa OVER SHIR BUR OVER BURwTENUgTAdUa OVER INVERTED SHUs2a PLUS DUG TIMES NImE2 ",
  "TIMES ANsBURfIa GUNUeTIMES TAK4lGa4a OVER SIG4 SHU2rK2cLA3eUa OVER SUiDa2cHURdMaASHeRa9eTAa ASTERISKiGUNUeTIMES HI",
  "cMIjBa OVER TAB NI OVER NI DISH OVER DISHzjSQUAREDjGa TIMES BIcGUDdSHEbUdTUG2eUDkK4a PLUS SAGlRcEa GUNUgIa TENUf2b",
  "LbRa OVER TIRa GAD OVER GAD GAR OVER GARzjTIMES TAK4nUaG2cKbMa TIMES GAN2 TENUjTHREE DISHsRa OVER TUR ZA OVER ZAxU",
  "a GUDdOVER U PA OVER PA GAR OVER GARxSUR OVER SURmU REVERSED OVER U REVERSEDziUa Ue2bBbDa GUNUeKUSHU2gSHESHIGa TIM",
  "ES BADrTIMES BADdMIcU PLUS U PLUS Ua GUNUzcUGdMa TIMES LAGABfMEa PLUS DAkSHA3eUiBINdUMa TIMES KASKALgPAmNa GUNUgRa",
  " CROSSING URlSHESHIGi2a INVERTEDiTIMES A PLUS HAcNAiLcHAcNUNdU2a PLUS ASHdBIjDk4bIa3cUa TIMES AaSHGABgBARdDARA3eUN",
  "dGAaLbN2 TENUhRcUcHAcIGIcMbSHdKIcLAK-668gU3bMdMINdPAcSHEcIG4eTUcU PLUS GUDjDbRUDAmDAa TIMES UmSHa TIMES AbKUaRdTAK",
  "4l2bUMXdXdTUKIeZ3a TIMES KASKALoUdZAa SQUARED TIMES KURrTENUf7bGbMXdE2cIa OVER ZIi3bBa KABA TENUlGbZ2dUa OVER ZU P",
  "LUS SARr5a TIMES AbTHREE DISH TENUxBURdMqP ON BLACK SQUAREpWITH STRAWlCAKEeIDOeRLING STONEjY BRACKET EXTENSIONrLOG",
  "ICAL ANDdORiOPhRENCY EXCHANGEiSIGNjY AND RICElVED STEM PARAGRAPH SIGN ORNAMENTziSTARDdOMSfT OF MEATkYCLONEfLINDRIC",
  "ITYkPRIOT SYLLABLE AbEbIbJAbOcKAbEbIbObUcLAbEbIbObUcMAbEbIbObUcNAbEbIbObUcObPAbEbIbObUcRAbEbIbObUcSAbEbIbObUcTAbEb",
  "IbObUcUbWAbEbIbOcXAbEcZAbOpO-MINOAN SIGN CM001b2b4b5b6b7b8b9c10b1b2aBc3b5b7b9c21b3b4b5b6b7b8b9c30b3b4b5b6b7b8b9c40",
  "b1b4b6b7b9c50b1b2b3b4b5b6b8b9c60b1b2b3b4b6b7b8b9c70b1b2b3b4b5aBc6b8b9c80b1b2b3b4b5b6b7b8b9c90b1b2b4b5b6b7b8b9d100b",
  "1b2b3b4b5b7b8b9c10b2b4d301b2vRILLIC CAPITAL LETTER Aa WITH BREVEfDIAERESISpBKHASIAN CHEa WITH DESCENDERsDZEdHAlLEU",
  "T KAiBARRED Oa WITH DIAERESISvSHKIR KAjEbIG YUSfNOCULAR OkLENDED YUSkROAD OMEGAkYELORUSSIAN-UKRAINIAN IyCCHEdHEa W",
  "ITH DESCENDERiIAERESISjVERTICAL STROKExLOSED LITTLE YUSqROSSED OjDCHEdEbJEaRVeOUBLE MONOCULAR OlOhWEcZEaLOdHEcWEcZ",
  "EbHEfEa WITH DIAERESISpFbLa WITH DESCENDERjHOOKeMIDDLE HOOKlTAILlMa WITH TAILlNa WITH DESCENDERjHOOKeLEFT HOOKjMID",
  "DLE HOOKlTAILlRa WITH TICKlSa WITH DESCENDERrFITAeGHEa WITH DESCENDERjMIDDLE HOOKlSTROKEa AND HOOKpUPTURNoJEdHAa W",
  "ITH DESCENDERjHOOKeSTROKEmRD SIGNiWEdIa WITH DIAERESISjGRAVEfMACRONmEa WITH BREVEfGRAVEmOaTAbIFIED AbBIG YUShCLOSE",
  "D LITTLE YUSrEbLITTLE YUSkYATlZHITSAa WITH DOUBLE GRAVE ACCENTzhJEcKAa WITH DESCENDERjHOOKeSTROKEgVERTICAL STROKEw",
  "HAKASSIAN CHEnJEcOMI DEbJEcZJEeLJEdNJEdSJEdTJEdZJEgPPAeSIdLHAcITTLE YUSjJEdMONOCULAR OhGRAPH UKmNEUTRAL YERkJEdOa ",
  "WITH DIAERESISpMEGAa WITH TITLOpTcPEa WITH DESCENDERjMIDDLE HOOKsSIdQAcREVERSED DZEdTSEdYUcZEkHAcOUND OMEGAlSCHWAa",
  " WITH DIAERESIStEMISOFT SIGNmHAbCHAdHAa WITH DESCENDERrORT Ia WITH TAILlUfWEdOFT DEcELbMcSIGNiTRAIGHT Ua WITH STRO",
  "KEwTCHEdEa WITH DESCENDERjMIDDLE HOOKsSEbHEcSEcWEdWEdUa WITH DIAERESISiOUBLE ACUTEmMACRONmKaRAINIAN IEmVEcWEcYAaEb",
  "TcERUa WITH BACK YERiDIAERESISsIbNbUcZEa WITH DESCENDERiIAERESISpMLYAfHEa WITH BREVEfDESCENDERiIAERESISqWEkIGATURE",
  " A IEeEN GHEgTE TSExKAVYKAgLETTER MULTIOCULAR OnPALOCHKAiSMALL CAPITAL ELxPAYEROKhSMALL LETTER Aa WITH BREVEfDIAER",
  "ESISpBKHASIAN CHEa WITH DESCENDERsDZEdHAlLEUT KAiBARRED Oa WITH DIAERESISvSHKIR KAjEbIG YUSfNOCULAR OkLENDED YUSkR",
  "OAD OMEGAkYELORUSSIAN-UKRAINIAN IyCCHEdHEa WITH DESCENDERiIAERESISjVERTICAL STROKExLOSED LITTLE YUSqROSSED OjDCHEd",
  "EbJEaRVeOUBLE MONOCULAR OlOhWEcZEaLOdHEcWEcZEbHEfEa WITH DIAERESISpFbLa WITH DESCENDERjHOOKeMIDDLE HOOKlTAILlMa WI",
  "TH TAILlNa WITH DESCENDERjHOOKeLEFT HOOKjMIDDLE HOOKlTAILlRa WITH TICKlSa WITH DESCENDERrFITAeGHEa WITH DESCENDERj",
  "MIDDLE HOOKlSTROKEa AND HOOKpUPTURNoJEdHAa WITH DESCENDERjHOOKeSTROKEmRD SIGNiWEdIa WITH DIAERESISjGRAVEfMACRONmEa",
  " WITH BREVEfGRAVEmOaTAbIFIED AbBIG YUShCLOSED LITTLE YUSrEbLITTLE YUSkYATlZHITSAa WITH DOUBLE GRAVE ACCENTzhJEcKAa",
  " WITH DESCENDERjHOOKeSTROKEgVERTICAL STROKEwHAKASSIAN CHEnJEcOMI DEbJEcZJEeLJEdNJEdSJEdTJEdZJEgPPAeSIdLHAcITTLE YU",
  "SjJEcONG-LEGGED DEoMONOCULAR OhGRAPH UKmNARROW OhEUTRAL YERkJEdOa WITH DIAERESISpMEGAa WITH TITLOpTcPALOCHKAhEa WI",
  "TH DESCENDERjMIDDLE HOOKsSIdQAcREVERSED DZEdTSEdYUcZEkHAcOUND OMEGAgED VEkSCHWAa WITH DIAERESIStEMISOFT SIGNmHAbCH",
  "AdHAa WITH DESCENDERrORT Ia WITH TAILlUfWEdOFT DEcELbMcSIGNiTRAIGHT Ua WITH STROKEwTALL HARD SIGNjTEcYAThCHEdEa WI",
  "TH DESCENDERjMIDDLE HOOKsHREE-LEGGED TEoSEbHEcSEcWEdWEdUa WITH DIAERESISiOUBLE ACUTEmMACRONmKaRAINIAN IElNBLENDED ",
  "UKmVEcWEbIDE EShYAaEbTcERUa WITH BACK YERiDIAERESISsIbNbUcZEa WITH DESCENDERiIAERESISpMLYAfHEa WITH BREVEfDESCENDE",
  "RiIAERESISqWEkIGATURE A IEeEN GHEgTE TSEvTHOUSANDS SIGNxDAGGERa KNIFEfWITH LEFT GUARDkRIGHT GUARDvLET SYMBOLkNCERd",
  "GOdRK SHADEeUNGLASSESnSH SYMBOLgWITH LEFT UPTURNrED LOW LINEiOVERLINEiTRIANGLE-HEADED RIGHTWARDS ARROWzmTA LINK ES",
  "CAPEpC1b2b3b4bScEAF PERSONjCIDUOUS TREEkMAL EXPONENT SYMBOLpSEPARATOR KEY SYMBOLzREASE FONT SIZE SYMBOLxERcGREE CE",
  "LSIUShFAHRENHEITkSIGNjLaETEdIVERY TRUCKlTA EQUAL TOmNTISTRY SYMBOL LIGHT DOWN AND HORIZONTALa WITH CIRCLEgTRIANGLE",
  "iWAVEzeUP AND HORIZONTALa WITH CIRCLEgTRIANGLEiWAVEzcVERTICAL AND BOTTOM LEFTeRIGHTmTOP LEFTeRIGHTjWAVEiWITH CIRCL",
  "EgTRIANGLEzsPARTMENT STOREoRELICT HOUSE BUILDINGvSCENDING NODEmERET CAPITAL LETTER AYcBEEdCHEEeDEEdEFbLbMbNaGcRbSa",
  "HcTHcWcGAYdHbJEEdKAYdLONG AaHcEbIbOaOhOIbWcPEEdSHORT AaHcEbIbOaOiTEEcHEEeVEEdWUcYEEdZEEcHEEtSMALL LETTER AYcBEEdCH",
  "EEeDEEdEFbLbMbNaGcRbSaHcTHcWcGAYdHbJEEdKAYdLONG AaHcEbIbOaOhOIbWcPEEdSHORT AaHcEbIbOaOiTEEcHEEeVEEdWUcYEEdZEEcHEEu",
  "Ta ISLANDkKTOP COMPUTERiWINDOWmVANAGARI ABBREVIATION SIGNqCUTE ACCENTmCARETfDANDAeIGIT EIGHTfFIVEdOUReNINEeONEdSEV",
  "ENeIXdTHREEeWOdZEROjOUBLE DANDAmGAP FILLERjRAVE ACCENTmHEADSTROKEkJAIN OMhLETTER AaAbIbUbWbYcBAbBAcHAdCAaNDRA AbEb",
  "OhHAdDAbDAbDAbHAdHAdHAdEbFAcGAbGAcHAbHAdLOTTAL STOPmHAbEAVY YAiIaIcJAbHAcJAdKAbHAbHAeLAbLAbLAeMAaRWARI DDAlNAbGAcN",
  "AbNAdYAdOaEbOEdPAbHAdQAcRAbHAcRAdSAbHAbORT AbEbOgSAdTAbHAcTAbHAeUaEbUaEdVAbOCALIC LaLcRaRkYAbYAdZAbHAkOMcSIGN ANUS",
  "VARAhVAGRAHAiCANDRABINDUa AVAGRAHAiTHREEeWOdVIRAMAsDOUBLE CANDRABINDU VIRAMAzHIGH SPACING DOTqINVERTED CANDRABINDU",
  "uNUKTAfPUSHPIKAiSIDDHAMgPACING CANDRABINDUtVIRAMAeSARGAlTRESS SIGN ANUDATTAiUDATTAsVOWEL SIGN AAbIbUbWbYcCANDRA Eb",
  "LONG EgOiEbIaIcOaEbOEdPRISHTHAMATRA EpSHORT EbOhUaEbUaEdVOCALIC LaLcRaRzeICE CONTROL FOUReONEdSTRINGgTHREEeWOrIAER",
  "ESISgMETER SIGNjOND OPERATORiSHAPE WITH A DOT INSIDExTARGETgWITH BOTTOM HALF BLACKrLEFT HALF BLACKpRIGHT HALF BLAC",
  "KqTOP HALF BLACKzE FACE-1b2b3b4b5b6hSEL LOCOMOTIVEpFFERENCE BETWEENqGIT EIGHTa COMMAfFULL STOPpFIVEa COMMAfFULL ST",
  "OPnOURa COMMAfFULL STOPoNINEa COMMAfFULL STOPoONEa COMMAfFULL STOPnSEVENa COMMAfFULL STOPoIXa COMMAfFULL STOPnTHRE",
  "Ea COMMAfFULL STOPoWOa COMMAfFULL STOPnZEROa COMMAfFULL STOPrRAM FOR EARTHaLY HEAVENfUMANnGREATER YANGdINlHEAVENLY",
  " EARTHnUMAN EARTHlLESSER YANGdINtMENSION ORIGINoNGBAT CIRCLED SANS-SERIF DIGIT EIGHTfFIVEdOUReNINEeONEdSEVENeIXdTH",
  "REEeWOdZEROkNUMBER TENzeNEGATIVE CIRCLED DIGIT EIGHTfFIVEdOUReNINEeONEdSEVENeIXdTHREEeWOjNUMBER TENkSANS-SERIF DIG",
  "IT EIGHTfFIVEdOUReNINEeONEdSEVENeIXdTHREEeWOdZEROkNUMBER TENztRECT CURRENT SYMBOL FORM TWOxHITiSABLED CARiPPOINTED",
  " BUT RELIEVED FACErFACEoCONTINUOUS UNDERLINE SYMBOLzcGUISED FACEmTTO MARKiVES AKURU DIGIT EIGHTfFIVEdOUReNINEeONEd",
  "SEVENeIXdTHREEeWOdZEROjOUBLE DANDAmEND OF TEXT MARKqGAP FILLERkINITIAL RAkLETTER AaAcBAbHAdCAbHAdDAbDAbHAdHAdEbGAb",
  "HAdHAcIaIcJAcKAbHAdLAbLAdMAcNAbGAcNAcYAdObPAbHAdRAcSAbHAcSAdTAbHAcTAdUaUcVAcYAbYAdZAjMEDIAL RAcYAjPREFIXED NASAL S",
  "IGNtSIGN ANUSVARAiCANDRABINDUlHALANTAhNUKTAkVIRAMAfOWEL SIGN AAbIcEbIaIcObUaUwIDESdNG MASKhSION SIGNdLASHfTIMESlOR",
  "CE SYMBOLmYA LAMPhZZY FACEeSYMBOLlLEcNA DOUBLE HELIXpO NOT LITTER SYMBOLsCUMENTa WITH PICTUREhTEXTa AND PICTUREzdD",
  "OcES NOT CONTAIN AS MEMBERgNORMAL SUBGROUPa OR EQUALzkDIVIDEa WITH REVERSED NEGATION SLASHzkFORCEfPRECEDEa OR EQUA",
  "LoOVEfSUCCEEDa OR EQUALxGa FACEfRA ABBREVIATION SIGNrLETTER AaAbIbUcBAbHAdCAbHAdDAbDAbHAdHAdEbGAbHAdHAcIaIcJAbHAdK",
  "AbHAdLAcMAcNAbGAcNAcYAdObPAbHAdRAbRAdSAbHAcSAdTAbHAcTAbHAeUaUcVAcYAjSIGN ANUSVARAiNUKTAfVIRAMAeSARGAmVOWEL SIGN AA",
  "bIbUcEbIaIcObUaUcVOCALIC RaRzLLAR SIGNiPHINfMINO TILE HORIZONTAL BACKf-00-00b1b2b3b4b5b6e1-00b1b2b3b4b5b6e2-00b1b2",
  "b3b4b5b6e3-00b1b2b3b4b5b6e4-00b1b2b3b4b5b6e5-00b1b2b3b4b5b6e6-00b1b2b3b4b5b6qVERTICAL BACKf-00-00b1b2b3b4b5b6e1-00",
  "b1b2b3b4b5b6e2-00b1b2b3b4b5b6e3-00b1b2b3b4b5b6e4-00b1b2b3b4b5b6e5-00b1b2b3b4b5b6e6-00b1b2b3b4b5b6yNG SIGNhORcT ABO",
  "VEfMINUSfOPERATORiPLUSfTED CIRCLEfROSSfFENCEfLINE FACEjOBELOSgRIGHT-POINTING ANGLEuSOLIDUSgQUAREgTRANSPOSITION MAR",
  "KERzUBLE ACUTE ACCENTmCIRCLED DIGIT EIGHTfFIVEdOUReNINEeONEdSEVENeIXdTHREEeWOjNUMBER TENrOLON EQUALkURLY LOOPkDAGG",
  "ERfOWN TACKjEXCLAMATION MARKqHIGH-REVERSED-9 QUOTATION MARKzeYPHENgINTEGRALeRSECTIONmLEFT ARC GREATER-THAN BRACKET",
  "zdOGICAL ANDdORiW LINEf-9 QUOTATION MARKqREVERSED-9 QUOTATION MARKzeNESTED GREATER-THANmLESS-THANa WITH UNDERBARzf",
  "OBLIQUE HYPHENoPLUSdRECEDESgIMEa QUOTATION MARKuQUESTION MARKnRIGHT ARC LESS-THAN BRACKETzcSOLIDUS OPERATORpQUARE ",
  "INTERSECTIONmUNIONlTACKED COMMAlROKE NOT SIGNoUBSETeCCEEDSgPERSETgSPENSION MARKpUNIONeP TACKhVERTICAL BARa DOUBLE ",
  "LEFT TURNSTILEoRIGHT TURNSTILEwLEFT TURNSTILEsLINEnWAVY OVERLINEo-ENDED MULTIMAPoLINE EQUAL TO OR GREATER-THANmLES",
  "S-THANvSLANTED EQUAL TO OR GREATER-THANmLESS-THANvGREATER-THAN OR EQUAL TOyLESS-THAN OR EQUAL TOzjSTRUCK CAPITAL C",
  "bGAMMAfHbNbPaIcQbRbZjITALIC CAPITAL DjSMALL DbEbIbJoN-ARY SUMMATIONpSMALL GAMMAfPIqD FEMALE SIGNlMALE SIGNjSYMBOLl",
  "GHNUTgVE OF PEACElWN ARROWHEADjFISH TAILjRIGHT DIAGONAL ELLIPSISxTACKa WITH CIRCLE BELOWx-POINTING RED TRIANGLEmSM",
  "ALL RED TRIANGLEsTRIANGLE WITH LEFT HALF BLACKpRIGHT HALF BLACKzpWARD FACING HOOKa WITH DOTnNOTCHED HOOKa WITH DOT",
  "zeS ANCORAfRROWa AND RIGHT ONE EIGHTH BLOCKzbFROM BARiLEFTWARDS OF UPWARDS ARROWzbTO BARgWITH CORNER LEFTWARDSqDOU",
  "BLE STROKEnEQUILATERAL ARROWHEADvHORIZONTAL STROKErLARGE TRIANGLE ARROWHEADyMEDIUM TRIANGLE ARROWHEADzNOTCHED TAIL",
  "mSMALL EQUILATERAL ARROWHEADvTRIANGLE ARROWHEADyTIP LEFTWARDSjRIGHTWARDSzBLACK ARROWfCIRCLED WHITE ARROWzCOMPRESSE",
  "D ARROWqDASHED ARROWlOUBLE ARROWmFINGER-POST ARROWrHARPOON WITH BARB LEFT BESIDE DOWNWARDS HARPOON WITH BARB RIGHT",
  "ziUPWARDS HARPOON WITH BARB RIGHTznFROM BARiTO BARhWARDSjRIGHT FROM BARiTO BARhWARDSzcEAVY ARROWfCOMPRESSED ARROWw",
  "PAIRED ARROWSnQUADRUPLE ARROWpROCKETgSANS-SERIF ARROWpQUARED ARROWnTRIANGLE ARROWHEADk-HEADED ARROWa LEFTWARDS OF ",
  "UPWARDS TRIANGLE-HEADED ARROWzrTO BARgWITH BOLD SHAFTkDOUBLE HORIZONTAL STROKEyHEAVY SHAFTlLONG TIP LEFTWARDSjRIGH",
  "TWARDStMEDIUM SHAFTmNARROW SHAFTmVERY HEAVY SHAFTzcDASHED ARROWmPAIRED ARROWSnZIGZAG ARROWzPLE ARROWlWO HEADED ARR",
  "OWn-HEADED ARROW WITH TRIANGLE ARROWHEADSzqWHITE ARROWa WITHIN TRIANGLE ARROWHEADzmZIGZAG ARROWvRACHMA SIGNjFTING ",
  "POINT RIGHTWARDS ARROWzdGONa FACEjESSdIVE SLOW SIGNnOMEDARY CAMELmOLING FACEkP OF BLOODjLETfUM WITH DRUMSTICKStUCK",
  "cMPLINGgPLOYAN AFFIX ATTACHED E HOOKgI HOOKgLEFT-TO-RIGHT SECANTuSECANTgTAILcNGENTa HOOKvHIGH ACUTEfCIRCLEgDOTdGRA",
  "VEfLINEdONG GRAVEkTIGHT ACUTElVERTICALa SECANTpWAVEjLEFT HORIZONTAL SECANTvOW ACUTEeRROWfCIRCLEgDOTdGRAVEfLINEdONG",
  " GRAVEkTIGHT ACUTElVERTICALa SECANTpWAVEiMID HORIZONTAL SECANTrVERTICAL SECANTtRIGHT HORIZONTAL SECANTzeDOUBLE MAR",
  "KlLETTER AaOUdBbDa ScHcEaEbUcFa NdGa R SfHaLcIaEcJa Ma SdNa SdSa WITH DOTkWITH DOTaS INSIDE AND ABOVEzdKa MbR SeKc",
  "LaHbONG IbUgMa Na SdSbWITH DOTkNa Ma SdSbWITH DOTjASAL AbIbObUhOaAbOHcUbWcPa NcERNIN AMbNjRa ScHbOMANIAN IbUkSa Ja",
  " SdKa RdMbNbPa RdSbTa RdWITH DOTa BELOWpHORT IgLOAN ANcDHcEEbHbNcJbONbWcUhTa R SdScHcUa NcHbIcVaOCALIC MjWa RcAbEI",
  "cHbIbOaWdXaWcYEjPUNCTUATION CHINOOK FULL STOPzeSIGN O WITH CROSSrTHICK LETTER SELECTORzeVDdE-MAIL SYMBOLmAGLEdRa O",
  "F MAIZEfRICEhWITH HEARING AIDrTHa GLOBE AMERICAShSIA-AUSTRALIAoEUROPE-AFRICAsROUNDkST SYRIAC CROSSqDITORIAL CORONI",
  "SqGGbYPTIAN HIEROGLYPH A001b2b3b4b5aAc6aAbBc7b8b9c10b1b2b3b4aAc5b6b7aAc8b9c20b1b2b3b4b5b6b7b8b9c30b1b2aAc3b4b5b6b7",
  "b8b9c40aAc1b2aAc3aAc4b5aAc6b7b8b9c50b1b2b3b4b5b6b7b8b9c60b1b2b3b4b5b6b7b8b9c70dA001b2b3b4b5b6b7aAbBc8b9c10b1b2b3b4",
  "b5b6b7b8b9c20b1b2b3b4b5b6b7b8b9c30b1b2fB001b2b3b4b5aAc6b7b8b9dEGIN SEGMENTnC001b2aAbBbCc3b4b5b6b7b8b9c10aAc1b2b3b4",
  "b5b6b7b8b9c20b1b2b3b4eD001b2b3b4b5b6b7b8aAc9c10b1b2b3b4b5b6b7b8b9c20b1b2b3b4b5b6b7aAc8b9c30b1aAc2b3b4aAc5b6b7b8b9c",
  "40b1b2b3b4b5b6aAc7b8aAc9c50aAbBbCbDbEbFbGbHbIc1b2aAc3b4aAc5b6b7b8b9c60b1b2b3b4b5b6b7aAbBbCbDbEbFbGbHfE001b2b3b4b5b",
  "6b7b8aAc9aAd10b1b2b3b4b5b6aAc7aAc8b9c20aAc1b2b3b4b5b6b7b8aAc9c30b1b2b3b4aAc6b7b8dND SEGMENTlF001aAc2b3b4b5b6b7b8b9",
  "c10b1b2b3aAc4b5b6b7b8b9c20b1aAc2b3b4b5b6b7b8b9c30b1aAc2b3b4b5b6b7aAc8aAc9c40b1b2b3b4b5aAc6aAc7aAc8b9c50b1aAbBbCc2b",
  "3eG001b2b3b4b5b6aAc7aAbBc8b9c10b1aAc2b3b4b5b6b7b8b9c20aAc1b2b3b4b5b6aAc7b8b9c30b1b2b3b4b5b6aAc7aAc8b9c40b1b2b3aAc4",
  "b5aAc6b7b8b9c50b1b2b3b4eH001b2b3b4b5b6aAc7b8dORIZONTAL JOINERrI001b2b3b4b5aAc6b7b8b9aAd10aAc1aAc2b3b4b5dNSERT AT B",
  "OTTOM ENDdSTARTmTOP ENDdSTARTtK001b2b3b4b5b6b7b8eL001b2aAc3b4b5b6aAc7b8eM001aAbBc2b3aAc4b5b6b7b8b9c10aAc1b2aAbBbCb",
  "DbEbFbGbHc3b4b5aAc6aAc7aAc8b9c20b1b2aAc3b4aAc5b6b7b8aAc9c30b1aAc2b3aAbBc4b5b6b7b8b9c40aAc1b2b3b4eN001b2b3b4b5b6b7b",
  "8b9c10b1b2b3b4b5b6b7b8aAbBc9c20b1b2b3b4b5aAc6b7b8b9c30b1b2b3aAc4aAc5aAc6b7aAc8b9c40b1b2dL001b2b3b4b5aAc6b7b8b9c10b",
  "1b2b3b4b5b6b7aAc8b9c20eU001b2b3b4b5b6b7b8b9c10aAc1aAc2b3b4b5b6b7b8aAc9c20b1b2aAgO001aAc2b3b4b5aAc6aAbBbCbDbEbFc7b8",
  "b9c10aAbBbCc1b2b3b4b5b6b7b8b9aAd20aAc1b2b3b4aAc5aAc6b7b8b9aAd30aAc1b2b3aAc4b5b6aAbBbCbDc7b8b9c40b1b2b3b4b5b6b7b8b9",
  "c50aAbBc1dVERLAY MIDDLEoP001aAc2b3aAc4b5b6b7b8b9c10b1eQ001b2b3b4b5b6b7eR001b2aAc3aAbBc4b5b6b7b8b9c10aAc1b2b3b4b5b6",
  "aAc7b8b9c20b1b2b3b4b5b6b7b8b9eS001b2aAc3b4b5b6aAc7b8b9c10b1b2b3b4aAbBc5b6b7aAc8b9c20b1b2b3b4b5b6aAbBc7b8b9c30b1b2b",
  "3b4b5aAc6b7b8b9c40b1b2b3b4b5b6eT001b2b3aAc4b5b6b7aAc8aAc9aAd10b1aAc2b3b4b5b6aAc7b8b9c20b1b2b3b4b5b6b7b8b9c30b1b2aA",
  "c3aAc4b5b6eU001b2b3b4b5b6aAbBc7b8b9c10b1b2b3b4b5b6b7b8b9c20b1b2b3aAc4b5b6b7b8b9aAd30b1b2aAc3b4b5b6b7b8b9c40b1b2eV0",
  "01aAbBbCbDbEbFbGbHbIc2aAc3b4b5b6b7aAbBc8b9c10b1aAbBbCc2aAbBc3b4b5b6b7b8b9c20aAbBbCbDbEbFbGbHbIbJbKbLc1b2b3aAc4b5b6",
  "b7b8aAc9aAd30aAc1aAc2b3aAc4b5b6b7aAc8b9c40aAeERTICAL JOINERpW001b2b3aAc4b5b6b7b8b9aAd10aAc1b2b3b4aAc5b6b7aAc8aAc9c",
  "20b1b2b3b4aAc5eX001b2b3b4aAbBc5b6aAc7b8aAfY001aAc2b3b4b5b6b7b8eZ001b2aAbBbCbDc3aAbBc4aAc5aAc6b7b8b9c10b1b2b3b4b5aA",
  "bBbCbDbEbFbGbHbIc6aAbBbCbDbEbFbGbHyIGHT PETALLED OUTLINED BLACK FLORETTEzgOINTED BLACK STARkPINWHEEL STARnRECTILIN",
  "EAR BLACK STARzfSPOKED ASTERISKpTEARDROP-SPOKED PROPELLER ASTERISKzkH NOTEkJECT SYMBOLlLBASAN LETTER AbBEcCEbHEdDE",
  "bHEdEaIcFEcGEbHAMMAeEcJEdHEcIbJEcKEbHEdLEbLEdMEcNAbDEcEbJEdObPEcQEcREbREdSEbHEdTEbHEdUbVEcXEcYbZEbHEqECTRIC ARROWf",
  "LIGHT BULBkPLUGeTORCHgAL INTERSECTIONuMENT OFa OPENING DOWNWARDSjUPWARDSpWITH DOT ABOVEjLONG HORIZONTAL STROKEwOVE",
  "RBARhTWO HORIZONTAL STROKESwUNDERBARiVERTICAL BAR AT END OF HORIZONTAL STROKEzzdPHANTfVATORgFbYMAIC LETTER ALEPHeY",
  "INeBETHeDALETHgGIMELfHEaTHeKAPHeLAMEDHgMEMdNUNdPEcQOPHeRESHeSADHEdMEKHfHINeTAWcETHeWAWdYODHeZAYINlIGATURE ZAYIN-YO",
  "DHzbM DASHeQUADeSPACEgOJI COMPONENT BALDeCURLY HAIRkRED HAIRiWHITE HAIRuMODIFIER FITZPATRICK TYPE-1-2d3b4b5b6zgPHA",
  "SIS SYMBOLmTY DOCUMENTiNESTdOTEa PADbGEjPAGEaSfSETa WITH LEFT ARROW ABOVEqOVERBARhRIGHT ARROW ABOVErSMALL CIRCLE A",
  "BOVEzhN DASHeQUADeSPACEgD OF GUARDED AREAmLINEeMEDIUMgPROOFcTECTED AREAoSELECTED AREAnTEXTdRANSMISSIONa BLOCKvWITH",
  " LEFTWARDS ARROW ABOVEzdQaUIRYfTER SYMBOLkVELOPEa WITH DOWNWARDS ARROW ABOVEvLIGHTNINGwOLbMbTcPAcQUAL AND PARALLEL",
  " TOpTO BY DEFINITIONnOR GREATER-THANmLESS-THANjPRECEDESiSUCCEEDSpS COLONfSIGNa ABOVE LEFTWARDS ARROWpPLUS SIGNjRIG",
  "HTWARDS ARROWqTILDE OPERATORtND SLANTED PARALLELa WITH TILDE ABOVEzmWITH BUMPY ABOVElDOT BELOWjINFINITY BELOWoTWO ",
  "DOTS ABOVE AND TWO DOTS BELOWzsWITH ASTERISKrIANGULAR TOkVALENT TOcWITH FOUR DOTS ABOVEzfRASE TO THE LEFTeRIGHTqIS",
  " FORM ONEdTWOlROR-BARRED BLACK CIRCLEgDIAMONDhSQUAREmWHITE CIRCLEgDIAMONDhSQUAREySAbCaAPEeTIMATED SYMBOLiSiTBbHIOP",
  "IC COLONdMBINING GEMINATION AND VOWEL LENGTH MARKvMARKpVOWEL LENGTH MARKyMAfDIGIT EIGHTfFIVEdOUReNINEeONEdSEVENeIX",
  "dTHREEeWOjFULL STOPjNUMBER EIGHTYgFIFTYeORTYfHUNDREDhNINETYgSEVENTYgIXTYfTENa THOUSANDlHIRTYfWENTYnPARAGRAPH SEPAR",
  "ATORsREFACE COLONnQUESTION MARKnSECTION MARKkMICOLONiYLLABLE BAaAcBAaAcEaEcIbObUcEaEcIbOaAcUbWAbEaEcIdCAaAcCAaAcEa",
  "EcHAaAcEaEcHAaAcEaEcIbObUcIbObUcIbObUcEaEcHAaAcEaEcIbOaAcUbWAdIbOaAcUbWAdDAaAcDAaAcEaEcHAAcEaEcIbObUcIbOaAcUbWAdEa",
  "EcIbOaAcUbWAcZAAcEaEcIbObUdFAaAcEaEcIbObUbWAbEaEcIcYAdGAaAcEaEcGAaAcEaEcIbObUbWAaAcEaEcIdIbLOTTAL AaAcEaEcIbOaAcUb",
  "WAjOaAcUaRAGE BWEEcIdFWEEcIdGWEaEcIdHHWAeKWEaEcIdMWEEcIdPWEEcIdQWEaEcIjWAaAcEaEcIcYAaAcEaEcIbObUdHAaAcEaEcHAaAcEaE",
  "cIbObUbWAbEaEcIcYAaAcEaEcIbObUdIbOaAcUcJAaAcEaEcIbOaAcUbWAdKAaAcEaEcIbOaAcUbWAaAcEaEcIcXAaAcEaEcIbObUbWAaAcEaEcIdY",
  "AaAcEaEcIbObUdLAaAcEaEcIbOaAcUbWAdMAaAcEaEcIbOaAcUbWAbEaEcIcYAdNAaAcEaEcIbOaAcUbWAcYAaAcEaEcIbOaAcUbWAePAaAcEaEcHA",
  "aAbRYNGEAL AaAcEaEcIbObUkEaEcIbOaAcUbWAdIbOaAcUbWAbEaEcIdQAaAcEaEcHAaAcEaEcIbObUbWAaAcEaEcIdIbOaAcUbWAaAcEaEcIcYAa",
  "AcEaEcIbObUdRAaAcEaEcIbOaAcUbWAcYAdSAaAcEaBATBEIT BWAdFWAdMWAdPWAlEcHAaAcEaEcIbOaAcUbWAdIbOaAcSAaAcEaEcIbObUcUbWAc",
  "ZAaAcEaEcIbObUbWAeTAaAcEaEcHAaAcEaEcIbOaAcUbWAdIbOaAcSAaAcEaEcIbObUbWAdTHAAcEaEcIbObUdUbWAcZAaAcEaEcIbOaAcUdVAaAcE",
  "aEcIbObUbWAdWAaAcEaEcIbOaAcUcXAaAcEaEcIbOaAcUbWAaAcEaEcIcYAaAcEaEcIbObUdYAaAcEaEcIbOaAcUcZAaAcEaEcHAaAcEaEcIbObUbW",
  "AdIbOaAcUbWAcZAaAcEaEcIbObUmTONAL MARK CHIRETgDERETa-HIDETkIFATfHIDETfKENATeURTeRIKRIKgSHORT RIKRIKmYIZETqWORDSPAC",
  "EqXcULER CONSTANTmRO SIGNf-CURRENCY SIGNoPEAN CASTLEgPOST OFFICEtVERGREEN TREEnXCESSdLAMATION MARKeQUESTION MARKxP",
  "RESSIONLESS FACErTENDED ARABIC-INDIC DIGIT EIGHTfFIVEdOUReNINEeONEdSEVENeIXdTHREEeWOdZEROzeRATERRESTRIAL ALIENsEME",
  "LY HEAVY FIVE SPOKED ASTERISKuGREEK CROSSlSALTIREgIX SPOKED ASTERISKtWHITE CIRCLEgSQUAREzcYEaGLASSEShSeFACE HOLDIN",
  "G BACK TEARSsMASSAGEhPALMeSAVOURING DELICIOUS FOODxCREAMING IN FEARrTHROWING A KISSpWITH COLD SWEATiWBOY HATkDIAGO",
  "NAL MOUTHoFINGER COVERING CLOSED LIPSzcHEAD-BANDAGEmLOOK OF TRIUMPHpMEDICAL MASKlONOCLEhNO GOOD GESTUREpOK GESTURE",
  "jNE EYEBROW RAISEDrPEN EYES AND HAND OVER MOUTHyMOUTHa AND COLD SWEAToVOMITINGtPARTY HORN AND PARTY HATxEEKING EYE",
  "kLEADING EYESnROLLING EYESmSTUCK-OUT TONGUEa AND TIGHTLY-CLOSED EYEStWINKING EYEzhTEARS OF JOYlHERMOMETERlUNEVEN E",
  "YES AND WAVY MOUTHzcOUT MOUTHpSIMILE SIGNlTORYfIRYdLAFELeLEN LEAFhING DIAGONAL CROSSING NORTH EAST ARROWqRISING DI",
  "AGONALyIN WHITE CIRCLE IN BLACK SQUAREzvMILYeRSI SYMBOLkTHER CHRISTMASoX ICONeMACHINEkEARFUL FACEjTHERfMALE SIGNiI",
  "NINE ORDINAL INDICATORyNCEReRRIS WHEELiYeFbIELD HOCKEY STICK AND BALLzGURE DASHeSPACEkLE CABINEThFOLDERgSEPARATORl",
  "M FRAMESgPROJECTORmNITE PART INTEGRALsREa ENGINEfXTINGUISHERnCRACKERhWORK SPARKLERjSgST PLACE MEDALlQUARTER MOONa ",
  "SYMBOLgWITH FACEwSTRONG ISOLATEsSHa CAKE WITH SWIRL DESIGNxEYEdING POLE AND FISHsTED HAND SIGNoVE DOT MARKePUNCTUA",
  "TIONtLAG IN HOLEjMINGOfT SHOEfBREADfNESSgEUR-DE-LISjXED BICEPSlOPPY DISKiRAL HEARTjWERa PLAYING CARDSmUNCTUATION M",
  "ARKvUSHED FACEkYaING DISCeENVELOPEiSAUCERmOGaGYdLDEReNDUEeOTaPRINTSiR ALLeCESdK AND KNIFEa WITH PLATEvED PARAGRAPH",
  "OSoINGeM FEEDgTUNE COOKIEmUNTAINfR BALLOON-SPOKED ASTERISKxCLUB-SPOKED ASTERISKtORNER ARROWS CIRCLING ANTICLOCKWIS",
  "EzlDOT MARKePUNCTUATIONpLEAF CLOVERlPOINTED BLACK STARsTEARDROP-SPOKED ASTERISKz-PER-EM SPACEnTH ROOTjX FACEhRACTI",
  "ON NUMERATOR ONEnSLASHlME WITH AN XePICTUREhTILESoEEZING FACEkNCH FRANC SIGNiIESkIED SHRIMPkOG FACEgNT-FACING BABY",
  " CHICKrTILTED SHADOWED WHITE RIGHTWARDS ARROWzqWNaING FACE WITH OPEN MOUTHzdSaIcUEL PUMPhLL BLOCKfMOON SYMBOLgWITH",
  " FACEoOUTER JOINkSTOPfWIDTH AMPERSANDiPOSTROPHEjSTERISKiBROKEN BARkCENT SIGNiIRCUMFLEX ACCENTqOLONdMMAbERCIAL ATnD",
  "IGIT EIGHTfFIVEdOUReNINEeONEdSEVENeIXdTHREEeWOdZEROjOLLAR SIGNlEQUALS SIGNkXCLAMATION MARKqFULL STOPjGRAVE ACCENTk",
  "EATER-THAN SIGNrHYPHEN-MINUSmLATIN CAPITAL LETTER AbBbCbDbEbFbGbHbIbJbKbLbMbNbObPbQbRbSbTbUbVbWbXbYbZqSMALL LETTER",
  " AbBbCbDbEbFbGbHbIbJbKbLbMbNbObPbQbRbSbTbUbVbWbXbYbZtEFT CURLY BRACKETnPARENTHESISlSQUARE BRACKEToWHITE PARENTHESI",
  "SuSS-THAN SIGNnOW LINEiMACRONgNOT SIGNhUMBER SIGNlPERCENT SIGNlLUS SIGNiOUND SIGNkQUESTION MARKlOTATION MARKoREVER",
  "SE SOLIDUSoIGHT CURLY BRACKETnPARENTHESISlSQUARE BRACKEToWHITE PARENTHESISxSEMICOLONiOLIDUShTILDEfVERTICAL LINEnWO",
  "N SIGNiYEN SIGNqNCTION APPLICATIONrERAL URNjSEdVS1b2b3b4eGAME DIEgRLICfEARa WITH HANDLESiOUT HUBoM STONEgINIeNIEdO",
  "METRIC PROPORTIONlALLY EQUAL TOfIVALENT TOyRGIAN CAPITAL LETTER AENcNcBANdCANcHARcINdILdDONdENcGANcHANeHAEbRcEbIEc",
  "OEdINcJHANdILdKANcHAReLASdMANdNARdONcPARcHAReQARdRAEdSANcHINeTANbRdUNcVINdWEcXANdYNcZENcHARtLETTER AENcINcNcBANdCA",
  "NcHARcINdILdDONdELIFIeNcFIcGANcHANeHAEbRaD SIGNiEbIEcOEdINcJHANdILdKANcHAReLABIAL SIGNjSdMANdNARdONcPARcHAReQARdRA",
  "EdSANcHINeTANbRcURNED GANkUNcVINdWEcXANdYNcZENcHARlMTAVRULI CAPITAL LETTER AENcINcNcBANdCANcHARcINdILdDONdELIFIeNc",
  "FIcGANcHANeHAEbRaD SIGNiEbIEcOEdINcJHANdILdKANcHAReLABIAL SIGNjSdMANdNARdONcPARcHAReQARdRAEdSANcHINeTANbRcURNED GA",
  "NkUNcVINdWEcXANdYNcZENcHARzdPARAGRAPH SEPARATORtSMALL LETTER AENcNcBANdCANcHARcINdILdDONdENcGANcHANeHAEbRcEbIEcOEd",
  "INcJHANdILdKANcHAReLASdMANdNARdONcPARcHAReQARdRAEdSANcHINeTANbRdUNcVINdWEcXANdYNcZENcHARyRMAN PENNY SIGNpTA MARKiH",
  "OSTeIMEL SYMBOLkRAFFE FACEjLaS SYMBOLlLAGOLITIC CAPITAL LETTER AZUdBIG YUSgUKYeCAUDATE CHRIVInHRIVIgDJERVIfOBROeZE",
  "LOfFITAdRITUfGLAGOLIhHERUeIaNITIAL IZHElOTATED BIG YUShSMALL YUSqZHEbITSAhKAKOeLATINATE MYSLITEpJUDIJEhMYSLITEhNAS",
  "HIfONUcTUdPEbOKOJIgRITSIfSHAbTAaPICgLOVOeMALL YUSa WITH TAILsPIDERY HAkTROKUTASTI AlSIcVRIDOgUKUdVEDEeYATIdERIbUcS",
  "TUeObUcZEMLJAfHIVETEwSMALL LETTER AZUdBIG YUSgUKYeCAUDATE CHRIVInHRIVIgDJERVIfOBROeZELOfFITAdRITUfGLAGOLIhHERUeIaN",
  "ITIAL IZHElOTATED BIG YUShSMALL YUSqZHEbITSAhKAKOeLATINATE MYSLITEpJUDIJEhMYSLITEhNASHIfONUcTUdPEbOKOJIgRITSIfSHAb",
  "TAaPICgLOVOeMALL YUSa WITH TAILsPIDERY HAkTROKUTASTI AlSIcVRIDOgUKUdVEDEeYATIdERIbUcSTUeObUcZEMLJAfHIVETEzdSS OF M",
  "ILKlEICH STARKkOBE WITH MERIDIANSrVESdWING STARlOAL NETfTcGGLESfLFEReRILLAfTHIC LETTER AHSAdIHVUSgBAIRKANhDAGSeEIS",
  "dFAIHUfGIBAeHAGLdWAIRfIGGWSeUJAeJERdKUSMAfLAGUSfMANNAfNAUTHSfINE HUNDREDiTYgOTHALfPAIRTHRAiQAIRTHRAiRAIDAfSAUILfTE",
  "IWSeHIUTHgURUSeWINJAsRADUATION CAPlNTHA AU LENGTH MARKoLETTER AaAbIbUcBAbHAdCAbHAdDAbDAbHAdHAdEEcGAbHAdHAcIaIcJAbH",
  "AdKAbHAdLAbLAdMAcNAbGAcNAcYAdOOcPAbHAdRAcSAbHAcSAdTAbHAcTAbHAeUaUcVAbEDIC ANUSVARAiDOUBLE ANUSVARAuOCALIC LaLcRaRk",
  "YAjOMcSIGN ANUSVARAhVAGRAHAiCANDRABINDUkOMBINING ANUSVARA ABOVEyNUKTAfPLUTAfVIRAMAeSARGAmVOWEL SIGN AAbIbUcEEcIaIc",
  "OOcUaUcVOCALIC LaLcRaRzbPESdVE ACCENTkEATER-THAN ABOVE DOUBLE-LINE EQUAL ABOVE LESS-THANziLESS-THAN ABOVE DOUBLE-L",
  "INE EQUALziRIGHTWARDS ARROWqSIMILAR ABOVE LESS-THANpOR EQUALpLANTED EQUAL ABOVE LESS-THAN ABOVE SLANTED EQUALzzeND",
  " NOT APPROXIMATEpSINGLE-LINE NOT EQUAL TOzdBESIDE LESS-THANpUT NOT EQUAL TOfIVALENT TOvCLOSED BY CURVEa ABOVE SLAN",
  "TED EQUALzkEQUAL TO OR LESS-THANvOR APPROXIMATElEQUAL TOfIVALENT TOnLESS-THANjSLANTED EQUAL TOa WITH DOT ABOVEa LE",
  "FTkINSIDEzjVER EQUAL TOjLAPPING LESS-THANvSIGNeWITH CIRCLE INSIDEnDOTdQUESTION MARK ABOVEzjEK ACROPHONIC ATTIC FIF",
  "TYa STATERShTALENTSgHOUSANDa STATERSuVEa HUNDREDa STATERShTALENTSpSTATERShTALENTSgHOUSANDa TALENTSvONE DRACHMAhHAL",
  "FdUNDRED STATERShTALENTSpQUARTERhTHOUSAND STATERShTALENTSuTEN MNASeSTATERShTALENTSgHOUSAND STATERSzbCARYSTIAN FIVE",
  " HUNDREDvYRENAIC TWO DRACHMASvDELPHIC FIVE MNASrEPIDAUREAN FIVE HUNDREDmTWOa DRACHMASxHERAEUM ONE PLETHRONrMIONIAN",
  " FIFTYfONEdTENoMESSENIAN TENnNAXIAN FIVE HUNDREDtSTRATIAN FIFTY MNAStTHESPIAN FIFTYdVE HUNDREDhTHOUSANDnONEa HUNDR",
  "EDhTHOUSANDmTENcHIRTYeREE HUNDREDmWOlROEZENIAN FIFTYa ALTERNATE FORMsVEa HUNDREDmTENa ALTERNATE FORMzoNO TELEIAjRO",
  "URA SIGNjTABE SIGNlBETA SYMBOLlCAPITAL DOTTED LUNATE SIGMA SYMBOLzbKAI SYMBOLkLETTER ALPHAa WITH DASIAa AND OXIAa ",
  "AND PROSGEGRAMMENIxPERISPOMENIa AND PROSGEGRAMMENIzeROSGEGRAMMENIoVARIAa AND PROSGEGRAMMENIzjMACRONgOXIAePROSGEGRA",
  "MMENInSILIa AND OXIAa AND PROSGEGRAMMENIxPERISPOMENIa AND PROSGEGRAMMENIzeROSGEGRAMMENIoVARIAa AND PROSGEGRAMMENIz",
  "jTONOSfVARIAeRACHYqRCHAIC SAMPInBETAeCHIdDELTAfEPSILONa WITH DASIAa AND OXIAeVARIApOXIAePSILIa AND OXIAeVARIApTONO",
  "SfVARIArTAa WITH DASIAa AND OXIAa AND PROSGEGRAMMENIxPERISPOMENIa AND PROSGEGRAMMENIzeROSGEGRAMMENIoVARIAa AND PRO",
  "SGEGRAMMENIzjOXIAePROSGEGRAMMENInSILIa AND OXIAa AND PROSGEGRAMMENIxPERISPOMENIa AND PROSGEGRAMMENIzeROSGEGRAMMENI",
  "oVARIAa AND PROSGEGRAMMENIzjTONOSfVARIAoGAMMAfHETAeIOTAa WITH DASIAa AND OXIAePERISPOMENIlVARIAoIALYTIKAjMACRONgOX",
  "IAePSILIa AND OXIAePERISPOMENIlVARIApTONOSfVARIAeRACHYqKAPPAfLAMDAfMUcNUcOMEGAa WITH DASIAa AND OXIAa AND PROSGEGR",
  "AMMENIxPERISPOMENIa AND PROSGEGRAMMENIzeROSGEGRAMMENIoVARIAa AND PROSGEGRAMMENIzjOXIAePROSGEGRAMMENInSILIa AND OXI",
  "Aa AND PROSGEGRAMMENIxPERISPOMENIa AND PROSGEGRAMMENIzeROSGEGRAMMENIoVARIAa AND PROSGEGRAMMENIzjTONOSfVARIAoICRONa",
  " WITH DASIAa AND OXIAeVARIApOXIAePSILIa AND OXIAeVARIApTONOSfVARIAsPAMPHYLIAN DIGAMMArHIcIbSIdRHOa WITH DASIAoSANc",
  "HOcIGMAfTAUcHETAfUPSILONa WITH DASIAa AND OXIAePERISPOMENIlVARIAoIALYTIKAjMACRONgOXIAeTONOSfVARIAeRACHYtXIcYOTdZET",
  "AkUNATE SIGMA SYMBOLtREVERSED DOTTED LUNATE SIGMA SYMBOLzbLUNATE SIGMA SYMBOLzdTHETA SYMBOLuDASIAa AND OXIAePERISP",
  "OMENIlVARIAoIALYTIKA AND OXIAePERISPOMENIlVARIAjTONOSoRACHMA SIGNmFIVE OBOLS SIGNoOUR OBOLS SIGNpGRAMMA SIGNlINDIC",
  "TION SIGNmSTRUMENTAL NOTATION SYMBOL-1a1b2b3b4b7b8b9c2a3b4b5b6b7b9c30b2b6b7b8b9c4a0b2b3b5b7b8b9c5a0b1b2b3b4c7b8zfK",
  "AI SYMBOLiPPA SYMBOLlORONISgYATHOS BASE SIGNrLETTER ARCHAIC KOPPAnDIGAMMAhKOPPAfSAMPIeMALL CAPITAL GAMMAfLAMDAfOME",
  "GAfPIbSIdRHOqTIGMAgYOTjITRA SIGNjOWER NUMERAL SIGNrUNATE EPSILON SYMBOLoSIGMA SYMBOLtMETRETES SIGNmUSICAL LEIMMAoN",
  "UMERAL SIGNmOBOL SIGNiNE HALF SIGNa ALTERNATE FORMyQUARTER SIGNpUNKIA SIGNkXIAePERISPOMENIkHI SYMBOLjI SYMBOLiROSG",
  "EGRAMMENInSILIa AND OXIAePERISPOMENIlVARIApQUESTION MARKnREVERSED LUNATE EPSILON SYMBOLzeHO SYMBOLgWITH STROKE SYM",
  "BOLwSINUSOID SIGNmMALL DOTTED LUNATE SIGMA SYMBOLzbLETTER ALPHAa WITH DASIAa AND OXIAa AND YPOGEGRAMMENIwPERISPOME",
  "NIa AND YPOGEGRAMMENIzeVARIAa AND YPOGEGRAMMENIxYPOGEGRAMMENIxMACRONgOXIAa AND YPOGEGRAMMENIwPERISPOMENIa AND YPOG",
  "EGRAMMENIzdSILIa AND OXIAa AND YPOGEGRAMMENIwPERISPOMENIa AND YPOGEGRAMMENIzeVARIAa AND YPOGEGRAMMENIxYPOGEGRAMMEN",
  "IxTONOSfVARIAa AND YPOGEGRAMMENIwRACHYgYPOGEGRAMMENIxRCHAIC KOPPAfSAMPInBETAeCHIdDELTAeIGAMMAhEPSILONa WITH DASIAa",
  " AND OXIAeVARIApOXIAePSILIa AND OXIAeVARIApTONOSfVARIArTAa WITH DASIAa AND OXIAa AND YPOGEGRAMMENIwPERISPOMENIa AN",
  "D YPOGEGRAMMENIzeVARIAa AND YPOGEGRAMMENIxYPOGEGRAMMENIxOXIAa AND YPOGEGRAMMENIwPERISPOMENIa AND YPOGEGRAMMENIzdSI",
  "LIa AND OXIAa AND YPOGEGRAMMENIwPERISPOMENIa AND YPOGEGRAMMENIzeVARIAa AND YPOGEGRAMMENIxYPOGEGRAMMENIxTONOSfVARIA",
  "a AND YPOGEGRAMMENIxYPOGEGRAMMENIwFINAL SIGMAlGAMMAfHETAeIOTAa WITH DASIAa AND OXIAePERISPOMENIlVARIAoIALYTIKAa AN",
  "D OXIAePERISPOMENIlTONOSfVARIAtMACRONgOXIAePERISPOMENIkSILIa AND OXIAePERISPOMENIlVARIApTONOSfVARIAeRACHYqKAPPAeOP",
  "PAfLAMDAfMUcNUcOMEGAa WITH DASIAa AND OXIAa AND YPOGEGRAMMENIwPERISPOMENIa AND YPOGEGRAMMENIzeVARIAa AND YPOGEGRAM",
  "MENIxYPOGEGRAMMENIxOXIAa AND YPOGEGRAMMENIwPERISPOMENIa AND YPOGEGRAMMENIzdSILIa AND OXIAa AND YPOGEGRAMMENIwPERIS",
  "POMENIa AND YPOGEGRAMMENIzeVARIAa AND YPOGEGRAMMENIxYPOGEGRAMMENIxTONOSfVARIAa AND YPOGEGRAMMENIxYPOGEGRAMMENIwICR",
  "ONa WITH DASIAa AND OXIAeVARIApOXIAePSILIa AND OXIAeVARIApTONOSfVARIAsPAMPHYLIAN DIGAMMArHIcIbSIdRHOa WITH DASIAfP",
  "SILIoSAMPIdNcHOcIGMAeTIGMAgTAUcHETAfUPSILONa WITH DASIAa AND OXIAePERISPOMENIlVARIAoIALYTIKAa AND OXIAePERISPOMENI",
  "lTONOSfVARIAtMACRONgOXIAePERISPOMENIkSILIa AND OXIAePERISPOMENIlVARIApTONOSfVARIAeRACHYtXIcZETAlREVERSED DOTTED LU",
  "NATE SIGMA SYMBOLzbLUNATE SIGMA SYMBOLziUBSCRIPT SMALL LETTER BETAeCHIdGAMMAfPHIdRHOzYMBOL TAU RHOoTALENT SIGNkHET",
  "A SYMBOLkREE OBOLS SIGNkQUARTERS SIGNsONOSeRYBLION BASE SIGNrWO OBOLS SIGNkTHIRDS SIGNpUPSILON WITH ACUTE AND HOOK",
  " SYMBOLvDIAERESIS AND HOOK SYMBOLzHOOK SYMBOLyVARIAeOCAL NOTATION SYMBOL-1a0b1b2b3b4b5b6b7b8b9c2a0b1b2b3b4c3b4b5a0",
  "b1b2b3b4c6b7b8b9xXESTES SIGNlYEAR SIGNiPOGEGRAMMENInZERO SIGNlN APPLEfBOOKeHEARTfSALADjIMACING FACElNNING CAT FACE",
  " WITH SMILING EYESzbFACEa WITH ONE LARGE AND ONE SMALL EYEzcSMILING EYESlTAR EYESzbOUP MARKeSEPARATORmWING HEARTmS",
  "bUARANI SIGNiDSMANhIDE DOGgTAReJARATI ABBREVIATION SIGNrDIGIT EIGHTfFIVEdOUReNINEeONEdSEVENeIXdTHREEeWOdZEROkLETTE",
  "R AaAbIbUcBAbHAdCAbHAdDAbDAbHAdHAdEbGAbHAdHAcIaIcJAbHAdKAbHAdLAbLAdMAcNAbGAcNAcYAdObPAbHAdRAcSAbHAcSAdTAbHAcTAbHAe",
  "UaUcVAbOCALIC LaLcRaRkYAcZHAkOMcRUPEE SIGNkSIGN ANUSVARAhVAGRAHAiCANDRABINDUkIRCLE NUKTA ABOVEsMADDAHgNUKTAfSHADDA",
  "fUKUNfTHREE-DOT NUKTA ABOVEuWO-CIRCLE NUKTA ABOVEwVIRAMAeSARGAmVOWEL CANDRA EbOiSIGN AAbIbUcCANDRA EbOiEbIaIcObUaU",
  "cVOCALIC LaLcRaRzdNJALA GONDI DIGIT EIGHTfFIVEdOUReNINEeONEdSEVENeIXdTHREEeWOdZEROkLETTER AaAbIbUcBAbHAdCAbHAdDAbD",
  "AbHAdHAdEEcGAbHAdHAcIaIcJAbHAdKAbHAdLAbLAdMAcNAbGAdOOcPAbHAdRAcSAcTAbHAcTAbHAeUaUcVAcYAjOMcSIGN ANUSVARAiVISARGAmV",
  "IRAMAfOWEL SIGN AAbIbUcEEcIaIcOOcUaUzRMUKHI ABBREVIATION SIGNqDDAKfDIGIT EIGHTfFIVEdOUReNINEeONEdSEVENeIXdTHREEeWO",
  "dZEROkEK ONKARiIRIdLETTER AaAbIbUcBAbHAdCAbHAdDAbDAbHAdHAdEEcFAcGAbHAbHAeHAcIaIcJAbHAdKAbHAbHAeLAbLAdMAcNAbGAcNAcY",
  "AdOOcPAbHAdRAbRAdSAbHAdTAbHAcTAbHAeUaUcVAcYAcZAjSIGN ADAK BINDIkBINDIfNUKTAfUDAATfVIRAMAeSARGAhYAKASHlTIPPIfURAdVO",
  "WEL SIGN AAbIbUcEEcIaIcOOcUaUwHADESdIR SPACEgCUTfLFWIDTH BLACK SQUAREmDOWNWARDS ARROWpFORMS LIGHT VERTICALuHANGUL ",
  "FILLERgLETTER AaEcCHIEUCHgIEUCfEaObUcHIEUHfIaEUNGfKHIEUKHgIYEOKa-SIOSlMIEUMfNIEUNa-CIEUCfHIEUHlOaEcPHIEUPHgIEUPa-S",
  "IOSkRIEULa-HIEUHfKIYEOKgMIEUMfPHIEUPHgIEUPfSIOSeTHIEUTHnSIOSdSANGCIEUCfKIYEOKgPIEUPfSIOSeTIKEUTlTHIEUTHgIKEUTgUbWA",
  "aEcEaOcIcYAaEcEaOcIbObUqIDEOGRAPHIC COMMAfFULL STOPvKATAKANA LETTER AbEbHAbEbIbObUcIbKAbEbIbObUcMAbEbIbObUcNaAbEbI",
  "bObUcObRAbEbIbObUcSAbEbIbMALL AbEbIbObTUcUbYAbObUhObUcTAbEbIbObUcUbWAbOcYAbObUjMIDDLE DOTkSEMI-VOICED SOUND MARKwV",
  "OICED SOUND MARKs-HIRAGANA PROLONGED SOUND MARKznLEFT CORNER BRACKETpWARDS ARROWpRIGHT CORNER BRACKETpWARDS ARROWq",
  "UPWARDS ARROWnWHITE CIRCLEuMBURGERgMERa AND PICKeSICKLEgWRENCHoSAbTER FACEkND WITH INDEX AND MIDDLE FINGERS CROSSE",
  "DzbFINGER AND THUMB CROSSEDzlBAGbLLeSHAKEgGUL CHOSEONG CEONGCHIEUMCHIEUCHgIEUCfSIOSdSANGCIEUCfSIOStHIEUCHa-HIEUHfK",
  "HIEUKHmTUEUMCHIEUCHgIEUCfSIOSdSANGCIEUCfSIOSqIEUCa-IEUNGlFILLERgHIEUHa-SIOSkIEUNGa-CHIEUCHgIEUCfHIEUHfKIYEOKgMIEUM",
  "fPANSIOSgHIEUPHgIEUPfRIEULfSIOSeTHIEUTHgIKEUTmKAPYEOUNMIEUMfPHIEUPHgIEUPfRIEULfSSANGPIEUPrHIEUKHgIYEOKa-TIKEUTnMIE",
  "UMa-KIYEOKgPIEUPfSIOSeTIKEUTmNIEUNa-CIEUCfHIEUHfKIYEOKgPIEUPfSIOSeTIKEUTmPANSIOSgHIEUPHa-HIEUHfPIEUPmIEUPa-CHIEUCH",
  "gIEUCfHIEUHfKHIEUKHgIYEOKgNIEUNfPHIEUPHhSIOSa-CIEUCfKIYEOKgPIEUPfTHIEUTHgIKEUTkSANGSIOSjTHIEUTHgIKEUTmRIEULa-CIEUC",
  "fHIEUHfKAPYEOUNPIEUPmHIEUKHgIYEOKgMIEUMfNIEUNfPIEUPfSIOSdSANGKIYEOKgPIEUPfTIKEUTlTIKEUTmSIOSa-CHIEUCHgIEUCfHIEUHfI",
  "EUNGfKHIEUKHgIYEOKgMIEUMfNIEUNfPHIEUPHgIEUPa-KIYEOKmRIEULfSSANGSIOSjTHIEUTHgIKEUTkSANGCIEUCa-HIEUHlHIEUHfIEUNGfKIY",
  "EOKgNIEUNfPIEUPfRIEULfSIOSa-PIEUPkTHIEUTHgIKEUTgYEORINHIEUHqTHIEUTHgIKEUTa-CIEUCfKIYEOKgMIEUMfPIEUPfRIEULfSIOSlYEO",
  "RINHIEUHjSIEUNGrDOUBLE DOT TONE MARKuFILLERgJONGSEONG CHIEUCHgIEUCa-PIEUPfSSANGPIEUPqHIEUHa-MIEUMfNIEUNfPIEUPfRIEU",
  "LlIEUNGa-KHIEUKHgIYEOKgSSANGKIYEOKrKAPYEOUNMIEUMfPHIEUPHgIEUPfRIEULmHIEUKHgIYEOKa-CHIEUCHhHIEUHfKHIEUKHhNIEUNfPIEU",
  "PfRIEULfSIOSa-KIYEOKsMIEUMa-CHIEUCHgIEUCfHIEUHfKIYEOKgNIEUNfPANSIOSgIEUPa-SIOSkRIEULfSIOSdSANGNIEUNfSIOSpNIEUNa-CH",
  "IEUCHgIEUCfHIEUHfKIYEOKgPANSIOShRIEULfSIOSeTHIEUTHgIKEUTmPANSIOSa-KAPYEOUNPIEUPnPIEUPmHIEUPHa-PIEUPfSIOSeTHIEUTHoI",
  "EUPa-CHIEUCHgIEUCfHIEUHfMIEUMfPHIEUPHhRIEULa-PHIEUPHnSIOSa-TIKEUTlTIKEUTmRIEULa-HIEUHfKAPYEOUNPIEUPmHIEUKHgIYEOKa-",
  "HIEUHfSIOSlMIEUMa-HIEUHfKIYEOKgSIOSkNIEUNfPANSIOSgHIEUPHgIEUPa-HIEUHfPHIEUPHhSIOSeTIKEUTmSIOSdSANGKIYEOKgSIOSjTHIE",
  "UTHgIKEUTa-HIEUHmYEORINHIEUHa-HIEUHpSIEUNGoSIOSa-CHIEUCHgIEUCfHIEUHfKAPYEOUNPIEUPmIYEOKgMIEUMfPANSIOSgIEUPfRIEULfT",
  "HIEUTHgIKEUTkSANGCIEUCfIEUNGfKIYEOKgMIEUMfNIEUNfPIEUPfRIEULa-KHIEUKHnSIOSa-KIYEOKgTIKEUTlTIKEUTa-PIEUPmYESIEUNGnTH",
  "IEUTHgIKEUTa-CHIEUCHgIEUCfKIYEOKgPIEUPfRIEULfSIOSa-KIYEOKlTHIEUTHoYEORINHIEUHjSIEUNGa-HIEUHfKHIEUKHgIYEOKgMIEUMfPA",
  "NSIOShSIOSdSANGKIYEOKzeUNGSEONG Aa-EUcObUcEbRAEAa-AbEaOcIbUhEaOa-EUcObUdUa-AbEaObUcObUeFILLERgIa-AaRAEAfEUcIbOa-Id",
  "UbYAa-OcEcEaOcObUeOa-EaOcOa-IdUbYAaEcEaOeEcSSANGARAEAkUa-AaEcEO-EUfI-IdUbYEaOfWAaEcEaOcIcYAa-ObUbYOdEcEaOa-ObUbYAf",
  "Ia-UdOa-AaEcEOcIbObYAaEcEOfUa-AaEcEaOcIbObUbYEaOqLETTER AaEbRAEAaEgCHIEUCHgIEUCfEaObUcHIEUHfIaEUNGfKAPYEOUNMIEUMfP",
  "HIEUPHgIEUPfSSANGPIEUPrHIEUKHgIYEOKa-SIOSlMIEUMa-PANSIOSgIEUPfSIOSkNIEUNa-CIEUCfHIEUHfPANSIOShSIOSeTIKEUTmOaEcPANS",
  "IOSgHIEUPHgIEUPa-CIEUCfKIYEOKgSIOSa-KIYEOKgTIKEUTlTHIEUTHgIKEUTmRIEULa-HIEUHfKIYEOKa-SIOSlMIEUMfPANSIOSgHIEUPHgIEU",
  "Pa-SIOSkSIOSeTHIEUTHgIKEUTgYEORINHIEUHrSIOSa-CIEUCfKIYEOKgNIEUNfPIEUPfTIKEUTkSANGCIEUCfHIEUHfIEUNGfKIYEOKgNIEUNfPI",
  "EUPfSIOSeTIKEUTlTHIEUTHgIKEUTgUbWAaEcEaOcIcYAaEcEaOaRINHIEUHjSIEUNGa-PANSIOShSIOSmIbOa-IbYAaEfUa-IbYEaOnSINGLE DOT",
  " TONE MARKxZHOU NUMERAL EIGHTfFIVEdOUReNINEeONEdSEVENeIXdTENcHIRTYeREEeWENTYeOrIFI ROHINGYA DIGIT EIGHTfFIVEdOUReN",
  "INEeONEdSEVENeIXdTHREEeWOdZEROkLETTER AbBAcCAcDAbDAdFAcGAcHAcJAcKAbHAcINNA WAcYAiLAcMAcNAbGAcYAdPAcRAbRAdSAbHAdTAb",
  "TAdVAcWAcYAcZAjMARK NA KHONNAjSAKINkSIGN HARBAHAYiTAHALAeNAcSSIkVOWEL AbEbIbObUuUNOO LETTER AbBAcDAcGAcHAcIbKAcLAc",
  "MAcNAbGAdPAcRAcSAcTAcUbWAcYAjSIGN PAMUDPODnVOWEL SIGN IbUsPPY PERSON RAISING ONE HANDzcRD DISKhTCHING CHICKlRAN LE",
  "TTER ALEPHeYNdBETHeDALETH-RESHlGIMELfHEaTHeKAPHeLAMEDHgMEMdNUNdPEcQOPHeSADHEdMEKHfHINeTAWcETHeWAWdYODHeZAYNlNUMBER",
  " FIVEeONEa HUNDREDlTENcWENTYtEADPHONEfSTONEa GRAVEYARD SYMBOLxR-NO-EVIL MONKEYpT DECORATIONkHANDSfWITH ARROWfRIBBO",
  "NgTIP ON THE LEFTxVY AMPERSAND ORNAMENTrRROW SHAFT WIDTH ONEa HALFeTHIRDjTWO THIRDSzcSTERISKiBALLOT XhLACK CURVED ",
  "DOWNWARDS AND RIGHTWARDS ARROWzfUPWARDS AND RIGHTWARDS ARROWzkHEARTg-FEATHERED NORTH EAST ARROWqRIGHTWARDS ARROWqS",
  "OUTH EAST ARROWzhCHECK MARKhVRON SNOWFLAKEqIRCLEa WITH CIRCLE INSIDEnSTROKE AND TWO DOTS ABOVEzgD SALTIREoONCAVE-P",
  "OINTED BLACK RIGHTWARDS ARROWznDASHED TRIANGLE-HEADED RIGHTWARDS ARROWznIVISION SIGNmOLLAR SIGNjUBLE COMMA QUOTATI",
  "ON MARK ORNAMENTzeTURNED COMMA QUOTATION MARK ORNAMENTzqWNWARDS ARROW WITH EQUILATERAL ARROWHEADvLARGE EQUILATERAL",
  " ARROWHEADzxEIGHT POINTED BLACK STARkPINWHEEL STARnRECTILINEAR BLACK STARzfSPOKED ASTERISKpTEARDROP-SPOKED PROPELL",
  "ER ASTERISKzoQUALS SIGNkXCLAMATION MARK ORNAMENTiSYMBOLxFIVE POINTED BLACK STARsSPOKED ASTERISKtOUR BALLOON-SPOKED",
  " ASTERISKzdGREEK CROSSlHEART EXCLAMATION MARK ORNAMENTzfORIZONTAL FILLpINTERROBANG ORNAMENTuLARGE CIRCLEkTIN CROSS",
  "kEFT-POINTING ANGLE BRACKET ORNAMENTqQUOTATION MARK ORNAMENTzoWARDS ARROW WITH EQUILATERAL ARROWHEADvLARGE EQUILAT",
  "ERAL ARROWHEADzwIGATURE OPEN ET ORNAMENTyOW DOUBLE COMMA QUOTATION MARK ORNAMENTzlSINGLE COMMA QUOTATION MARK ORNA",
  "MENTzmER RIGHT-SHADOWED WHITE RIGHTWARDS ARROWzsMINUS SIGNjULTIPLICATION XqNORTH EAST ARROWfPOINTING BUDdVINE LEAF",
  "xWEST POINTING BUDdVINE LEAFzeOPEN CENTRE CROSSqUTLINED BLACK STARsVAL WITH OVAL INSIDEvPLUS SIGNjRIGHT-POINTING A",
  "NGLE BRACKET ORNAMENTqQUOTATION MARK ORNAMENTzoWARDS ARROWa WITH EQUILATERAL ARROWHEADvLARGE EQUILATERAL ARROWHEAD",
  "zxOUND-TIPPED RIGHTWARDS ARROWzeSALTIREfNS-SERIF INTERROBANG ORNAMENTzfCRIPT LIGATURE ET ORNAMENTzbINGLE COMMA QUO",
  "TATION MARK ORNAMENTzeTURNED COMMA QUOTATION MARK ORNAMENTzqX POINTED BLACK STARsSPOKED ASTERISKsOUTH EAST ARROWfP",
  "OINTING BUDdVINE LEAFxWEST POINTING BUDdVINE LEAFzdPARKLEhTEARDROP-SHANKED RIGHTWARDS ARROWxPOKED ASTERISKiPINWHEE",
  "L ASTERISKzhRIANGLE-HEADED RIGHTWARDS ARROWzgWELVE POINTED BLACK STARkPINWHEEL STARzdUPPER RIGHT-SHADOWED WHITE RI",
  "GHTWARDS ARROWzqWARDS ARROW WITH EQUILATERAL ARROWHEADvLARGE EQUILATERAL ARROWHEADzvVERTICAL BARmWEDGE-TAILED RIGH",
  "TWARDS ARROWzdHITE CIRCLEgDOWN-POINTING TRIANGLEwSQUARElIDE-HEADED RIGHTWARDS ARROWzhBREW ACCENT ATNAH HAFUKHmDARG",
  "AeEHIeETNAHTAhGERESHa MUQDAMkSHAYIMjILUYeMAHAPAKHhERKHAa KEFULAmUNAHfOLEdPASHTAeZERfQADMAdRNEY PARAlREVIAfSEGOLeHA",
  "LSHELETkTELISHA GEDOLAgQETANAmVIReIPEHAgYERAH BEN YOMOmTIVfZAQEF GADOLfQATANjRQAeINORmLETTER ALEFa WITH MAPIQfPATA",
  "HfQAMATSoTERNATIVE AYINePLUS SIGNuYINeBETa WITH DAGESHgRAFEnDALETa WITH DAGESHrFINAL KAFa WITH DAGESHpMEMdNUNdPEa ",
  "WITH DAGESHoTSADIlGIMELa WITH DAGESHrHEa WITH MAPIQlTdKAFa WITH DAGESHgRAFEnLAMEDa WITH DAGESHrMEMa WITH DAGESHpNU",
  "Na WITH DAGESHpPEa WITH DAGESHgRAFEmQOFa WITH DAGESHpRESHa WITH DAGESHqSAMEKHa WITH DAGESHrHINa WITH DAGESHa AND S",
  "HIN DOThIN DOTsSHIN DOThIN DOTrTAVa WITH DAGESHoETa WITH DAGESHoSADIa WITH DAGESHrVAVa WITH DAGESHgHOLAMoWIDE ALEF",
  "eDALETfFINAL MEMjHEcKAFdLAMEDfRESHeTAViYODa WITH DAGESHgHIRIQoZAYINa WITH DAGESHxIGATURE ALEF LAMEDkYIDDISH DOUBLE",
  " VAVdYODkVAV YODhYOD YOD PATAHzfMARK LOWER DOTjMASORA CIRCLEnUPPER DOToPOINT DAGESH OR MAPIQpHATAF PATAHfQAMATSgSE",
  "GOLkIRIQeOLAMa HASER FOR VAVtJUDEO-SPANISH VARIKAuMETEGfPATAHfQAMATSa QATANlUBUTSgRAFEeSEGOLeHEVAdIN DOThIN DOThTS",
  "EREkUNCTUATION GERESHdSHAYIMjMAQAFfNUN HAFUKHAlPASEQfSOF PASUQvYOD TRIANGLErDGEHOGgLICOPTERhLSCHREIBER PAUSE SYMBO",
  "LxM SYMBOLhET WITH WHITE CROSSvNTAIGANA LETTER A-1b2b3bWOeE-1b2b3b4b5b6dHA-1a0b1c2b3b4b5b6b7b8b9dE-1b2b3b4b5b6b7dI",
  "-1b2b3b4b5b6b7dO-1b2b3b4b5b6b7b8dU-1b2b3eI-1b2b3b4dKA-1a0b1c2b3b4b5b6b7b8b9bKEeE-1b2b3b4b5b6dI-1b2b3b4b5b6b7b8dO-1",
  "b2b3bKIeU-1b2b3b4b5b6b7eMA-1b2b3b4b5b6b7dE-1b2bMAeI-1b2b3b4b5b6b7dO-1b2b3b4b5b6dU-1b2b3b4eN-MU-MO-1b2iA-1b2b3b4b5b",
  "6b7b8b9dE-1b2b3b4b5b6bKOeI-1b2b3b4b5b6b7bTEeO-1b2b3b4b5dU-1b2b3eO-1b2b3dRA-1b2b3b4dE-1b2b3b4dI-1b2b3b4b5b6b7dO-1b2",
  "b3b4b5b6dU-1b2b3b4b5b6eSA-1b2b3b4b5b6b7b8dE-1b2b3b4b5dI-1b2b3b4b5b6dO-1b2b3b4b5b6b7dU-1b2b3b4b5b6b7b8eTA-1b2b3b4dE",
  "-1b2b3b4b5b6b7b8b9dI-1b2b3b4b5b6b7dO-1b2b3b4b5b6bRAeU-1b2b3b4bTOfU-1b2b3b4b5dWA-1b2b3b4b5dE-1b2b3b4dI-1b2b3b4b5dO-",
  "1b2b3b4b5b6b7eYA-1b2b3b4b5bYOeO-1b2b3b4b5b6dU-1b2b3b4uRBbMITIAN CONJUGATE MATRIXyXAGRAM FOR ABUNDANCEiFTER COMPLET",
  "IONpPPROACHiBEFORE COMPLETIONqITING THROUGHnREAKTHROUGHmCOMING TO MEETmNFLICTfTEMPLATIONnDARKENING OF THE LIGHTvEC",
  "REASEgLIVERANCEjVELOPMENTkIFFICULTY AT THE BEGINNINGzSPERSIONjURATIONiENTHUSIASMkFELLOWSHIPjOLLOWINGjGATHERING TOG",
  "ETHERrRACEdEAT POSSESSIONiWEReREPONDERANCEnTAMINGmHOLDING TOGETHERqINCREASEgFLUENCEhNER TRUTHiOCENCEjLIMITATIONkMO",
  "DESTYfUTH CORNERSnOBSTRUCTIONkPPOSITIONhRESSIONkPEACEeROGRESShUSHING UPWARDoRETREATeURNeVOLUTIONkSMALL PREPONDERAN",
  "CEnTAMINGlPLITTING APARToTANDSTILLkTHE ABYSMAL WATERmRMYcOUSING THUNDERqCAULDRONhLINGING FIREmREATIVE HEAVENpFAMIL",
  "YgGENTLE WINDlJOYOUS LAKElKEEPING STILL MOUNTAINwMARRYING MAIDENpRECEPTIVE EARTHpWANDERERhELLhREADINGiWAITINGgORK ",
  "ON THE DECAYEDtYOUTHFUL FOLLYzbIBISCUSgGH BRIGHTNESS SYMBOLrOCTET PRESETmVOLTAGE SIGNn-HEELED SHOElSPEED TRAINa WI",
  "TH BULLET NOSEzgKING BOOTjNDU TEMPLEkPPOPOTAMUSkRAGANA DIGRAPH YORImITERATION MARKoLETTER AaRCHAIC WUcYEkBAbEbIbOb",
  "UcDAbEbIbObUcEbGAbEbIbObUcHAbEbIbObUcIbKAbEbIbObUcMAbEbIbObUcNaAbEbIbObUcObPAbEbIbObUcRAbEbIbObUcSAbEbIbMALL AbEbI",
  "bKAbEcObTUcUbWAbEbIbOcYAbObUhObUcTAbEbIbObUcUbVUcWAbEbIbOcYAbObUcZAbEbIbObUjVOICED ITERATION MARKzdSTORIC SITEmOCH",
  "OdLEbLOW QUILT SQUARE ORNAMENTa IN BLACK SQUAREzrMOTHETICiNEY POTeBEEgOKcPbRIZONTAL BARcLACK HEXAGONhOCTAGONnELLIP",
  "SISiLINE EXTENSIONoMALE WITH STROKE SIGNvONE EIGHTH BLOCK-1358e2b3b4b5b6b7sSCAN LINE-1b3b7b9lTAB KEYeULATIONa SETd",
  "WITH JUSTIFICATIONzdRAFFIC LIGHTvSEa FACEeRACINGkSPITALgT BEVERAGEiDOGdPEPPERgSPRINGSiELdURGLASSa WITH FLOWING SAN",
  "DySEa BUILDINGaSjWITH GARDENqRYVNIA SIGNlTaJbScUGGING FACEkNDRED POINTS SYMBOLtSHED FACEjTcYGIEAePHENa BULLETgWITH",
  " DIAERESISp-MINUSgATION POINToODIASTOLEkSTERESIS SYMBOLrI LOVE YOU HAND SIGNtCE CREAMeUBEeHOCKEY STICK AND PUCKvSK",
  "ATEiDENTICAL TOa AND SLANTED PARALLELxWITH DOT ABOVEsFICATION CARDqOGRAPHIC ANNOTATION BOTTOM MARKlEARTH MARKkFIRS",
  "T MARKjOUR MARKfTH MARKlHEAVEN MARKlLINKING MARKmMAN MARKhIDDLE MARKlONE MARKiREVERSE MARKmSECOND MARKlTHIRD MARKi",
  "REE MARKjOP MARKhWO MARKtCLOSING MARKlOMMAfDEPARTING TONE MARKrSCRIPTION CHARACTER ABOVE TO BELOWfMIDDLE AND BELOW",
  "zFULL SURROUNDnLEFT TO MIDDLE AND RIGHTqRIGHTnOVERLAIDiSURROUND FROM ABOVEfBELOWfLEFTdOWER LEFTkUPPER LEFTeRIGHTzw",
  "ENTERING TONE MARKsFULL STOPjHALF FILL SPACEpITERATION MARKoLEVEL TONE MARKpNUMBER ZEROlRISING TONE MARKqSPACEfTAL",
  "LY MARK FIVEdOUReONEdTHREEeWOnELEGRAPH LINE FEED SEPARATOR SYMBOLzbSYMBOL FOR APRILeUGUSTgDAY EIGHTaEENhLEVENgFIFT",
  "EENfVEdOURaTEENiNINEaTEENiONEdSEVENaTEENiIXaTEENhTENcHIRTEENdYa-ONEiREEeWELVEdNTYa-EIGHTfFIVEdOUReNINEeONEdSEVENeI",
  "XdTHREEeWOiOgECEMBERiFEBRUARYiHOUR EIGHTaEENhLEVENgFIFTEENfVEdOURaTEENiNINEaTEENiONEdSEVENaTEENiIXaTEENhTENcHIRTEE",
  "NgREEeWELVEdNTYa-FOUReONEdTHREEeWOiOdZEROjJANUARYgULYcNEeMARCHdYdNOVEMBERiOCTOBERhSEPTEMBERzfVARIATION INDICATORzf",
  "MAGE OFa OR APPROXIMATELY EQUAL TOzhPaERIAL ARAMAIC LETTER ALEPHeYINeBETHeDALETHgGIMELfHEaTHeKAPHeLAMEDHgMEMdNUNdP",
  "EcQOPHeRESHeSADHEdMEKHfHINeTAWcETHeWAWdYODHeZAYINmNUMBER ONEa HUNDREDhTHOUSANDmTENa THOUSANDlHREEeWENTYeOkSECTION ",
  "SIGNzdNBOX TRAYiCOMING ENVELOPEmPLETE INFINITYqREASE FONT SIZE SYMBOLrS AShMENThDaEXa POINTING AT THE VIEWERzIAN R",
  "UPEE SIGNnC SIYAQ ALTERNATE LAKH MARKtFRACTION ONE HALFeQUARTERlTHREE QUARTERSxLAKH MARKjNUMBER ALTERNATE ONEdTEN ",
  "THOUSANDlWOnEIGHTa HUNDREDhTHOUSANDjYa THOUSANDpFIFTYa THOUSANDmVEa HUNDREDhTHOUSANDmORTYa THOUSANDmURa HUNDREDhTH",
  "OUSANDnKARORaANhLAKHaANgNINEa HUNDREDhTHOUSANDjTYa THOUSANDpONEa HUNDREDhTHOUSANDmPREFIXED EIGHTfFIVEdOUReNINEeONE",
  "dSEVENeIXdTHREEeWOmSEVENa HUNDREDhTHOUSANDjTYa THOUSANDpIXa HUNDREDhTHOUSANDjTYa THOUSANDoTENa THOUSANDlHIRTYa THO",
  "USANDnREEa HUNDREDhTHOUSANDnWENTYa THOUSANDnOa HUNDREDhTHOUSANDtPLACEHOLDERlRUPEE MARKuFINITYa NEGATED WITH VERTIC",
  "AL BARzgORMATION DESK PERSONlSEPARATOR FOUReONEdTHREEeWOmOURCEqHIBIT ARABIC FORM SHAPINGtSYMMETRIC SWAPPINGyPUT SY",
  "MBOL FOR LATIN CAPITAL LETTERSpLETTERShSMALL LETTERStNUMBERShSYMBOLSwSCRIPTIONAL PAHLAVI LETTER ALEPHfBETHeDALETHg",
  "GIMELfHEaTHeKAPHeLAMEDHgMEM-QOPHiNUNdPEcSADHEdMEKHfHINeTAWcETHeWAW-AYIN-RESHnYODHeZAYINmNUMBER FOUReONEa HUNDREDhT",
  "HOUSANDmTENcHREEeWENTYeOqRTHIAN LETTER ALEPHeYINeBETHeDALETHgGIMELfHEaTHeKAPHeLAMEDHgMEMdNUNdPEcQOPHeRESHeSADHEdME",
  "KHfHINeTAWcETHeWAWdYODHeZAYINmNUMBER FOUReONEa HUNDREDhTHOUSANDmTENcHREEeWENTYeOzfERTION SYMBOLoTEGRALa AROUND A P",
  "OINT OPERATORwVERAGE WITH SLASHsEXTENSIONjWITH DOUBLE STROKEnINTERSECTIONmLEFTWARDS ARROW WITH HOOKzOVERBARhTIMES ",
  "SIGNkUNDERBARgIONpRCALATEgIOR PRODUCTlLINEAR ANNOTATION ANCHORgSEPARATORjTERMINATORzcOCKED FEMALE AND MALE SIGNzcR",
  "OBANGgSECTIONa ABOVE BAR ABOVE UNIONpUNIONlBESIDE AND JOINED WITH INTERSECTIONzkWITH DOTdLOGICAL ANDlOVERBARxVERSE",
  " BULLETgCHECK MARKfER BOARD FILLsDOWNWARDS ARROW WITH TIP LEFTWARDSzjMEDIUM SHADEmWHITE CIRCLEpTED EXCLAMATION MAR",
  "KqINTERROBANGlLAZY SfOW KAVYKAa WITH KAVYKA ABOVEzdOHM SIGNiPENTAGRAMjQUESTION MARKnUNDERTIEoISIBLE PLUSeSEPARATOR",
  "jTIMESoZAKAYA LANTERNpJACK-O-LANTERNmPANESE BANK SYMBOLlCASTLEgDOLLSfGOBLINgINDUSTRIAL STANDARD SYMBOLzbOGREePOST ",
  "OFFICElSYMBOL FOR BEGINNERzbRbVANESE CONSONANT SIGN CAKRAfKERETfPENGKALwDIGIT EIGHTfFIVEdOUReNINEeONEdSEVENeIXdTHR",
  "EEeWOdZEROkLEFT RERENGGANmTTER AaIcBAa MURDAiCAa MURDAiDAa MAHAPRANAlDAa MAHAPRANAnEbGAa MURDAiHAcIa KAWIfIcJAa MA",
  "HAPRANAmKAa MURDAfSASAKiLAcMAcNAa MURDAhGAa LELETa RASWADIqYAa MURDAjObPAa CEREKfMURDAiRAa AGUNGiSAa MAHAPRANAiURD",
  "AiTAa MURDAhTAa MAHAPRANAnUbWAcYAjPADA ADEGa ADEGiNDAPfISEN-ISENjLINGSAfUHURdNGSIgMADYAfPANGKATgISELEHhTIRTA TUMET",
  "ESnWINDUiNGKONdRANGKEPlRIGHT RERENGGANpSIGN CECAKa TELUkLAYARfPANYANGGAjWIGNYANmTURNED PADA PISELEHtVOWEL SIGN DIR",
  "GA MUREkPEPETfSUKUa MENDUTlTALINGeRUNGfOLONGgWULUa MELIKzeEANSeIGSAW PUZZLE PIECEsOINcYSTICKhUGGLINGgNOcPITERhKAAB",
  "AdITHI ABBREVIATION SIGNrDANDAeOUBLE DANDAfSECTION MARKtENUMERATION SIGNqLETTER AaAbIbUcBAbHAdCAbHAdDAbDAbDHAdHAdH",
  "AdEbGAbHAdHAcIaIcJAbHAdKAbHAdLAcMAcNAbGAcNAcYAdObPAbHAdRAbHAdSAbHAcSAdTAbHAcTAbHAeUaUcVAcYAjNUMBER SIGNa ABOVErSEC",
  "TION MARKlIGN ANUSVARAiCANDRABINDUlNUKTAfVIRAMAeSARGAmVOWEL SIGN AAbIbUcEbIaIcObUaUcVOCALIC RzNGAROOeXI RADICAL AG",
  "AINeNDcRRIVEdOWeXEdBADGEReMBOOfEANdIGbRDcTTERfLACKdOODdUEdOATcDYcLT OF CLOTHlNEcWcRANCHeISTLEfUSHfCARTcULDRONgVEdH",
  "ILDeITYdLANbWcIFFdOTHESgOLORdMPAREfRPSEeVERdWdDEATHdERdIPPEReSHbTINGUISHjVINATIONjO NOTeGbORcTaTED CLIFFfTENTjUBLE",
  " XgWN BOXhRAGONeUMcYdEARaTHdTcIGHTeMBROIDERYjNCLOSUREhTEReVENaINGgYEdFACEcNGcTHERfEATHERgIELDdGHTdREcSHdLUTEdYcOOT",
  "dRAGRANTgOGdURdGATEdHOSTeOa SLOWLYhLDdRAINcSSfHAIRcLBERDeF TREE TRUNKnNDdEADbRTdMPdIDING ENCLOSUREpOOKcRNbSEfICEcN",
  "CHcSECTgJADEcRdKNIFEfLACKcMEdEAFbTHERfEKcGSdIDbFEcNEdONGa STRIDElMANcEATcLONeILLETeNISTERhOONcRNINGeTAReUNDbTAINfT",
  "HfNETcOSEcTdOLDcNEaSELFgPEN BOXgPOSEgPIGcLOWdOWEReRIVATEfOFOUNDiRAINcPbTcEDcICEcGHT OPEN BOXmVEReOOFdUNdSACRIFICIA",
  "L WINEoLTcYcCHOLARfRIPTfEALcCONDeEbLFdHEEPcLLdOOTcRT TAILED BIRDkHREADlICKNESSgLKdKINdLASHcVEdICEeMALLeNOUTeOUNDeP",
  "EARcECHeIRITeOONdROUTfQUAREfTANDdEAMcPcONEcPaPINGhUNcWEETfTABLEdLLcNNED LEATHERnENcIGERdLEdONGUEeOTHeRACKdEEcIPODf",
  "URBANdTLEfWOa HANDSjUSEdVALLEYfILLAGEhWALKa ENCLOSUREmTEReEAPONeSTdHEATdITEeINDbEdOMANdRKdRAPcONGfYELLOWsNADA AI L",
  "ENGTH MARKoDIGIT EIGHTfFIVEdOUReNINEeONEdSEVENeIXdTHREEeWOdZEROkLENGTH MARKjTTER AaAbIbUcBAbHAdCAbHAdDAbDAbHAdHAdE",
  "aEcFAcGAbHAdHAcIaIcJAbHAdKAbHAdLAbLAbLAeMAcNAaKAARA POLLUmGAcNAcYAdOaOcPAbHAdRAbRAdSAbHAcSAdTAbHAcTAbHAeUaUcVAbOCA",
  "LIC LaLcRaRkYAjSIGN ANUSVARAhVAGRAHAiCANDRABINDUlJIHVAMULIYAlNUKTAfSIDDHAMgPACING CANDRABINDUtUPADHMANIYAlVIRAMAeS",
  "ARGAmVOWEL SIGN AAbIbUcEaEcIaIcOaOcUaUcVOCALIC LaLcRaRzcTAKANA DIGRAPH KOTOmITERATION MARKoLETTER AaRCHAIC EbWUcYE",
  "bIkBAbEbIbObUcDAbEbIbObUcEbGAbEbIbObUcHAbEbIbObUcIbKAbEbIbObUcMAbEbIaNNAN NASALIZED TONE-1b2b3b4b5b7b8qTONE-2b3b4b",
  "5b7b8mObUcNaAbEbIbObUcObPAbEbIbObUcRAbEbIbObUcSAbEbIbMALL AbEbHAbEbIbObUcIbKAbEbUcMUcNaUcObRAbEbIbObUcSIbUcTObUcUb",
  "WAbEbIbOcYAbObUhObUcTAbEbIbObUcUbVAbEbIbObUcWAbEbIbOcYAbObUcZAbEbIbObUjMIDDLE DOTkVOICED ITERATION MARKw-HIRAGANA ",
  "DOUBLE HYPHENnPROLONGED SOUND MARKuSEMI-VOICED SOUND MARKwVOICED SOUND MARKziYAH LI DIGIT EIGHTfFIVEdOUReNINEeONEd",
  "SEVENeIXdTHREEeWOdZEROkLETTER AbBAcCAcDAcGAcHAbTAdIbKAbHAdLAcMAcNAbGAcYAdOEbOcPAbHAdRAcSAbHAdTAbHAdVAcWAcYAcZAjSIG",
  "N CWIdSHYAjTONE CALYAa PLOPHUmPLOPHUlVOWEL EaEcObUaEqELVIN SIGNjYaBOARDa AND MOUSEpCAP TENjHAROSHTHI DIGIT FOUReON",
  "EdTHREEeWOjFRACTION ONE HALFrLETTER AbBAbHAdCAbHAdDAbDAbHAdHAdGAbHAdHAcJAcKAbHAcKAdLAcMAcNAbNAcYAdPAbHAdRAcSAbHAcS",
  "AdTAbHAcTAbHAcTAbHAfVAbHAdYAcZAjNUMBER ONE HUNDREDhTHOUSANDmTENcWENTYnPUNCTUATION CIRCLEfRESCENT BARmDANDAeOTbUBLE",
  " DANDAmLINESeOTUSfMANGALAMiSMALL CIRCLEySIGN ANUSVARAiBAR ABOVEjCAUDAfDOT BELOWhUBLE RING BELOWrVISARGAmVIRAMAfOWE",
  "L LENGTH MARKlSIGN EbIbObUbVOCALIC RzeITAN SMALL SCRIPT CHARACTER-18B00b1b2b3b4b5b6b7b8b9bAbBbCbDbEbFc10b1b2b3b4b5",
  "b6b7b8b9bAbBbCbDbEbFc20b1b2b3b4b5b6b7b8b9bAbBbCbDbEbFc30b1b2b3b4b5b6b7b8b9bAbBbCbDbEbFc40b1b2b3b4b5b6b7b8b9bAbBbCb",
  "DbEbFc50b1b2b3b4b5b6b7b8b9bAbBbCbDbEbFc60b1b2b3b4b5b6b7b8b9bAbBbCbDbEbFc70b1b2b3b4b5b6b7b8b9bAbBbCbDbEbFc80b1b2b3b",
  "4b5b6b7b8b9bAbBbCbDbEbFc90b1b2b3b4b5b6b7b8b9bAbBbCbDbEbFcA0b1b2b3b4b5b6b7b8b9bAbBbCbDbEbFcB0b1b2b3b4b5b6b7b8b9bAbB",
  "bCbDbEbFcC0b1b2b3b4b5b6b7b8b9bAbBbCbDbEbFcD0b1b2b3b4b5b6b7b8b9bAbBbCbDbEbFcE0b1b2b3b4b5b6b7b8b9bAbBbCbDbEbFcF0b1b2",
  "b3b4b5b6b7b8b9bAbBbCbDbEbFdC00b1b2b3b4b5b6b7b8b9bAbBbCbDbEbFc10b1b2b3b4b5b6b7b8b9bAbBbCbDbEbFc20b1b2b3b4b5b6b7b8b9",
  "bAbBbCbDbEbFc30b1b2b3b4b5b6b7b8b9bAbBbCbDbEbFc40b1b2b3b4b5b6b7b8b9bAbBbCbDbEbFc50b1b2b3b4b5b6b7b8b9bAbBbCbDbEbFc60",
  "b1b2b3b4b5b6b7b8b9bAbBbCbDbEbFc70b1b2b3b4b5b6b7b8b9bAbBbCbDbEbFc80b1b2b3b4b5b6b7b8b9bAbBbCbDbEbFc90b1b2b3b4b5b6b7b",
  "8b9bAbBbCbDbEbFcA0b1b2b3b4b5b6b7b8b9bAbBbCbDbEbFcB0b1b2b3b4b5b6b7b8b9bAbBbCbDbEbFcC0b1b2b3b4b5b6b7b8b9bAbBbCbDbEbF",
  "cD0b1b2b3b4b5pFILLERyMER CURRENCY SYMBOL RIELuDIGIT EIGHTfFIVEdOUReNINEeONEdSEVENeIXdTHREEeWOdZEROkINDEPENDENT VOW",
  "EL LYaYdQAAbIbQbUcEbIaIcOO TYPE ONEdTWOlUaKbUaVeRYaYvLETTER BAcCAbHAbOcOcDAbOcHAcKAbHAbOcOcLAbOcMOcNGOcNOcObYOdPHA",
  "bOcOcQAcROcSAbHAcSOdTAbHAbOcObTHAbOeVOcYOjSIGN AHSDAeTTHACANhVAKRAHASANYAnBANTOCeRIYOOSANiTHAMASATjEYYALgCAMNUC PI",
  "I KUUHoOENGfKAKABATgHANdOOMUUThLEK TOOhMUUSIKATOANlNIKAHIThPHNAEK MUANlREAHMUKgOBATfSAMYOK SANNYAnTOANDAKHIATkRIIS",
  "APhVIRIAMgYUUKALEAPINTUrYMBOL BEI KOETeROCgUON KOETeROCiDAP KOETeROCe-BEI KOETeROCgUON KOETeROCiMUOY KOETeROCiPII ",
  "KOETeROCgRAM KOETeROCmLEK ATTAK BEIcUONeMUOYePIIcRAMa-BEIcUONeMUOYePIIiSONnMUOY KOETeROCiPATHAMASATjII KOETeROCgRA",
  "M KOETeROCe-BEI KOETeROCgUON KOETeROCiMUOY KOETeROCiPII KOETeROCmTUTEYASATqVOWEL INHERENT AAbQlSIGN AAbEbIbUcEbIaE",
  "bIcOEbOcUaAbUcYaAbYrOJKI ABBREVIATION SIGNrDANDAeOUBLE DANDAfSECTION MARKtLETTER AaAbIbUcBAbBAcHAdCAbHAdDAbDAbDAcH",
  "AdHAdEbGAbGAcHAdHAcIbJAbJAdKAbHAdLAbLAdMAcNAbGAcNAcYAdObPAbHAdRAcSAcTAbHAcTAbHAeUbVAcYAjSECTION MARKlIGN ANUSVARAi",
  "NUKTAfSHADDAfUKUNfVIRAMAlVOWEL SIGN AAbIbUcEbIaIcObUmWORD SEPARATORtUDAWADI DIGIT EIGHTfFIVEdOUReNINEeONEdSEVENeIX",
  "dTHREEeWOdZEROkLETTER AaAbIbUcBAbBAcHAdCAbHAdDAbDAbDAcHAdHAdEbGAbGAcHAdHAcIaIcJAbHAcJAdKAbHAdLAcMAcNAbGAcNAcYAdObP",
  "AbHAdRAbRAdSAbHAdTAbHAcTAbHAeUaUcVAcYAjSIGN ANUSVARAiNUKTAfVIRAMAlVOWEL SIGN AAbIbUcEbIaIcObUaUwIMONOeP SIGNgSSa M",
  "ARKfING CAT FACE WITH CLOSED EYESzFACEa WITH CLOSED EYESlSMILING EYESzdTEcWIFRUITiNEELING PERSONnOTdOALAdREAN STAN",
  "DARD SYMBOLvRONOSgL B BAR SYMBOLnAB COATfELdCROSSE STICK AND BALLvDDERdY BEETLEjNGUAGE TAGkO CANCELLATION MARKrDIG",
  "IT EIGHTfFIVEdOUReNINEeONEdSEVENeIXdTHREEeWOdZEROkELLIPSISiHO MOcNOfKO LAfLETTER BOcCOcDOcFO FAYcONdSUNGeTAMgHO SU",
  "NGeTAMgKHMU GOcNYOgO SUNGeTAMgOcLOa LINGdOOThMOcNGOcObYOdObPALI BHAdCHAdDDAbHAdHAdGHAdJHAdLLAdNNAcYAdTTAbHAiHO SUN",
  "GeTAMgOcROcSANSKRIT SHAcSAlO SUNGeTAMgTHO SUNGeTAMgOcWOcYOjNIGGAHITAjSEMIVOWEL SIGN LOcNYOrIGN PALI VIRAMAqTONE MA",
  "I CATAWAgEKcTHOcIlVOWEL SIGN AaAbIbMbYcEaIcIaIcMAI KANcONhObUaUcYaYpRGE BLUE CIRCLEgDIAMONDhSQUAREkROWN CIRCLEgSQU",
  "AREmCIRCLEgDOWN TACKjGREEN CIRCLEgSQUAREmLEFT TRIANGLE OPERATORwONE DOT OVER TWO DOTS PUNCTUATIONzeRING OVER TWO R",
  "INGS PUNCTUATIONzjRANGE CIRCLEgDIAMONDhSQUAREnPURPLE CIRCLEgSQUAREnRED CIRCLEgSQUAREkTRIPLE VERTICAL BAR OPERATORz",
  "cWO DOTS OVER ONE DOT PUNCTUATIONzeRINGS OVER ONE RING PUNCTUATIONzkUP TACKhYELLOW CIRCLEgSQUAREoR THANa OR EQUAL ",
  "TOuI SIGNhST QUARTER MOONa SYMBOLgWITH FACEzTIN CAPITAL LETTER Aa WITH ACUTEfBREVEa AND ACUTEfDOT BELOWjGRAVEfHOOK",
  " ABOVEkTILDEpCARONeIRCUMFLEXa AND ACUTEfDOT BELOWjGRAVEfHOOK ABOVEkTILDEuDIAERESISa AND MACRONtOT ABOVEa AND MACRO",
  "NqBELOWhUBLE GRAVEmGRAVEfHOOK ABOVEkINVERTED BREVEoMACRONgOGONEKgRING ABOVEa AND ACUTEpBELOWkSTROKEgTILDElAbEa WIT",
  "H ACUTEfMACRONnFRICAN DiLPHAeNGLICANA WkObUbVa WITH HORIZONTAL BARvYcBa WITH DOT ABOVEfBELOWjFLOURISHiHOOKeLINE BE",
  "LOWkSTROKEgTOPBARmETAdROKEN LiCa WITH ACUTEfBARdCARONeEDILLAa AND ACUTEqIRCUMFLEXkDOT ABOVEjHOOKePALATAL HOOKmSTRO",
  "KEmHIcLOSED INSULAR GpONcUATRILLOa WITH COMMAuDa WITH CARONeEDILLAgIRCUMFLEX BELOWqDOT ABOVEfBELOWjHOOKeLINE BELOW",
  "kSHORT STROKE OVERLAYtMALL LETTER Za WITH CARONyTROKEgTOPBARmZa WITH CARONnEa WITH ACUTEfBREVEfCARONeEDILLAa AND B",
  "REVEqIRCUMFLEXa AND ACUTEfDOT BELOWjGRAVEfHOOK ABOVEkTILDEjBELOWqDIAERESISiOT ABOVEfBELOWhUBLE GRAVEmGRAVEfHOOK AB",
  "OVEkINVERTED BREVEoMACRONa AND ACUTEfGRAVEqOGONEKgSTROKEgTILDEa BELOWrGYPTOLOGICAL AINcLEFrNGcSHcTaHcZHa REVERSEDi",
  "WITH CARONoFa WITH DOT ABOVEjHOOKeSTROKEnGa WITH ACUTEfBREVEfCARONeEDILLAgIRCUMFLEXkDOT ABOVEjHOOKeMACRONgOBLIQUE ",
  "STROKEoSTROKEmAMMAeHAcLOTTAL AbIbSTOPeUjHa WITH BREVE BELOWlCARONeEDILLAgIRCUMFLEXkDESCENDERiIAERESISiOT ABOVEfBEL",
  "OWjHOOKeSTROKEmALF HfENGdWAIRfIa WITH ACUTEfBREVEfCARONeIRCUMFLEXkDIAERESISa AND ACUTEsOT ABOVEfBELOWhUBLE GRAVEmG",
  "RAVEfHOOK ABOVEkINVERTED BREVEoMACRONgOGONEKgSTROKEgTILDEa BELOWrNSULAR DbFbGbRbSbTiOTAdScJa WITH CIRCUMFLEXjROSSE",
  "D-TAILmSTROKEnKa WITH ACUTEfCARONeEDILLAhDESCENDERiIAGONAL STROKEoOT BELOWjHOOKeLINE BELOWkOBLIQUE STROKEoSTROKEa ",
  "AND DIAGONAL STROKEziLa WITH ACUTEfBARcELTeCARONeEDILLAgIRCUMFLEX BELOWqDOT BELOWa AND MACRONsUBLE BARkHIGH STROKE",
  "lLINE BELOWkMIDDLE DOTdTILDEmSMALL LETTER JnTROKEmJcMa WITH ACUTEfDOT ABOVEfBELOWjHOOKkIDDLE SCOTS Si-WELSH LLcVoN",
  "a WITH ACUTEfCARONeEDILLAgIRCUMFLEX BELOWqDESCENDERiOT ABOVEfBELOWjGRAVEfLEFT HOOKiINE BELOWjONG RIGHT LEGoOBLIQUE",
  " STROKEoSMALL LETTER JoTILDElJcOa WITH ACUTEfBREVEfCARONeIRCUMFLEXa AND ACUTEfDOT BELOWjGRAVEfHOOK ABOVEkTILDEuDIA",
  "ERESISa AND MACRONtOT ABOVEa AND MACRONqBELOWhUBLE ACUTEfGRAVEmGRAVEfHOOK ABOVEiRNa AND ACUTEfDOT BELOWjGRAVEfHOOK",
  " ABOVEkTILDEoINVERTED BREVEoLONG STROKE OVERLAYrOPeMACRONa AND ACUTEfGRAVEpIDDLE TILDEmOGONEKa AND MACRONrSTROKEa ",
  "AND ACUTEqTILDEa AND ACUTEfDIAERESISjMACRONwIbLD POLISH OlMEGAeObPEN EbOfUcPa WITH ACUTEfDOT ABOVEjFLOURISHiHOOKeS",
  "QUIRREL TAILmTROKEa THROUGH DESCENDERzgQa WITH DIAGONAL STROKEpSTROKE THROUGH DESCENDERzgRa ROTUNDAhWITH ACUTEfCAR",
  "ONeEDILLAhDOT ABOVEfBELOWa AND MACRONsUBLE GRAVEmINVERTED BREVEoLINE BELOWkOBLIQUE STROKEoSTROKEgTAILkEVERSED C WI",
  "TH DOTkEbHALF HgOPEN EoUM ROTUNDAlSa WITH ACUTEa AND DOT ABOVEtCARONa AND DOT ABOVEsEDILLAgIRCUMFLEXjOMMA BELOWlDO",
  "T ABOVEfBELOWa AND DOT ABOVExHOOKeOBLIQUE STROKEoSHORT STROKE OVERLAYtWASH TAILqALTILLOhCHWAdRIPT GhHARP SgIGMOID ",
  "SiMALL CAPITAL IjQ WITH HOOK TAILwTa WITH CARONeEDILLAgIRCUMFLEX BELOWpOMMA BELOWlDIAGONAL STROKEoOT ABOVEfBELOWjH",
  "OOKeLINE BELOWkRETROFLEX HOOKoSTROKEmHORNa WITH STROKEa THROUGH DESCENDERzjONE FIVEeSIXdTWOhRESILLOhURNED AaLPHAfH",
  "bINSULAR GjKbLbMbTbVhZcUa BARdWITH ACUTEfBREVEfCARONeIRCUMFLEXa BELOWqDIAERESISa AND ACUTEfCARONfGRAVEfMACRONkBELO",
  "WoOT BELOWhUBLE ACUTEfGRAVEmGRAVEfHOOK ABOVEiRNa AND ACUTEfDOT BELOWjGRAVEfHOOK ABOVEkTILDEoINVERTED BREVEoMACRONa",
  " AND DIAERESISuOGONEKgRING ABOVEkSTROKEgTILDEa AND ACUTEjBELOWrPSILONhVa WITH DIAGONAL STROKEoOT BELOWjHOOKeTILDEl",
  "ENDdISIGOTHIC ZlOLAPUK AEcOEcUEjYcWa WITH ACUTEfCIRCUMFLEXkDIAERESISiOT ABOVEfBELOWjGRAVEfHOOKkYNNeXa WITH DIAERES",
  "ISiOT ABOVEqYa WITH ACUTEfCIRCUMFLEXkDIAERESISiOT ABOVEfBELOWjGRAVEfHOOKa ABOVEkLOOPeMACRONgSTROKEgTILDElOGHeZa WI",
  "TH ACUTEfCARONeIRCUMFLEXkDESCENDERiOT ABOVEfBELOWjHOOKeLINE BELOWkPALATAL HOOKmSTROKEfWASH TAILxIGATURE IJcOEsROSS",
  "fEPIGRAPHIC LETTER ARCHAIC MjI LONGAgNVERTED MkREVERSED FbPkSIDEWAYS IzdLETTER AINcLVEOLAR CLICKoBIDENTAL PERCUSSI",
  "VErLABIAL CLICKfPERCUSSIVEtDENTAL CLICKmGLOTTAL STOPa WITH STROKEyINVERTED GLOTTAL STOPa WITH CURLeSTROKEziLATERAL",
  " CLICKnPHARYNGEAL VOICED FRICATIVEzcRETROFLEX CLICKa WITH RETROFLEX HOOKziVERSED ESH LOOPiGLOTTAL STOP WITH STROKE",
  "ziSINOLOGICAL DOToMALL CAPITAL AaEcBaARRED BiCbDbEaTHcZHdFbGa WITH HOOKlHbIaNVERTED RkJbKbLa WITH BELTeSTROKEnMbNb",
  "OaEbPEN OfUcPbQbRa WITH RIGHT LEGpEVERSED NbRjUMdSbTaURNED EbGbKbMbRiUbVbWbYbZoTRETCHED Ca WITH CURLvTWO WITH STRO",
  "KEpVOICED LARYNGEAL SPIRANTyWYNNeYRjSMALL CAPITAL LETTER I WITH STROKEnU WITH STROKEzdLETTER Aa REVERSED-SCHWAoWIT",
  "H ACUTEfBREVEa AND ACUTEfDOT BELOWjGRAVEfHOOK ABOVEkTILDEpCARONeIRCUMFLEXa AND ACUTEfDOT BELOWjGRAVEfHOOK ABOVEkTI",
  "LDEuDIAERESISa AND MACRONtOT ABOVEa AND MACRONqBELOWhUBLE GRAVEmGRAVEfHOOK ABOVEkINVERTED BREVEoMACRONgOGONEKgRETR",
  "OFLEX HOOKnIGHT HALF RINGnNG ABOVEa AND ACUTEpBELOWkSTROKEgTILDElAbEa WITH ACUTEfMACRONnLPHAa WITH RETROFLEX HOOKy",
  "NGLICANA WkObUbVa WITH HORIZONTAL BARvYcBa WITH DOT ABOVEfBELOWjFLOURISHiHOOKeLINE BELOWkMIDDLE TILDEmPALATAL HOOK",
  "mSTROKEgTOPBARmARRED ALPHAfEbOgSELINE ESHlETAdLACKLETTER EbOa WITH STROKEyOTTOM HALF OmROKEN LiCa WITH ACUTEfBARdC",
  "ARONeEDILLAa AND ACUTEqIRCUMFLEXjURLeDOT ABOVEjHOOKePALATAL HOOKmRETROFLEX HOOKoSTROKEmHIa WITH LOW LEFT SERIFkRIG",
  "HT RINGwLOSED INSULAR GjOMEGAePEN EgREVERSED OPEN EvONcUATRILLOa WITH COMMAuDa WITH CARONeEDILLAgIRCUMFLEX BELOWpU",
  "RLeDOT ABOVEfBELOWjHOOKa AND TAILnLINE BELOWkMIDDLE TILDEmPALATAL HOOKmSHORT STROKE OVERLAYtTROKEgTAILdOPBARmB DIG",
  "RAPHjELTAdZH DIGRAPHa WITH PALATAL HOOKmRETROFLEX HOOKzgOTLESS IbJa WITH STROKEa AND HOOKzdUBLE Ra WITH CROSSED-TA",
  "ILtTHORNfWYNNkUMcZa DIGRAPHa WITH CURLeRETROFLEX HOOKzcWITH CARONnEa WITH ACUTEfBREVEfCARONeEDILLAa AND BREVEqIRCU",
  "MFLEXa AND ACUTEfDOT BELOWjGRAVEfHOOK ABOVEkTILDEjBELOWqDIAERESISiOT ABOVEfBELOWhUBLE GRAVEmFLOURISHiGRAVEfHOOK AB",
  "OVEkINVERTED BREVEoMACRONa AND ACUTEfGRAVEqNOTCHfOGONEKgRETROFLEX HOOKoSTROKEgTILDEa BELOWrGYPTOLOGICAL AINcLEFrNG",
  "a WITH CROSSED-TAILmPALATAL HOOKuSHa WITH CURLeDOUBLE BARa AND CURLtPALATAL HOOKmRETROFLEX HOOKwTaHcZHa REVERSEDiW",
  "ITH CARONeURLePALATAL HOOKmRETROFLEX HOOKoTAILnFa WITH DOT ABOVEjHOOKeMIDDLE TILDEmPALATAL HOOKmSTROKEmENG DIGRAPH",
  "a WITH TRILLxGa WITH ACUTEfBREVEfCARONeEDILLAgIRCUMFLEXkDOT ABOVEjHOOKeMACRONgOBLIQUE STROKEoPALATAL HOOKmSTROKEmA",
  "MMAeHAcLOTTAL AbIbSTOPeUjHa WITH BREVE BELOWlCARONeEDILLAgIRCUMFLEXkDESCENDERiIAERESISiOT ABOVEfBELOWjHOOKeLINE BE",
  "LOWkPALATAL HOOKmSTROKEmALF HfENGa WITH HOOKnVcIa WITH ACUTEfBREVEfCARONeIRCUMFLEXkDIAERESISa AND ACUTEsOT BELOWhU",
  "BLE GRAVEmGRAVEfHOOK ABOVEkINVERTED BREVEoMACRONgOGONEKgRETROFLEX HOOKoSTROKEa AND RETROFLEX HOOKzTILDEa BELOWrNSU",
  "LAR DbFbGbRbSbThVERTED ALPHAfOEkOTAa WITH STROKEnIFIED EjScJa WITH CARONeIRCUMFLEXjROSSED-TAILmSTROKEnKa WITH ACUT",
  "EfCARONeEDILLAhDESCENDERiIAGONAL STROKEoOT BELOWjHOOKeLINE BELOWkOBLIQUE STROKEoPALATAL HOOKmSTROKEa AND DIAGONAL ",
  "STROKEzhRAdLa WITH ACUTEfBARcELTa AND PALATAL HOOKvCARONeEDILLAgIRCUMFLEX BELOWpURLeDOT BELOWa AND MACRONsUBLE BAR",
  "dMIDDLE TILDEtFISHHOOKiHIGH STROKElINVERTED LAZY SpLINE BELOWkMIDDLE DOTdRINGeTILDEmPALATAL HOOKmRETROFLEX HOOKa A",
  "ND BELTxSTROKEmAMBDA WITH STROKErENIS FfZHa WITH RETROFLEX HOOKxJbONG Sa WITH DIAGONAL STROKEoOT ABOVEjHIGH STROKE",
  "wS DIGRAPHjUMcZ DIGRAPHkMa WITH ACUTEfCROSSED-TAILmDOT ABOVEfBELOWjHOOKeMIDDLE TILDEmPALATAL HOOKsIDDLE SCOTS Si-W",
  "ELSH LLcVnUMdNa PRECEDED BY APOSTROPHEwWITH ACUTEfCARONeEDILLAgIRCUMFLEX BELOWpROSSED-TAILlURLeDESCENDERiOT ABOVEf",
  "BELOWjGRAVEfLEFT HOOKiINE BELOWjONG RIGHT LEGoMIDDLE TILDEmOBLIQUE STROKEoPALATAL HOOKmRETROFLEX HOOKoTILDElJbUMdO",
  "a WITH ACUTEfBREVEfCARONeIRCUMFLEXa AND ACUTEfDOT BELOWjGRAVEfHOOK ABOVEkTILDEuDIAERESISa AND MACRONtOT ABOVEa AND",
  " MACRONqBELOWhUBLE ACUTEfGRAVEmGRAVEfHOOK ABOVEiRNa AND ACUTEfDOT BELOWjGRAVEfHOOK ABOVEkTILDEoINVERTED BREVEoLONG",
  " STROKE OVERLAYrOPcW RING INSIDEpMACRONa AND ACUTEfGRAVEqOGONEKa AND MACRONrRETROFLEX HOOKoSTROKEa AND ACUTEqTILDE",
  "a AND ACUTEfDIAERESISjMACRONwIbLD POLISH OlMEGAeObPEN Ea WITH RETROFLEX HOOKvOa WITH RETROFLEX HOOKoSTROKEmEgUcPa ",
  "WITH ACUTEfDOT ABOVEjFLOURISHiHOOKeMIDDLE TILDEmPALATAL HOOKmSQUIRREL TAILmTROKEa THROUGH DESCENDERzfHIdQa WITH DI",
  "AGONAL STROKEpHOOKa TAILjSTROKE THROUGH DESCENDERzfP DIGRAPHkRa ROTUNDAhWITH ACUTEfCARONeEDILLAgROSSED-TAILmDOT AB",
  "OVEfBELOWa AND MACRONsUBLE GRAVEmFISHHOOKa AND MIDDLE TILDEmPALATAL HOOKzINVERTED BREVEoLINE BELOWjONG LEGiMIDDLE ",
  "TILDEmOBLIQUE STROKEoPALATAL HOOKmSTROKEgTAILfOUT HANDLEpAMS HORNiEVERSED Ca WITH DOTkEaNGdHALF HgKbOPEN Ea WITH H",
  "OOKeRETROFLEX HOOKzbR WITH FISHHOOKpSCRIPT GqUMa ROTUNDAlSa WITH ACUTEa AND DOT ABOVEtCARONa AND DOT ABOVEsEDILLAg",
  "IRCUMFLEXjOMMA BELOWkURLeDOT ABOVEfBELOWa AND DOT ABOVExHOOKeMIDDLE TILDEmOBLIQUE STROKEoPALATAL HOOKmSHORT STROKE",
  " OVERLAYtWASH TAILqAKHA YAThLTILLOhCHWAa WITH HOOKeRETROFLEX HOOKxRIPT Ga WITH CROSSED-TAILtRa WITH RINGrHARP SgID",
  "EWAYS DIAERESIZED UnOa WITH STROKEmPEN OgTURNED MiUiGMOID SiQUAT REVERSED ESHrTIRRUP RjTa WITH CARONeEDILLAgIRCUMF",
  "LEX BELOWpOMMA BELOWkURLeDIAERESISgGONAL STROKEoOT ABOVEfBELOWjHOOKa AND RETROFLEX HOOKxLINE BELOWkMIDDLE TILDEmPA",
  "LATAL HOOKmRETROFLEX HOOKoSTROKEmAILLESS PHIlC DIGRAPH WITH CURLtESH DIGRAPHa WITH PALATAL HOOKmRETROFLEX HOOKzgH ",
  "WITH STRIKETHROUGHtORNa WITH STROKEa THROUGH DESCENDERzjONE FIVEeSIXdTWOgP HALF OjRESILLOhS DIGRAPHa WITH RETROFLE",
  "X HOOKzeUMbRNED AaEbLPHAfDELTAfEbGbHa WITH FISHHOOKa AND TAILyIaNSULAR GjKbLbMa WITH LONG LEGpO OPEN-Oa WITH STROK",
  "EtEa WITH HORIZONTAL STROKErSTROKEnPEN EgRa WITH HOOKeLONG LEGa AND RETROFLEX HOOKzcMIDDLE TILDEmPALATAL HOOKmTAIL",
  "lTa WITH CURLlUIcVbWbYa WITH BELTrZcUa BARa WITH SHORT RIGHT LEGyWITH ACUTEfBREVEfCARONeIRCUMFLEXa BELOWqDIAERESIS",
  "a AND ACUTEfCARONfGRAVEfMACRONkBELOWoOT BELOWhUBLE ACUTEfGRAVEmGRAVEfHOOK ABOVEiRNa AND ACUTEfDOT BELOWjGRAVEfHOOK",
  " ABOVEkTILDEoINVERTED BREVEoLEFT HOOKjMACRONa AND DIAERESISuOGONEKgRETROFLEX HOOKnING ABOVEkSHORT RIGHT LEGoTROKEg",
  "TILDEa AND ACUTEjBELOWrEbIbMbObPSILONa WITH STROKEtVa WITH CURLeDIAGONAL STROKEoOT BELOWjHOOKePALATAL HOOKmRIGHT H",
  "OOKkTILDElENDdISIGOTHIC ZlOLAPUK AEcOEcUEjYcWa WITH ACUTEfCIRCUMFLEXkDIAERESISiOT ABOVEfBELOWjGRAVEfHOOKeRING ABOV",
  "ErXa WITH DIAERESISiOT ABOVEjLONG LEFT LEGa AND LOW RIGHT RINGsWITH SERIFwW RIGHT RINGoPALATAL HOOKtYa WITH ACUTEf",
  "CIRCUMFLEXkDIAERESISiOT ABOVEfBELOWjGRAVEfHOOKa ABOVEkLOOPeMACRONgRING ABOVEkSHORT RIGHT LEGoTROKEgTILDElOGHeZa WI",
  "TH ACUTEfCARONeIRCUMFLEXjURLeDESCENDERiOT ABOVEfBELOWjHOOKeLINE BELOWkMIDDLE TILDEmPALATAL HOOKmRETROFLEX HOOKoSTR",
  "OKEfWASH TAILxIGATURE FFaIbLcIbLcIJcLONG S TiOEcSTqUBSCRIPT SMALL LETTER AbEbHbIbJbKbLbMbNbObPbRbSaCHWAfTbUbVbXzeE",
  "AF FLUTTERING IN WINDtY GREENjDGEReFT AND LOWER AND RIGHT TRIANGULAR THREE QUARTERS BLOCKzqONE EIGHTH BLOCKwRIGHT ",
  "DOUBLE TURNSTILEqTACKdRIANGULAR HALF BLOCKzcUPPER AND RIGHT TRIANGULAR THREE QUARTERS BLOCKzqONE EIGHTH BLOCKyGER ",
  "BUBBLEjLE BRACKETa WITH DOTvRC LESS-THAN BRACKETtROW WITH CIRCLED PLUSmSMALL CIRCLExBARB DOWN RIGHT BARB DOWN HARP",
  "OONmUP HARPOONzbUP RIGHT BARB DOWN HARPOONmUP HARPOONzdLACK LENTICULAR BRACKETsTORTOISE SHELL BRACKETzdCEILINGgLOS",
  "ED ENTRYlORNER BRACKETnURLY BRACKETa LOWER HOOKkMIDDLE PIECEmUPPER HOOKyDOTTED SUBSTITUTION BRACKETzUBLE ANGLE BRA",
  "CKETnPARENTHESISlQUOTATION MARKoWIGGLY FENCEtFISH TAILhVE EIGHTHS BLOCKrLOORfHALF BLACK CIRCLEgSTARiOCKfCIRCLEa WI",
  "TH DOTdFOUR DOTSjTHREE DOTSjWO DOTSuFOLDERgINVERSE MEDIUM SHADE AND RIGHT HALF BLOCKzqMEDIUM SHADEmRUNNING MANoND ",
  "TELEPHONE RECEIVERxLOW PARAPHRASE BRACKETvUGGAGEhMULTIMAPiNORMAL FACTOR SEMIDIRECT PRODUCTzhONE EIGHTH BLOCKmQUART",
  "ER BLOCKqUTER JOINkPARENTHESISa EXTENSIONjLOWER HOOKkUPPER HOOKwRAISED OMISSION BRACKETwIGHT ARROWa THROUGH SMALL ",
  "CIRCLEuWITH DOUBLE VERTICAL STROKEwSTROKEgVERTICAL STROKEzbBLACK ARROWlDOUBLE ARROWa WITH STROKEgVERTICAL STROKEzi",
  "OPEN-HEADED ARROWrSANS-SERIF ARROWqTRIANGLE-HEADED ARROWvWAVE ARROWjHITE ARROWrS-SHAPED BAG DELIMITERvEMIDIRECT PR",
  "ODUCTqVEN EIGHTHS BLOCKsIDEWAYS U BRACKETqNGLE QUOTATION MARKuPEECH BUBBLEmQUARE BRACKETa EXTENSIONjLOWER CORNERmU",
  "PPER CORNERmWITH DOUBLE STROKEnQUILLfSTROKEgTICK IN BOTTOM CORNERnTOP CORNERsUNDERBARzcUBSTITUTION BRACKETuTACKdHI",
  "RD WHITE RIGHT POINTING INDEXzfOUGHT BUBBLEmREE EIGHTHS BLOCKnQUARTERS BLOCKtORTOISE SHELL BRACKETvRANSPOSITION BR",
  "ACKETtIANGLE BESIDE VERTICAL BARwULAR ONE QUARTER BLOCKzdVERTICAL BAR WITH QUILLnOX LINErWHITE CORNER BRACKETnURLY",
  " BRACKETnLENTICULAR BRACKETsPARENTHESISlSQUARE BRACKEToTORTOISE SHELL BRACKETzcIGGLY FENCElRITING HANDn-FACING ARM",
  "ENIAN ETERNITY SIGNwFISTeSVASTI SIGNa WITH DOTSzdHANDED INTERLACED PENTAGRAMzcPOINTING ANGLE BRACKETnCURVED ANGLE ",
  "BRACKETuDOUBLE ANGLE QUOTATION MARKzcMAGNIFYING GLASSzSHADED WHITE RIGHTWARDS ARROWzdIDE ARC ANTICLOCKWISE ARROWzd",
  "TO-RIGHT EMBEDDINGjISOLATEhMARKeOVERRIDEsWARDS ARROWa ABOVE ALMOST EQUAL TOpREVERSE ALMOST EQUAL TOpTILDE OPERATOR",
  "wSHORT RIGHTWARDS ARROWwTILDE OPERATORtND UPPER AND LOWER ONE EIGHTH BLOCKzlFROM BARa TO BLACK DIAMONDzOVER RIGHTW",
  "ARDS ARROWvTHROUGH LESS-THANjSUBSETgXiO BARa OVER RIGHTWARDS ARROW TO BARzgLACK DIAMONDqWITH DOTTED STEMjUBLE VERT",
  "ICAL STROKEwEQUILATERAL ARROWHEADvHOOKeLARGE TRIANGLE ARROWHEADxOOPeMEDIUM TRIANGLE ARROWHEADzNOTCHED TAILmPLUS BE",
  "LOWkSMALL EQUILATERAL ARROWHEADvTRIANGLE ARROWHEADxTROKEgTAILa WITH DOUBLE VERTICAL STROKEwVERTICAL STROKEyIP DOWN",
  "WARDSjUPWARDSlVERTICAL STROKEv-TAILkBACK-TILTED SHADOWED WHITE ARROWzgLACK ARROWfCIRCLED WHITE ARROWyOTTOM-SHADED ",
  "WHITE ARROWzCOMPRESSED ARROWqDASHED ARROWlOUBLE ARROWa FROM BARiWITH STROKEgVERTICAL STROKEv-TAILkDASH ARROWrFINGE",
  "R-POST ARROWqRONT-TILTED SHADOWED WHITE ARROWziHANDcRPOON OVER RIGHTWARDS HARPOONxWITH BARB DOWN ABOVE RIGHTWARDS ",
  "HARPOON WITH BARB DOWNzoBELOW LONG DASHpFROM BARiTO BARhWARDSjUP ABOVE LEFTWARDS HARPOON WITH BARB DOWNzgONG DASHj",
  "RIGHTWARDS HARPOON WITH BARB UPzmFROM BARiTO BARhWARDSyEAVY ARROWfCOMPRESSED ARROWwLEFT-SHADED WHITE ARROWxOPEN-HE",
  "ADED ARROWrPAIRED ARROWSnQUADRUPLE ARROWpRIGHT-SHADED WHITE ARROWxOCKETgSANS-SERIF ARROWpQUARED ARROWkIGGLE ARROWo",
  "TOP SHADED WHITE ARROWvRIANGLE ARROWHEADk-HEADED ARROWa OVER RIGHTWARDS TRIANGLE-HEADED ARROWzmTO BARgWITH BOLD SH",
  "AFTkDOUBLE HORIZONTAL STROKErVERTICAL STROKEwHEAVY SHAFTlLONG TIP DOWNWARDSjUPWARDSqMEDIUM SHAFTmNARROW SHAFTmVERY",
  " HEAVY SHAFTzcDASHED ARROWmPAIRED ARROWSzbPLE ARROWfDASH ARROWqWO HEADED ARROWn-HEADED ARROW FROM BARiWITH DOUBLE ",
  "VERTICAL STROKEwTAILa WITH DOUBLE VERTICAL STROKEwVERTICAL STROKEyRIANGLE ARROWHEADStVERTICAL STROKEzbTRIPLE DASH ",
  "ARROWzdWAVE ARROWjHITE ARROWa WITHIN TRIANGLE ARROWHEADzuGbMONdOaPARDfPCHA CONSONANT SIGN KaANGeLbMbNaYIN-DOhPbRbT",
  "qDIGIT EIGHTfFIVEdOUReNINEeONEdSEVENeIXdTHREEeWOdZEROkLETTER AbBAbLAdCAbHAdDAbDAcZAdFAbLAdGAbLAdHAbLAdJAcKAbHAcLAd",
  "LAcMAbLAdNAbGAcYAdPAbHAcLAdRAcSAbHAdTAbHAcSAbHAdTAbHAeVAcWAcYAjPUNCTUATION CER-WAgNYET THYOOM TA-ROLsTA-ROLfSHOOKa",
  " CER-WAzSIGN NUKTAfRANhUBJOINED LETTER RAcYAtVOWEL SIGN AAcEbIbOaOcUaUsSS-THAN ABOVE DOUBLE-LINE EQUAL ABOVE GREAT",
  "ER-THANzlGREATER-THAN ABOVE DOUBLE-LINE EQUALzlLEFTWARDS ARROWpSIMILAR ABOVE GREATER-THANsOR EQUALpLANTED EQUAL AB",
  "OVE GREATER-THAN ABOVE SLANTED EQUALzzhND NOT APPROXIMATEpSINGLE-LINE NOT EQUAL TOzdBUT NOT EQUAL TOfIVALENT TOvCL",
  "OSED BY CURVEa ABOVE SLANTED EQUALzkEQUAL TO OR GREATER-THANyOR APPROXIMATElEQUAL TOfIVALENT TOnGREATER-THANmSLANT",
  "ED EQUAL TOa WITH DOT ABOVEa RIGHTlINSIDEzjVER EQUAL TOnSIGNeWITH CIRCLE INSIDEnDOTdQUESTION MARK ABOVEzhVEL SLIDE",
  "RlFbIBRAdGATURE OPEN ET ORNAMENTwHT CHECK MARKkEIGHT SPOKED ASTERISKvFIVE POINTED BLACK STARsSPOKED ASTERISKtOUR P",
  "OINTED BLACK CUSPeSTARxGREEK CROSSlLEFT TORTOISE SHELL BRACKET ORNAMENTzlRAILdIGHT TORTOISE SHELL BRACKET ORNAMENT",
  "zmSALTIREgHADEeIX SPOKED ASTERISKtTHREE POINTED BLACK STARxWELVE POINTED BLACK STARzVERTICAL BARmWHITE SQUAREnNING",
  "a MOODa BUBBLEtMBU DIGIT EIGHTfFIVEdOUReNINEeONEdSEVENeIXdTHREEeWOdZEROkEXCLAMATION MARKqLETTER BAbHAdCAbHAdDAbHAd",
  "GAbHAcYANeHAcJAbHAdKAbHAdLAcMAcNAbGAdPAbHAdRAcSAbHAcSAdTAbHAcRAdWAcYAaNkQUESTION MARKnSIGN KEMPHRENGjLOOdMUKPHRENG",
  "jSA-IiMALL LETTER ANUSVARAiKAcLAcMAcNAbGAdPAcRAcTAoUBJOINED LETTER RAcWAcYAtVOWEL SIGN AaIbUcEaEcIbOaOcUh-CARRIER ",
  "LETTERxITED LIABILITY SIGNuNE FEEDeINTEGRATION NOT INCLUDING THE POLEwWITH RECTANGULAR PATH AROUND POLEzdSEMICIRCU",
  "LAR PATH AROUND POLEzvSEPARATORjTABULATIONa SETpAR A SIGN A028Be100-102g20Bd31Ce301b2b3b4b5b6b7b8b9AbBbCd10b1b2b3A",
  "bBbCc4b5b6b7b8b9c20b1b2b3b4b5b6b7b8b9c30b1b2b3b4b5b6b7b8b9c40b1b2b3b4b5b6b7b8b9c50b1b2b3b4b5b6b7b8b9c60b1b2b3b4b5b",
  "6b7b8b9c70b1d400-VASf1-VASf2-VASf3-VASf4-VASf5-VASf6-VASf7-VASf8-VASf9-VASg10-VASf1-VASf2-VASf3-VASf4-VASf5-VASf6-",
  "VASf7-VASf8-VASh501b2b3b4b5b6b8b9c10b1b2b3b5b6c20b1b3b4b5b6b7b8b9c30b1b2b4b5b6b7b8b9c40b1b2b5b7b8b9c50b1b2b3b4b5b6",
  "b7b9c63b4b5b6b8b9c70b1b2b3b4b5b6b7b8b9c80b1b2b3b4b5b6b7b8b9c91b2b4b5b6b8d600b1b2b3b4b6b8b9c10b1b2b3b4b5b6b7b8b9c20",
  "b1b2b3b4b6b7b8b9c34b7b8c40b2b3b4b5b6b8b9c51b2b3b4b5b6b7b8b9c60b1b2b3b4d701 Ad2 Bd3 Dd4 Ed5 Fd6 Hd7 Jd8 Kd9 Lc-2 L2",
  "e3 L3e4 L4e6 L6h10 Wd1 Xd2 Yd3 OMEGAh4 ABBf5 BBe7 DDf26 EYYYh32 JEg800b1b2b3b4b5b6b7dB001b2b3b4b5b6b7b8b9c10b1b3b6",
  "b7c20b1aFbMc2aFbMc3aMc4b6b7b8b9c30b1b4b7b8b9c40b1b4b5b6b7b8b9c50b1b3b4b5b6b7b8b9c60b1b5b6b7b9c70b3b4b6b7b8b9c80b1b",
  "2b5b6b7d118c20b2b3c31AbBd64c71c80b8c91mB IDEOGRAM B100 MANf2 WOMANh4 DEERg5 EQUIDgF MAREgM STALLIONl6F EWEfM RAMg7",
  "F SHE-GOATkM HE-GOATk8F SOWfM BOARh9F COWfM BULLi20 WHEATh1 BARLEYi2 OLIVEh3 SPICEh5 CYPERUSk30 OILf1 WINEg2c40 BR",
  "ONZEi1 GOLDg2b5 WOOLg6c50b1 HORNg2b3b4b7b8b9 CLOTHi60b1b2 GARMENTj3 ARMOURi4b5b6b7b8b9c70b1b2b3 MONTHh4b6 TREEg7b8",
  "b9c80b1b2b3b4b5b9c90b1 HELMETk220 FOOTSTOOLl5 BATHTUBk30 SPEARh1 ARROWh2b3 SWORDh4b6c40 WHEELED CHARIOTr1 CHARIOTj",
  "2 CHARIOT FRAMEp3 WHEELh5b6b8b9c51b2b3b4 DARTg5b6b7b8b9eVESSEL B155d200b1b2b3b4b5b6b7b8b9c10b1b2b3b4b5b6b7b8b9c21b",
  "2b6b7b8b9c50d305uMONOGRAM B127 KAPOg8 KANAKOj33 AREPAh5 MERIh56 TURO2j247 DIPTEtSYLLABLE B001 DAe2 ROe3 PAe4 TEe5 ",
  "TOe6 NAe7 DIe8 Ad9 SEf10 Ud1 POe2 SOe3 MEe4 DOe5 MOe6 QAe7 ZAf20 ZOe1 QIe3 MUe4 NEe5 A2e6 RUe7 REe8 Id9 PU2g30 NIe",
  "1 SAe2 QOe3 RA3f6 JOe7 TIe8 Ed9 PIf40 WIe1 SIe2 WOe3 A3e4 KEe5 DEe6 JEe8 NWAg50 PUe1 DUe2 NOe3 RIe4 WAe5 NUe7 JAe8",
  " SUe9 TAf60 RAe1 Od2 PTEf5 JUe6 TA2f7 KIe8 RO2f9 TUf70 KOe1 DWEf2 PEe3 MIe4 ZEe5 WEe6 RA2f7 KAe8 QEf80 MAe1 KUe5 A",
  "Ue7 TWEg90 DWOf1 TWOpMBOL B018b9c22c34c47b9c56c63b4c79c82b3b6b9rK SYMBOLhED PAPERCLIPSpON FACEhPSaTICKgRA SIGNhSU ",
  "LETTER AaEcBAcCAbHAdDAbZAdEaUcFAcGAbHAdHAbHAdIbJAcKAbHAdLAcMAcNAbGAdOaEcPAbHAdSAbHAdTAbHAcONE MYA BOcCYAdJEUdNAcTI",
  "gNA POjSAbHAeUaEbHcWAcXAcYAbHAdZAbHAkPUNCTUATION COMMAfFULL STOPyVRE TOURNOIS SIGNrZARDfLAMAeOBSTERfCKa WITH INK P",
  "ENnING-SHIFT ONEdZEROqGICAL ANDa WITH DOT ABOVEhUBLE OVERBARhUNDERBARpHORIZONTAL DASHpMIDDLE STEMlUNDERBARrORa OVE",
  "RLAPPING LOGICAL ANDxWITH DOT ABOVEhUBLE OVERBARhUNDERBARpHORIZONTAL DASHpMIDDLE STEMzLLIPOPgNG DASH FROM LEFT MEM",
  "BER OF DOUBLE VERTICALzoIVISIONhRUMeLEFT RIGHT ARROWfDOUBLE ARROWsTACKfWARDS ARROWa FROM BARoDOUBLE ARROWa FROM BA",
  "RvSQUIGGLE ARROWyRIGHT TACKfWARDS ARROWa FROM BARoDOUBLE ARROWa FROM BARvSQUIGGLE ARROWzdTION BOTTLEkUSdUDLY CRYIN",
  "G FACEqVE HOTELfLETTERjW ASTERISKiBATTERYgRIGHTNESS SYMBOLrDOUBLE PRIME QUOTATION MARKzcKAVYKAa WITH DOTpLINEfER B",
  "LADE SCISSORSoFIVE EIGHTHS BLOCKsHALF BLOCKfCIRCLEgINVERSE WHITE CIRCLEuMEDIUM SHADErLEFT BALLPOINT PENmLOCK DIAGO",
  "NAL LOWER MIDDLE LEFT TO LOWER CENTREgRIGHTzhUPPER CENTRE TO LOWER MIDDLE RIGHTmRIGHTlUPPER MIDDLE RIGHTzdLEFT TO ",
  "LOWER CENTREgMIDDLE RIGHTsUPPER MIDDLE RIGHTzbMIDDLE LEFT TO LOWER CENTREgMIDDLE RIGHTmRIGHTzwCRAYONgFOUNTAIN PENm",
  "PAINTBRUSHjENCILgQUADRANT CIRCULAR ARCvSEMICIRCULAR ANTICLOCKWISE ARROWzhTRIANGLEcULAR MEDIUM SHADEzdONE EIGHTH BL",
  "OCKmQUARTER BLOCKrRIGHT BLOCK DIAGONAL LOWER CENTRE TO LOWER MIDDLE RIGHTsUPPER MIDDLE RIGHTmRIGHTvLEFT TO LOWER M",
  "IDDLE RIGHTsUPPER CENTREgMIDDLE RIGHTzbMIDDLE LEFT TO UPPER CENTREgMIDDLE RIGHTmRIGHTzhUPPER MIDDLE LEFT TO UPPER ",
  "CENTREgRIGHTzwCORNER WITH DOTpDROP-SHADOWED WHITE SQUAREzbPENCILgQUADRANT CIRCULAR ARCvSEMICIRCULAR CLOCKWISE ARRO",
  "WzcHADOWED WHITE CIRCLEgSQUAREvTRIANGLEcULAR MEDIUM SHADEzeSEVEN EIGHTHS BLOCKtTHREE EIGHTHS BLOCKnQUARTERS BLOCKt",
  "RIANGULAR ONE QUARTER BLOCKzhZENGEa DIVIDED BY HORIZONTAL RULEziREbIbMbOcUGGAGEfNGSeYCIAN LETTER AaNcBaHcDbEaNcGbH",
  "bIbJbKaKcLbMaMcNaNcPbQbRbSbTaHbTcUbWbXbZnDIAN LETTER AaNcBbCbDbEaNcFbGbIbKbLaYcMbNaNcObQbRbSaScTaTcUbVbYiTRIANGULA",
  "R MARKuING FACEkMACRONeGEbIC WANDhNETeHAJANI ABBREVIATION SIGNrLETTER AbBAbHAdCAbHAdDAbDAbHAdHAdEbGAbHAdHAcIbJAbHA",
  "dKAbHAdLAcMAcNAbNAcYAdObPAbHAdRAbRAdSAcTAbHAcTAbHAeUbVAiIGATURE SHRInSECTION MARKlIGN NUKTAqJONG TILE AUTUMNgBACKc",
  "MBOOgCHRYSANTHEMUMnEAST WINDiIGHT OF BAMBOOShCHARACTERSjIRCLESqFIVE OF BAMBOOShCHARACTERSjIRCLESoOUR OF BAMBOOShCH",
  "ARACTERSjIRCLESpGREEN DRAGONmJOKERfNINE OF BAMBOOShCHARACTERSjIRCLESoORTH WINDkONE OF BAMBOOShCHARACTERSjIRCLESnRC",
  "HIDgPLUMeRED DRAGONkSEVEN OF BAMBOOShCHARACTERSjIRCLESpIX OF BAMBOOShCHARACTERSjIRCLESnOUTH WINDjPRINGfUMMERgTHREE",
  " OF BAMBOOShCHARACTERSjIRCLESpWO OF BAMBOOShCHARACTERSjIRCLESoWEST WINDiHITE DRAGONlINTERrKASAR ANGKAfEND OF SECTI",
  "ONoLETTER AbBAcCAcDAcGAcJAcKAcLAcMAcNAbGAcYAdPAcRAcSAcTAcVAcYAjPASSIMBANGkVOWEL SIGN EbIbObUsLAYALAM AU LENGTH MAR",
  "KoDATE MARKiIGIT EIGHTfFIVEdOUReNINEeONEdSEVENeIXdTHREEeWOdZEROkFRACTION ONE EIGHTHgFIFTHeORTIETHiHALFeONE-HUNDRED",
  "-AND-SIXTIETHyQUARTERhSIXTEENTHjTENTHeWENTIETHnTHREE EIGHTIETHSkQUARTERSiSIXTEENTHSkTWENTIETHSzLETTER AaAbIbRCHAIC",
  " IIjUcBAbHAdCAbHAbILLU KbLaLaLdMbNaNcRRcYiDAbDAbHAdHAcOT REPHiEaEcGAbHAdHAcIaIcJAbHAdKAbHAdLAbLAbLAeMAcNAbGAcNAbNA",
  "dYAdOaOcPAbHAdRAbRAdSAbHAcSAdTAbHAcTAbHAcTAeUaUcVAbEDIC ANUSVARAnOCALIC LaLcRaRkYAjNUMBER ONE HUNDREDhTHOUSANDmTEN",
  "kSIGN ANUSVARAhVAGRAHAiCANDRABINDUkIRCULAR VIRAMAoOMBINING ANUSVARA ABOVEyPARAeVERTICAL BAR VIRAMAsIRAMAeSARGAmVOW",
  "EL SIGN AAbIbUcEaEcIaIcOaOcUaUcVOCALIC LaLcRaRzdE AND FEMALE SIGNpSIGNeWITH STROKE AND MALE AND FEMALE SIGNySIGNsT",
  "ESE CROSSlMMOTHfNa AND WOMAN HOLDING HANDSxDANCINGhIN BUSINESS SUIT LEVITATINGyTUXEDOjWITH GUA PI MAOkTURBANmAT SI",
  "GNhDAIC AFFRICATION MARKqGEMINATION MARKpLETTER ABbDbGbHbINcKaSAdLbMbNbPbQbRbSaHbZcTaTcZcDUSHENNAiHALQAfINbTcKADdU",
  "SHENNAoPUNCTUATIONlVOCALIZATION MARKwGOcICHAEAN ABBREVIATION MARK ABOVEfBELOWxLETTER AAYINeLEPHeYINeBETHdHETHfDALE",
  "THfHAMEDHhFEcGHIMELfIMELfHEaTHeJAYINeHAYINgKAPHdHAPHfLAMEDHgMEMdNUNdPEcQHOPHeOPHeRESHeSADHEdMEKHfHINdSHINfTAWcETHd",
  "HAMEDHhWAWdXAPHdOPHeYODHeZAYINeHAYINnNUMBER FIVEeONEa HUNDREDlTENcWENTYnPUNCTUATION DOTa WITHIN DOTmUBLE DOT WITHI",
  "N DOTvFLEURONhLINE FILLERlSTAReTWO DOTSuSIGN UDpS SHOEgTELPIECE CLOCKoUAL WHEELCHAIRpP SYMBOL FOR LIGHTHOUSEwLE LE",
  "AFiRCHEN HEAD MARKjLETTER -AcAbBAcCAbHAdDAbZAdGAcHAcJAcKAbHAdLAcMAcNAbGAcYAdPAbHAdRAcSAbHAdTAbHAcSAbHAeWAcYAcZAbHA",
  "kMARK SHADjSIGN ANUSVARAiCANDRABINDUpUBJOINED LETTER AbBAcCAbHAdDAbZAdGAcHAcJAcKAbHAdLAcMAcNAbGAcYAdPAbHAdRAcSAbHA",
  "dTAbHAcSAbHAeWAcYAcZAbHAuVOWEL SIGN AAcEbIbObUrRIAGE SYMBOLmTIAL ARTS UNIFORMsSARAM GONDI DIGIT EIGHTfFIVEdOUReNIN",
  "EeONEdSEVENeIXdTHREEeWOdZEROkLETTER AaAbIbUcBAbHAdCAbHAdDAbDAbHAdHAdEbGAbHAdHAcIaIcJAbHAcNYAeKAbHAcSSAeLAbLAdMAcNA",
  "bGAcNAcYAdObPAbHAdRAcSAbHAcSAdTAbHAcRAcTAbHAeUaUcVAcYAjRA-KARAgEPHAfSIGN ANUSVARAiCANDRAgHALANTAhNUKTAfVISARGAmVIR",
  "AMAfOWEL SIGN AAbIbUcEbIaIcObUaUcVOCALIC RzgCULINE ORDINAL INDICATORyK WORK SYMBOLnU MARKhTE DRINKhHEMATICAL BOLD ",
  "CAPITAL AaLPHAfBaETAeCaHIdDaELTAeIGAMMAhEaPSILONgTAdFbGaAMMAfHbIaOTAeJbKaAPPAfLaAMDAfMaUcNaUcOaMEGAdICRONhPaHIcIbS",
  "IdQbRaHOdSaIGMAfTaAUcHETAa SYMBOLmUaPSILONhVbWbXaIcYbZaETAmDIGIT EIGHTfFIVEdOUReNINEeONEdSEVENeIXdTHREEeWOdZEROkEP",
  "SILON SYMBOLoFRAKTUR CAPITAL AbBbCbDbEbFbGbHbIbJbKbLbMbNbObPbQbRbSbTbUbVbWbXbYbZjSMALL AbBbCbDbEbFbGbHbIbJbKbLbMbN",
  "bObPbQbRbSbTbUbVbWbXbYbZpITALIC CAPITAL AaLPHAfBaETAeCaHIdDaELTAfEaPSILONgTAdFbGaAMMAfHbIaOTAeJbKaAPPAfLaAMDAfMaUc",
  "NaUcOaMEGAdICRONhPaHIcIbSIdQbRaHOdSaIGMAfTaAUcHETAa SYMBOLmUaPSILONhVbWbXaIcYbZaETAmEPSILON SYMBOLoKAPPA SYMBOLmNA",
  "BLAfPARTIAL DIFFERENTIALtHI SYMBOLjI SYMBOLjRHO SYMBOLkSMALL AaLPHAfBaETAeCaHIdDaELTAfEaPSILONgTAdFaINAL SIGMAlGaA",
  "MMAfHbIaOTAeJbKaAPPAfLaAMDAfMaUcNaUcOaMEGAdICRONhPaHIcIbSIdQbRaHOdSaIGMAfTaAUcHETAfUaPSILONhVbWbXaIcYbZaETAkTHETA ",
  "SYMBOLtKAPPA SYMBOLmNABLAfPARTIAL DIFFERENTIALtHI SYMBOLjI SYMBOLjRHO SYMBOLkSCRIPT CAPITAL AbBbCbDbEbFbGbHbIbJbKb",
  "LbMbNbObPbQbRbSbTbUbVbWbXbYbZjSMALL AbBbCbDbEbFbGbHbIbJbKbLbMbNbObPbQbRbSbTbUbVbWbXbYbZnMALL AaLPHAfBaETAeCaHIdDaE",
  "LTAeIGAMMAhEaPSILONgTAdFaINAL SIGMAlGaAMMAfHbIaOTAeJbKaAPPAfLaAMDAfMaUcNaUcOaMEGAdICRONhPaHIcIbSIdQbRaHOdSaIGMAfTa",
  "AUcHETAfUaPSILONhVbWbXaIcYbZaETAkTHETA SYMBOLrDOUBLE-STRUCK CAPITAL AbBbDbEbFbGbIbJbKbLbMbObSbTbUbVbWbXbYjDIGIT EI",
  "GHTfFIVEdOUReNINEeONEdSEVENeIXdTHREEeWOdZEROkSMALL AbBbCbDbEbFbGbHbIbJbKbLbMbNbObPbQbRbSbTbUbVbWbXbYbZvFALLING DIA",
  "GONALpRAKTUR CAPITAL AbBbDbEbFbGbJbKbLbMbNbObPbQbSbTbUbVbWbXbYjSMALL AbBbCbDbEbFbGbHbIbJbKbLbMbNbObPbQbRbSbTbUbVbW",
  "bXbYbZpITALIC CAPITAL AaLPHAfBaETAeCaHIdDaELTAfEaPSILONgTAdFbGaAMMAfHbIaOTAeJbKaAPPAfLaAMDAfMaUcNaUcOaMEGAdICRONhP",
  "aHIcIbSIdQbRaHOdSaIGMAfTaAUcHETAa SYMBOLmUaPSILONhVbWbXaIcYbZaETAmEPSILON SYMBOLoKAPPA SYMBOLmNABLAfPARTIAL DIFFER",
  "ENTIALtHI SYMBOLjI SYMBOLjRHO SYMBOLkSMALL AaLPHAfBaETAeCaHIdDaELTAeOTLESS IbJjEaPSILONgTAdFaINAL SIGMAlGaAMMAfIaO",
  "TAeJbKaAPPAfLaAMDAfMaUcNaUcOaMEGAdICRONhPaHIcIbSIdQbRaHOdSaIGMAfTaAUcHETAfUaPSILONhVbWbXaIcYbZaETAkTHETA SYMBOLtLE",
  "FT ANGLE BRACKETnDOUBLE ANGLE BRACKETuFLATTENED PARENTHESISvWHITE SQUARE BRACKEToTORTOISE SHELL BRACKETziMONOSPACE",
  " CAPITAL AbBbCbDbEbFbGbHbIbJbKbLbMbNbObPbQbRbSbTbUbVbWbXbYbZjDIGIT EIGHTfFIVEdOUReNINEeONEdSEVENeIXdTHREEeWOdZEROk",
  "SMALL AbBbCbDbEbFbGbHbIbJbKbLbMbNbObPbQbRbSbTbUbVbWbXbYbZrRIGHT ANGLE BRACKETnDOUBLE ANGLE BRACKETuFLATTENED PAREN",
  "THESISvWHITE SQUARE BRACKEToTORTOISE SHELL BRACKETzhSING DIAGONALpSANS-SERIF BOLD CAPITAL AaLPHAfBaETAeCaHIdDaELTA",
  "fEaPSILONgTAdFbGaAMMAfHbIaOTAeJbKaAPPAfLaAMDAfMaUcNaUcOaMEGAdICRONhPaHIcIbSIdQbRaHOdSaIGMAfTaAUcHETAa SYMBOLmUaPSI",
  "LONhVbWbXaIcYbZaETAmDIGIT EIGHTfFIVEdOUReNINEeONEdSEVENeIXdTHREEeWOdZEROkEPSILON SYMBOLoITALIC CAPITAL AaLPHAfBaET",
  "AeCaHIdDaELTAfEaPSILONgTAdFbGaAMMAfHbIaOTAeJbKaAPPAfLaAMDAfMaUcNaUcOaMEGAdICRONhPaHIcIbSIdQbRaHOdSaIGMAfTaAUcHETAa",
  " SYMBOLmUaPSILONhVbWbXaIcYbZaETAmEPSILON SYMBOLoKAPPA SYMBOLmNABLAfPARTIAL DIFFERENTIALtHI SYMBOLjI SYMBOLjRHO SYM",
  "BOLkSMALL AaLPHAfBaETAeCaHIdDaELTAfEaPSILONgTAdFaINAL SIGMAlGaAMMAfHbIaOTAeJbKaAPPAfLaAMDAfMaUcNaUcOaMEGAdICRONhPa",
  "HIcIbSIdQbRaHOdSaIGMAfTaAUcHETAfUaPSILONhVbWbXaIcYbZaETAkTHETA SYMBOLtKAPPA SYMBOLmNABLAfPARTIAL DIFFERENTIALtHI S",
  "YMBOLjI SYMBOLjRHO SYMBOLkSMALL AaLPHAfBaETAeCaHIdDaELTAfEaPSILONgTAdFaINAL SIGMAlGaAMMAfHbIaOTAeJbKaAPPAfLaAMDAfM",
  "aUcNaUcOaMEGAdICRONhPaHIcIbSIdQbRaHOdSaIGMAfTaAUcHETAfUaPSILONhVbWbXaIcYbZaETAkTHETA SYMBOLrCAPITAL AbBbCbDbEbFbGb",
  "HbIbJbKbLbMbNbObPbQbRbSbTbUbVbWbXbYbZjDIGIT EIGHTfFIVEdOUReNINEeONEdSEVENeIXdTHREEeWOdZEROkITALIC CAPITAL AbBbCbDb",
  "EbFbGbHbIbJbKbLbMbNbObPbQbRbSbTbUbVbWbXbYbZjSMALL AbBbCbDbEbFbGbHbIbJbKbLbMbNbObPbQbRbSbTbUbVbWbXbYbZoSMALL AbBbCb",
  "DbEbFbGbHbIbJbKbLbMbNbObPbQbRbSbTbUbVbWbXbYbZrCRIPT CAPITAL AbCbDbGbJbKbNbObPbQbSbTbUbVbWbXbYbZjSMALL AbBbCbDbFbHb",
  "IbJbKbLbMbNbPbQbRbSbTbUbVbWbXbYbZzXIMIZEgYAN NUMERAL EIGHTaEENhLEVENgFIFTEENfVEdOURaTEENiNINEaTEENiONEdSEVENaTEENi",
  "IXaTEENhTENcHIRTEENgREEeWELVEeOdZEROrEASURED ANGLEa OPENING LEFTmWITH OPEN ARM ENDING IN ARROW POINTING DOWN AND L",
  "EFTeRIGHToLEFT AND DOWNeUPlRIGHT AND DOWNeUPmUP AND LEFTeRIGHTzzhBYcRIGHT ANGLE WITH DOTzbT ON BONEkCHANICAL ARMdL",
  "EGmDEFAIDRIN CAPITAL LETTER AaIbTIUeBbCbDbEbFbGbHaPcIbJbKaPcLbMbNaGbYcOaEcPbQbRbSbTbUbVbWbXbYaUcZpOMMAfDIGIT EIGHT",
  "fFIVEdOUReNINEeONEa ALTERNATE FORMsSEVENeIXdTHREEa ALTERNATE FORMtWOa ALTERNATE FORMsZEROkEXCLAMATION OHoFULL STOP",
  "jNUMBER EIGHTEENhLEVENgFIFTEENgOURTEENiNINETEENiSEVENTEENiIXTEENhTENcHIRTEENhWELVEnSMALL LETTER AaIbTIUeBbCbDbEbFb",
  "GbHaPcIbJbKaPcLbMbNaGbYcOaEcPbQbRbSbTbUbVbWbXbYaUcZnYMBOL AIVAuIEVAL COMMAfEXCLAMATION MARKqQUESTION MARKsUM BLACK",
  " CIRCLElOLD WHITE CIRCLErEIGHT POINTED BLACK STARsSPOKED ASTERISKvFIVE SPOKED ASTERISKtLATTENED LEFT PARENTHESIS O",
  "RNAMENTzRIGHT PARENTHESIS ORNAMENTzkOUR POINTED BLACK STARkPINWHEEL STARzbGREEK CROSSlLEFT CURLY BRACKET ORNAMENTw",
  "PARENTHESIS ORNAMENTv-POINTING ANGLE BRACKET ORNAMENTzlMATHEMATICAL SPACEsRIGHT CURLY BRACKET ORNAMENTwPARENTHESIS",
  " ORNAMENTv-POINTING ANGLE BRACKET ORNAMENTzmSALTIREgHADEeIX POINTED BLACK STARsSPOKED ASTERISKsMALL WHITE CIRCLEsT",
  "HREE POINTED BLACK STARkPINWHEEL STARzcVERTICAL BARmWHITE CIRCLEgSQUARErETEI MAYEK AHANG KHUDAMlNJIdPUN IYEKjCHEIK",
  "HANcEIiDIGIT EIGHTfFIVEdOUReNINEeONEdSEVENeIXdTHREEeWOdZEROkLETTER ATIYAfBAbHAMeCHAbILeDDAbHAdHOUdILdEbGHOUdOKdHUK",
  "dIa LONSUMiJHAMdILdKHOUdOKa LONSUMkLAIa LONSUMkMITa LONSUMkNAa LONSUMiGOUa LONSUMkNAcYAdObPAa LONSUMiHAMeRAIdSAMcH",
  "AcSAdTHOUdILa LONSUMjTAbHAeUNcWAIdYANGkUM IYEKiSYLLABLE REPETITION MARKyVIRAMAfOWEL SIGN AAIbUcNAPdUcCHEINAPhIIbNA",
  "PeNUNGeONAPeSOUNAPgUNAPdUcVISARGAhYENAPqWORD REPETITION MARKzgLONcTING FACEkMOcNDE KIKAKUI COMBINING NUMBER HUNDRE",
  "D THOUSANDSkSiMILLIONSiTEENSdN THOUSANDSkSdHOUSANDSzbDIGIT EIGHTfFIVEdOUReNINEeONEdSEVENeIXdTHREEeWOjSYLLABLE M001",
  " KIe2 KAe3 KUe4 WIe5 WAe6 WUe7 MINf8 MANf9 MUNg10 BIe1 BAe2 BUe3 Id4 Ad5 Ud6 DIe7 DAe8 DUe9 SIf20 SAe1 SUe2 TIe3 T",
  "Ae4 TUe5 LIe6 LAe7 LUe8 JIe9 JAf30 JUe1 YIe2 YAe3 YUe4 FIe5 FAe6 FUe7 NINf8 NANf9 NUNg40 HEEf1 HAe2 HOOf3 NGGAg4 K",
  "PEEg5 WOe6 HUANg7 MBEEg8 KOe9 WVAg50 PUe1 PEe2 HENf3 HINf4 LOOf5 TEe6 GBAf7 NGONg8 NYANg9 MENg60 NYONg1 WVIf2 MBAf",
  "3 JOe4 NDOf5 KEEf6 POe7 NDOOg8 PIe9 TOf70 GBOf1 GBOOg2 MBEf3 LEe4 KPUf5 FEe6 KOOf7 VOe8 FEEf9 SOf80 YEe1 PEEf2 NGG",
  "Ug3 HEEIg4 LEEf5 VEe6 LONG NGGEl7 HUNf8 FOe9 DEEg90 NGGIg1 TEEf2 KPAf3 GBEEg4 MONf5 KEe6 HEe7 BEe8 NYENg9 PAg100 E",
  "d1 FANf2 POOf3 BOOf4 TOOf5 LONG MBOOl6 LONG NGGOOm7 GBEf8 KPEf9 YEEg10 LONG LEj1 GAe2 KPOOg3 JEe4 WOOf5 NGGEEh6 SE",
  "e7 NENf8 WEe9 NDEg20 NGGOg1 YOe2 MBUf3 NDIf4 GBIf5 NDUf6 WEEf7 NGGUAh8 HOOUg9 NDAg30 HANf1 INe2 KPIf3 FOOf4 NJOOg5",
  " INe6 SOOf7 EIe8 BOe9 WVEg40 HOe1 YOOf2 LONG MBOk3 WEIf4 VOOf5 MBIf6 NGGEg7 Od8 GBUf9 NJEEh50 BEEf1 VUe2 NJAf3 LOe",
  "4 MUANg5 GIe6 NGGOOh7 JEEf8 KPOf9 NGGAAi60 JOOf1 LONG MBEk2 SEEf3 EEe4 NYINg5 OOe6 GUEIg7 GUANg8 GUe9 NONg70 NYUNg",
  "1 RAe2 MBOOg3 VEEf4 MBOf5 LONG JOj6 HIe7 NGUANh8 ENe9 KUAg80 DOOf1 DOe2 VIe3 LONG NGGOl4 NGENg5 VAe6 HUe7 MBUUg8 M",
  "BEEg9 MUENh90 GEEf1 NDEEg2 NJUf3 HONf4 WUIf5 ANe6 SIAf7 FUAzdORAH WITH NINE BRANCHESxS SYMBOLjRCURYeOITIC CURSIVE ",
  "FRACTION EIGHT TWELFTHSnLEVEN TWELFTHSpFIVE TWELFTHSmOUR TWELFTHSnNINE TWELFTHSnONE HALFeTWELFTHlSEVEN TWELFTHSnIX",
  " TWELFTHSmTEN TWELFTHSlHREE TWELFTHSnWO TWELFTHSvLETTER AaRCHAIC SAkBAcDAcEbHHAdIbKAbHAdLAcMAcNAbEcObPAcQAcRAcSAbE",
  "cTAbEbOcWAcYAiOGOGRAM IMNdRMTmNUMBER EIGHTa HUNDREDa THOUSANDqTHOUSANDjY THOUSANDpFIFTYa THOUSANDmVEa HUNDREDa THO",
  "USANDqTHOUSANDmORTYa THOUSANDmURa HUNDREDa THOUSANDqTHOUSANDnNINEa HUNDREDa THOUSANDqTHOUSANDjTY THOUSANDpONEa HUN",
  "DREDa THOUSANDqTHOUSANDmSEVENa HUNDREDa THOUSANDqTHOUSANDjTYa THOUSANDpIXa HUNDREDa THOUSANDqTHOUSANDjTYa THOUSAND",
  "oTENa THOUSANDlHIRTYa THOUSANDnREEa HUNDREDa THOUSANDqTHOUSANDnWENTYa THOUSANDnOa HUNDREDa THOUSANDqTHOUSANDzcHIER",
  "OGLYPHIC LETTER AbBAa-2eDAcEbHHAdIbKAbHAdLAcMAcNAa-2dEa-2eObPAcQAcRAa-2eSAa-2dEcTAa-2dEa-2dOcWAcYAjSYMBOL VIDJa-2z",
  "hPERSONhSSAGE WAITINGnTRICAL BREVEfLONG OVER SHORTfTWO SHORTSuPENTASEMEjSHORT OVER LONGpTETRASEMEiRISEMEgWO SHORTS",
  " JOINEDgOVER LONGzOeIAO LETTER AHbRCHAIC MAcNAbGAdZZAlBAbRIdDAbDAcLHAbYAeZAbHAcYIcZAeFAcGAbHAbHAeHAbHAdKAcLAbHAbYA",
  "dYAdMAbHAdNAaSALIZATIONlGAbHAdHAcNAbHAdYAbHAePAbLAdQAbGAdREFORMED TONE-1b2b4b5b6b8fSHAmTEdSAbHAcSAcYIdTAbEbLHAbYAe",
  "ONE-2b3b4b5b6b7b8fSAbEbHAcSAdTAdVAbFAdWAcXAcYI DZHAeKAcNNAdPAcTAbSAbHAdTAgZAbHAcSAbHAdZAbSAbYAdYAlSIGN ASPIRATIONk",
  "CONSONANT MODIFIER BARwREFORMED ASPIRATIONkVOICINGvTONE ABOVEfBELOWfRIGHTfTOP RIGHToVOWEL SIGN AaAbEaEcHHcIbNaGcUc",
  "EaAbIbNaGcRaRdIaAaNaGdEbGbIbNGcOaNGdUcNaGcOaERbYcGbObUcROUNDED ERaRlUaAaNaGdEIcIbNGcOGcUcVWcWaOcYaIbUIrCR DASH SYM",
  "BOLlON US SYMBOLnO SIGNfBEcPHONEfSCOPEiDDLE DOTdTHIRD WHITE RIGHT POINTING INDEXzlLINE HORIZONTAL ELLIPSISzLITARY ",
  "HELMETgMEDALlKY WAYgL SIGNhNIBUSdDISCeMIZEfUS SIGNa IN TRIANGLElWITH COMMA ABOVElDOT BELOWjFALLING DOTSmRISING DOT",
  "SvTILDEg-OR-PLUS SIGNpYcRRORa BALLkMSPdOBILE PHONEa OFFdWITH RIGHTWARDS ARROW AT LEFTzpDELScRN PENTATHLONoI ABBREV",
  "IATION SIGNrDANDAeIGIT EIGHTfFIVEdOUReNINEeONEdSEVENeIXdTHREEeWOdZEROjOUBLE DANDAmLETTER AaAbIbUcBAbHAdCAbHAdDAbDA",
  "bHAdHAdEbGAbHAdHAcIaIcJAbHAdKAbHAdLAbLAdMAcNAbGAcNAcYAdObPAbHAdRAcSAbHAcSAdTAbHAcTAbHAeUaUcVAbOCALIC LaLcRaRkYAjSI",
  "GN ANUSVARAhRDHACANDRAlHUVAeVIRAMAeSARGAmVOWEL SIGN AAbIbUcEbIaIcObUaUcVOCALIC LaLcRaRwFIER BREVE WITH INVERTED BR",
  "EVEzLETTER ACUTE ACCENTlLVEOLAR CLICKnPOSTROPHEkBEGIN HIGH TONEjLOW TONEnILABIAL CLICKoCAPITAL AaEcBaARRED BiCbDbE",
  "bFbGbHa WITH STROKEnIbJbKbLbMbNbOaUcPbQbRaEVERSED EbNkTbUbVbWiENTRED LEFT HALF RINGoRIGHT HALF RINGwHINESE TONE YA",
  "NG PINGeQUcRUcSHANGjIN PINGeQUcRUcSHANGvIRCUMFLEX ACCENTqOLONeROSS ACCENTlYRILLIC ENcHARD SIGNjSOFT SIGNsDENTAL CL",
  "ICKlOT HORIZONTAL BARoSLASHfVERTICAL BARoUBLE APOSTROPHEkPRIMEkWN ARROWHEADjTACKjEND HIGH TONEjLOW TONElXTRA-HIGH ",
  "DOTTED LEFT-STEM TONE BARsTONE BARpLEFT-STEM TONE BARsTONE BARnLOW DOTTED LEFT-STEM TONE BARsTONE BARpLEFT-STEM TO",
  "NE BARsTONE BARsGEORGIAN NARlLOTTAL STOPa WITH STROKExRAVE ACCENTmHALF TRIANGULAR COLONuIGH DOTTED LEFT-STEM TONE ",
  "BARsTONE BARpLEFT-STEM TONE BARsTONE BARnLATERAL CLICKmEFT ARROWHEADjHALF RINGjTACKiOW ACUTE ACCENTmCIRCUMFLEX ACC",
  "ENTrDOTTED LEFT-STEM TONE BARsTONE BARnWN ARROWHEADoGRAVE ACCENTmINVERTED EXCLAMATION MARKzLEFT ARROWaHEADk-STEM T",
  "ONE BARsMACRONgRIGHT ARROWHEADnNGeTILDEeONE BARiUP ARROWHEADmVERTICAL LINEoER RIGHT CORNER ANGLEyMACRONfID DOTTED ",
  "LEFT-STEM TONE BARsTONE BARpLEFT-STEM TONE BARsTONE BARjDLE DOUBLE ACUTE ACCENTmGRAVE ACCENTtGRAVE ACCENTrNUS SIGN",
  "kOPEN SHELFkPLUS SIGNiRIMEfRAISED COLONfDOWN ARROWkEXCLAMATION MARKqINVERTED EXCLAMATION MARKzUP ARROWoETROFLEX CL",
  "ICK WITH RETROFLEX HOOKziVERSED COMMAfGLOTTAL STOPa WITH STROKEzhHOTIC HOOKkIGHT ARROWHEADjHALF RINGjTACKkSHELFdOR",
  "T EQUALS SIGNqMALL AaEbINcLPHAfBa WITH HOOKkARRED OhETAdOTTOM HALF OnCa WITH CURLkAPITAL AAcBbGa WITH HOOKlHbIa WI",
  "TH STROKEmNVERTED RkLa WITH BELTlNbOEcRbUbYiHIcLOSED OMEGAfREVERSED OPEN EwDa WITH HOOKa AND TAILnTAILkELTAdZH DIG",
  "RAPHlOTLESS J WITH STROKEa AND HOOKzeZ DIGRAPHa WITH CURLeRETROFLEX HOOKzfEaNGcSHcTHcZHdFaENG DIGRAPHmGa WITH HOOK",
  "kAMMAeREEK GAMMAfPHIjHa WITH HOOKeSTROKEmENGa WITH HOOKoI WITH STROKEmOTAeJa WITH CROSSED-TAILtKbLa WITH BELTeINVE",
  "RTED LAZY SpMIDDLE TILDEmPALATAL HOOKmRETROFLEX HOOKa AND BELTzeEZHa WITH RETROFLEX HOOKxIGATURE OEkS DIGRAPHjZ DI",
  "GRAPHkMa WITH HOOKlN WITH LEFT HOOKjRETROFLEX HOOKvOa WITH STROKEmPEN EbOgPaHIdQbRa WITH FISHHOOKiTAILkAMS HORNiEV",
  "ERSED EbGLOTTAL STOPmOPEN EpSa WITH CURLeHOOKkCHWAdRIPT GhIDEWAYS UkTa WITH PALATAL HOOKmRETROFLEX HOOKuC DIGRAPH ",
  "WITH CURLtESH DIGRAPHlHETAeOP HALF OjS DIGRAPHa WITH RETROFLEX HOOKzeURNED AaEbLPHAfHbIbMa WITH LONG LEGpOPEN EgRa",
  " WITH HOOKeLONG LEGa AND RETROFLEX HOOKzjVbWbYa WITH BELTsUa BARdWITH LEFT HOOKpPSILONhVa WITH HOOKeRIGHT HOOKrWbX",
  "bYbZa WITH CURLeRETROFLEX HOOKzbTRESS AND HIGH TONEjLOW TONEsUPERSCRIPT HALF TRIANGULAR COLONvTRIANGULAR COLONzdTR",
  "IANGULAR COLONpURNED COMMAmUNASPIRATEDkP ARROWHEADjTACKgScVERTICAL LINEmOICINGhYANG DEPARTING TONE MARKxIN DEPARTI",
  "NG TONE MARKzlULO TWO SUMmNEY BAGdWITH WINGSl-MOUTH FACEnGOLIAN BIRGAa WITH DOUBLE ORNAMENTpORNAMENTtCOLONdMMAfDIG",
  "IT EIGHTfFIVEdOUReNINEeONEdSEVENeIXdTHREEeWOdZEROjOUBLE BIRGA WITH ORNAMENTzbELLIPSISiFOUR DOTSiREE VARIATION SELE",
  "CTOR FOUReONEdTHREEeWOzbULL STOPjINVERTED BIRGAa WITH DOUBLE ORNAMENTzkLETTER AaLI GALI AaHbNUSVARA ONEmBALUDAgCAc",
  "DAaGALGAfMARUfDAdHALF UbYAhIaNVERTED UBADAMAqKAcNGAcNAdPAbHAdSSAdTAbHREE BALUDAlTAbHAeUBADAMAhVISARGA ONElZAbHAlNG",
  "dBAcCHAa WITH TWO DOTSpIdDAcEaEcFAcGAcHAAdIbJAcKAbHAdLAbHAdMAaNCHU ALI GALI BHAdCAbYAdDDHAdHAdGHAdJHAdLHAdNGAdSSAd",
  "TAbTAdZAbHAmFAcIbKAcRAcZHAkNAcOaEcPAcQAcRAcSAbHAcIBE ANGdCHAdDAcEbFAcGAaAdHAaAdIaYcJAcKAcPAcRAAdSHAdTAbSAdUaEcZAbH",
  "AiTAbODO ALI GALI TAcZHAlNGdBAcCHAdDAbZAdEbGAaAdHAAdIbJAbIAdKAcLONG VOWEL SIGNpMAcNIAdOaEcPAcQAcTAbSAdUaEcWAcYAgSA",
  "dUaEcWAcYAcZAbHIcRAkMANCHU COMMAfFULL STOPqNIRUGUgROTATED BIRGAa WITH DOUBLE ORNAMENTpORNAMENTzcSIBE SYLLABLE BOUN",
  "DARY MARKERzdWIRL BIRGAa WITH DOUBLE ORNAMENTpORNAMENTzTODO SOFT HYPHENpRIPLE BIRGA WITH ORNAMENTzURNED SWIRL BIRG",
  "A WITH DOUBLE ORNAMENTzoVOWEL SEPARATORwKEYa FACEiOGRAM FOR EARTHfYANGdINmRAILeSTABLE SYMBOLpOD BUBBLEiN CAKEeVIEW",
  "ING CEREMONYtSQUEbITOgTHER CHRISTMASnOR BOATeSCOOTERiIZED WHEELCHAIRpWAYgUNT FUJIfAINa BICYCLISTjCABLEWAYiRAILWAYn",
  "SEa FACEeTRAPhTHdVIE CAMERAkYAIeRO DANDAeIGIT EIGHTfFIVEdOUReNINEeONEdSEVENeIXdTHREEeWOdZEROjOUBLE DANDAmLETTER Ab",
  "BAcCHUdDAaIdEaAcHAIbOdKEAAEeHAIdOcLAaNdMAEMdIMdNGIcINdOaLbOcPAbHIdRIbOcSHIdTAbEKcHEAeWAcYOmUCH GREATER-THANmLESS-T",
  "HANmLTANI LETTER AbBAbHAdCAbHAdDAbDAbDAcHAdHAdEbGAbHAdHAcIbJAbJAdKAbHAdLAcMAcNAbNAcYAdPAbHAdRAbHAcRAdSAcTAbHAcTAbH",
  "AeUbVAcYAjSECTION MARKqIMAPdPLE MUSICAL NOTESpICATION SIGNa IN DOUBLE CIRCLEnLEFT HALF CIRCLEqRIGHT HALF CIRCLErTR",
  "IANGLElWITH DOT ABOVEjUNDERBARsXlSETa MULTIPLICATIONoUNIONmSHROOMfIC FLAT SIGNjNATURAL SIGNmSHARP SIGNlAL KEYBOARD",
  "a WITH JACKStNOTEeSCOREeYMBOL ARPEGGIATO DOWNeUPnBEGIN BEAMePHRASEgSLUReTIEiRACEbKETfEATH MARKiVEbISa RESTlC CLEFf",
  "AESURAgIRCLE X NOTEHEADqLIMACUSfVISeUSTER NOTEHEAD BLACKfWHITEvODAcMBINING ACCENTa-STACCATOoUGMENTATION DOTqBENDeD",
  "OITcUBLE TONGUElWN BOWiFLAG-1b2b3b4b5eIPeHARMONICiLOUREfMARCATOa-STACCATOqRIPdSMEAReNAP PIZZICATOnPRECHGESANG STEM",
  "qTACCATISSIMOgOgEMeTENUTOfREMOLO-1b2b3hIPLE TONGUEnUP BOWnMON TIMEkRESCENDOhOIXeUT TIMEiDA CAPOfL SEGNOhMPa ALLgSH",
  "ED BARLINEnECRESCENDOjGREE SLASHlOUBLE BARLINEhFLATeSHARPlRUM CLEF-1b2lEIGHTH NOTEeRESTkND BEAMeOF STIMMEjPHRASEgS",
  "LUReTIEhF CLEFa OTTAVA ALTAeBASSAsERMATAa BELOWmINAL BARLINEkGERED TREMOLO-1b2b3qVE-LINE STAFFoLAT DOWNeUPgORTEdUR",
  "-LINE STAFFkSTRING FRETBOARDuUSA BLACKfWHITEkG CLEFa OTTAVA ALTAeBASSAsLISSANDO DOWNeUPlRACE NOTE NO SLASHiSLASHoE",
  "GORIAN C CLEFgF CLEFqHALF NOTEePEDAL MARKkRESThUPTSTIMMElINVERTED TURNnKIEVAN C CLEFgEIGHTH NOTE STEM DOWNeUPsND O",
  "F PIECEmFINAL NOTEjLAT SIGNjHALF NOTEjQUARTER NOTE STEM DOWNeUPuRECITATIVE MARKpWHOLE NOTEqORONfLEFT REPEAT SIGNpO",
  "NGAa IMPERFECTA RESTpPERFECTA RESTtMAXIMAfEZZOeINIMAa BLACKfRESTkOON NOTEHEAD BLACKfWHITEsULTI RESTfPLE MEASURE RE",
  "STvNATURAL DOWNeUPjEBENSTIMMEkOTEHEAD BLACKnULL NOTEHEADnONE HUNDRED TWENTY-EIGHTH NOTEeRESTzc-LINE STAFFnRNAMENT ",
  "STROKE-1a0b1c2b3b4b5b6b7b8b9qTTAVA ALTAeBASSAmPARENTHESIS NOTEHEADtEDAL MARKeUP MARKlS SUBPUNCTISnIANOeLUS NOTEHEA",
  "DmODATUSfRRECTUSa FLEXUSqQUARTER NOTEeRESTeTONE FLATeSHARPqINDICESIMA ALTAeBASSAsREPEAT DOTSfED FIGURE-1b2b3pVERSE",
  " FINAL BARLINEuIGHT REPEAT SIGNpNFORZANDOlSCANDICUSa FLEXUSpEGNOdMIBREVIS BLACKfRESTeWHITEmMINIMA BLACKfRESTeWHITE",
  "pHARP DOWNeUPgORT BARLINEmINGLE BARLINEmX-LINE STAFFkSTRING FRETBOARDrTEENTH NOTEeRESTkY-FOURTH NOTEeRESTqORIdQUAR",
  "E BbNOTEHEAD BLACKfWHITEuUBITOgTEMPUS IMPERFECTUM CUM PROLATIONE IMPERFECTAa DIMINUTION-1b2b3xPERFECTAzkPERFECTUM ",
  "CUM PROLATIONE IMPERFECTAkPERFECTAa DIMINUTION-1zzcHIRTY-SECOND NOTEeRESTqREE-LINE STAFFpORCULUSa RESUPINUSrRaIANG",
  "LE NOTEHEAD DOWN BLACKfWHITEkLEFT BLACKfWHITEkRIGHT BLACKfWHITElUP BLACKfRIGHT BLACKfWHITElWHITEs-ROUND NOTEHEAD D",
  "OWN BLACKfWHITEziURNa SLASHfUPgWO-LINE STAFFoVIRGAeOID NOTEHEADnWHOLE NOTEeRESTjITH FINGERNAILSqX NOTEHEADkZpVScWb",
  "YANMAR CONSONANT SIGN MEDIAL HAcRAcWAcYAiON MEDIAL LAcMAcNAnSHAN MEDIAL WAzeDIGIT EIGHTfFIVEdOUReNINEeONEdSEVENeIX",
  "dTHREEeWOdZEROkLETTER AaITON RAhUcBAbHAdCAbHAdDAbDAbHAdHAdEaASTERN PWO KAREN GHWAeNNAdYWAvGAbHAcREAT SAiHAcIaIcJAb",
  "HAdKAbHAaMTI CAbHAdDDAbHAdHAdFAcGAcHAbHAdJAbHAdLLAdNAbYAdRAcSAcTTAbHAeXAcZAjLAbLAdMAbON BBAbEdEbJHAdNGAhNAbGAcNAbY",
  "AdYAdObPAbHAdRAbUMAI PALAUNG FAqSAbGAW KAREN SHAnHAaN AbBAbHAdCAbHAdDAcFAcGAbHAdHAcJHAdKAbHAdNAbNAcYAdPHAdTHAdZAfW",
  "E PALAUNG CHAdSHApSAdTAaI LAING BAbHAdDAbDAbHAdHAdFAcGAbHAdJAbHAdLLAdNNAcYAmHAcTAbHAeUaUcVOCALIC LaLcRaRkWAbESTERN",
  " PWO KAREN PWAdTHAvYAiOGOGRAM KHAMTI HMcOAYdQNsMODIFIER LETTER KHAMTI REDUPLICATIONuSHAN REDUPLICATIONzjSHAN DIGIT",
  " EIGHTfFIVEdOUReNINEeONEdSEVENeIXdTHREEeWOdZEROoIGN ANUSVARAhSATeDOT BELOWjKHAMTI TONE-1b3nLITTLE SECTIONoPAO KARE",
  "N TONEoRUMAI PALAUNG TONE-5uSECTIONgHAN COUNCIL EMPHATIC TONEnTONE-2b3oSAWdTONE-2b3b5b6lTAI LAING TONE-2b5qVIRAMAe",
  "SARGAhWESTERN PWO KAREN TONE-1b2b3b4b5zdYMBOL AFOREMENTIONEDnITON EXCLAMATIONlONEdTWOjCOMPLETEDjGENITIVEiLOCATIVEi",
  "SHAN EXCLAMATIONlONEpTAI LAING DIGIT EIGHTfFIVEdOUReNINEeONEdSEVENeIXdTHREEeWOdZEROtONE MARK SGAW KAREN HATHIfKE P",
  "HOzcVOWEL SIGN AAbIaTON AaIiEa ABOVEhGEBA KAREN ImIaIcKAYAH EEcOEcUhMON IIcOfSGAW KAREN EUmHAN AAcEa ABOVEhFINAL Y",
  "mTALL AAhUaUcVOCALIC LaLcRaRkWESTERN PWO KAREN EUcUEzoN-ARY CIRCLED DOT OPERATORmPLUS OPERATORnTIMES OPERATORvOPRO",
  "DUCTjINTERSECTIONmLOGICAL ANDdORkPRODUCThSQUARE INTERSECTION OPERATORvUNION OPERATORuUMMATIONjTIMES OPERATORoUNION",
  "a OPERATOR WITH DOTdPLUSyWHITE VERTICAL BARxABATAEAN CRUCIFORM NUMBER FOURvLETTER ALEPHeYINeBETHeDALETHgFINAL ALEP",
  "HfBETHeHEcKAPHeLAMEDHgMEMdNUNdSHINeYODHkGIMELfHEaTHeKAPHeLAMEDHgMEMdNUNdPEcQOPHeRESHeSADHEdMEKHfHINeTAWcETHeWAWdYO",
  "DHeZAYINmNUMBER FIVEdOUReONEa HUNDREDlTENcHREEeWENTYeOrLAdIL POLISHiRA SIGNiKbME BADGEiNDaINAGARI HEADSTROKEkLETTE",
  "R AaAbIbUcBAbHAdCAbHAdDAbDAbHAdHAdEbGAbHAdHAcIaIcJAbHAdKAbHAdLAbLAdMAcNAbGAcNAcYAdObPAbHAdRAbRAdSAbHAcSAdTAbHAcTAb",
  "HAeUaUcVAbOCALIC RaRkYAjSIGN ANUSVARAhVAGRAHAiSIDDHAMhVIRAMAeSARGAmVOWEL SIGN AAbIbUcEbIaIcObPRISHTHAMATRA EpUaUcV",
  "OCALIC RaRzgRROW NO-BREAK SPACEtTIONAL DIGIT SHAPESmPARKlUSEATED FACEmZAR AMULETlBHbSPdECKTIEfGATED DOUBLE VERTICA",
  "L BAR DOUBLE RIGHT TURNSTILEzuIVE ACKNOWLEDGElCIRCLED DIGIT ZEROkLATIN CAPITAL LETTER AbBbCbDbEbFbGbHbIbJbKbLbMbNb",
  "ObPbQbRbSbTbUbVbWbXbYbZwNUMBER EIGHTEENhLEVENgFIFTEENgOURTEENiNINETEENiSEVENTEENiIXTEENhTHIRTEENhWELVEdNTYnSQUAREg",
  "TRIANGLEqDIAGONAL CROSSfDIAMONDhMIDDLE RIGHT TO LOWER CENTREzmSQUARED ABcCROSS MARKkICcLATIN CAPITAL LETTER AbBbCb",
  "DbEbFbGbHbIbJbKbLbMbNbObPbQbRbSbTbUbVbWbXbYbZwPAcQUESTION MARKnSAcWCrITHER A SUBSET OF NOR EQUAL TOuPERSET OF NOR ",
  "EQUAL TOzPPROXIMATELY NOR ACTUALLY EQUAL TOzkGREATER-THAN NOR EQUAL TOfIVALENT TOnLESS-THANzbLESS-THAN NOR EQUAL T",
  "OfIVALENT TOnGREATER-THANzhLbPTUNEa FORM TWOoRD FACEhSSUSdT WITH EGGSkING DOLLSlUTERcRAL CHESS BISHOPa ROTATED NIN",
  "ETY DEGREESoTWO HUNDRED SEVENTY DEGREESzrEQUIHOPPERa ROTATED NINETY DEGREESziKINGa ROTATED NINETY DEGREESoTWO HUND",
  "RED SEVENTY DEGREESzoNIGHTa ROTATED FORTY-FIVE DEGREESsNINETY DEGREESoONE HUNDRED THIRTY-FIVE DEGREESzgTHREE HUNDR",
  "ED FIFTEEN DEGREESzdWO HUNDRED SEVENTY DEGREESpTWENTY-FIVE DEGREESzvPAWNa ROTATED NINETY DEGREESoTWO HUNDRED SEVEN",
  "TY DEGREESzpQUEENa ROTATED NINETY DEGREESoTWO HUNDRED SEVENTY DEGREESzqROOKa ROTATED NINETY DEGREESoTWO HUNDRED SE",
  "VENTY DEGREESzpTURNED BISHOPgKINGdNIGHTgPAWNeQUEENfROOKrFACEkW LINEeMOON SYMBOLgWITH FACEoSHEQEL SIGNlTAI LUE DIGI",
  "T EIGHTfFIVEdOUReNINEeONEdSEVENeIXdTHREEeWOdZEROkLETTER FINAL BbDbKbMbNaGcVhHIGH BAcDAcFAcHAcKAbVAdLAcMAcNAbGAdPAb",
  "HAdQAcSAbUAdTAbHAcSAdVAcXAbVAdYAhLOW BAcDAcFAcHAcKAbVAdLAcMAcNAbGAdPAbHAdQAcSAbUAdTAbHAcSAdVAcXAbVAdYAnSIGN LAEaVj",
  "THAM DIGIT ONEnONE MARK-1b2lVOWEL SIGN AAaYcEbYcEbIIbYcOaAaYcYcUaEaYcUbYcVOWEL SHORTENERzkA ABBREVIATION SIGNrCOMM",
  "AfDANDAeIGIT EIGHTfFIVEdOUReNINEeONEdSEVENeIXdTHREEeWOdZEROjOUBLE COMMAfDANDAmGAP FILLERkINSERTION SIGNoLETTER AaA",
  "bIbUcBAbHAdCAbHAdDAbDAbHAdHAdEbGAbHAdHAcIaIcJAbHAdKAbHAdLAbHAdMAbHAdNAbGAbHAdHAcNAcYAbHAeObPAbHAdRAbHAdSAbHAcSAdTA",
  "bHAcTAbHAeUaUcVEDIC ANUSVARAnOCALIC LaLcRaRkWAcYAjOMcPLACEHOLDER MARKqSANDHI MARKkIDDHIeGN ANUSVARAhVAGRAHAiCANDRA",
  "BINDUlFINAL ANUSVARAoJIHVAMULIYAlNUKTAfUPADHMANIYAlVIRAMAeSARGAmVOWEL SIGN AAbIbUcEbIaIcObUaUcVOCALIC LaLcRaRxLINE",
  " LEFTeRIGHTkSPAPERhXT LINEePAGEiIGHT WITH STARSoNJAeKO COMBINING DOUBLE DOT ABOVEqLONG DESCENDING TONEpHIGH TONEjL",
  "OW TONEiRISING TONEqNASALIZATION MARKrSHORT HIGH TONEjLOW TONEiRISING TONEyMAfDANTAYALANjIGIT EIGHTfFIVEdOUReNINEe",
  "ONEdSEVENeIXdTHREEeWOdZEROjOROME SIGNlEXCLAMATION MARKqHIGH TONE APOSTROPHEuLAJANYALANjETTER AbBAcCHAdDAaGBASINNAk",
  "EaEcFAcGBAdHAcIbJAbONA CHAdJAcRAhKAcLAcMAcNaAa WOLOSOiYAa WOLOSOkOaOcPAcRAbRAdSAcTAcUbWAcYAiOW TONE APOSTROPHEtSYM",
  "BOL GBAKURUNENkOO DENNENqTAMAN SIGNnLbNBSPeO BICYCLEShREAK HEREkENTRYa SIGNkMOBILE PHONESnONE UNDER EIGHTEEN SYMBO",
  "LzPEDESTRIANSkIRACYgSMOKING SYMBOLp-BREAK SPACEmMINAL DIGIT SHAPESqSMA SIGNkN-BREAKING HYPHENpPOTABLE WATER SYMBOL",
  "vFORKINGiRaDIC MARK SIGNnMAL SUBGROUP OFa OR EQUAL TOzcTH EAST AND SOUTH WEST ARROWtRROWa AND SOUTH EAST ARROWuCRO",
  "SSING NORTH WEST ARROWqSOUTH EAST ARROWzWITH HOOKpBLACK ARROWlDOUBLE ARROWmPOINTING BUDdLEAFeVINE LEAFsSANS-SERIF ",
  "ARROWqTRIANGLE-HEADED ARROWa TO BARzdWHITE ARROWqINDIC FRACTION ONE EIGHTHgHALFeQUARTERhSIXTEENTHnTHREE QUARTERSiS",
  "IXTEENTHSzPLACEHOLDER MARKqQUANTITY MARKkRTER MARKmRUPEE MARKqWEST AND SOUTH EAST ARROWtRROWa AND NORTH EAST ARROW",
  "uCROSSING NORTH EAST ARROWzTO CORNERgLONG BARlWITH HOOKpBLACK ARROWlDOUBLE ARROWmPOINTING BUDdLEAFeVINE LEAFsSANS-",
  "SERIF ARROWqTRIANGLE-HEADED ARROWa TO BARzdWHITE ARROWrEAST-POINTING AIRPLANEzSEcT A SUBSET OFhPERSET OFmLMOST EQU",
  "AL TOoN ELEMENT OFmSYMPTOTICALLY EQUAL TOxCHECK MARKkEQUAL TOfIVALENT TOnGREATER-THANmIDENTICAL TOmLESS-THANjNORMA",
  "L SUBGROUP OFa OR EQUAL TOzfPARALLEL TOlSIGNdQUARE IMAGE OF OR EQUAL TOuORIGINAL OF OR EQUAL TOzfTILDEeRUEfCHED LE",
  "FT SEMICIRCLE WITH THREE DOTSzfOWER RIGHT-SHADOWED WHITE RIGHTWARDS ARROWzsRIGHT SEMICIRCLE WITH THREE DOTSzhUPPER",
  " RIGHT-SHADOWED WHITE RIGHTWARDS ARROWzxEa PADbGEfBOOKa WITH DECORATIVE COVERzeULaLcMBER EIGHTEEN FULL STOPrLEVEN ",
  "FULL STOPqFIFTEEN FULL STOPqOURTEEN FULL STOPsNINETEEN FULL STOPsSEVENTEEN FULL STOPsIGNcXTEEN FULL STOPrTEN FULL ",
  "STOPmHIRTEEN FULL STOPrWELVE FULL STOPnNTY FULL STOPuERO SIGNjSHU CHARACTER-1B170b1b2b3b4b5b6b7b8b9bAbBbCbDbEbFc80",
  "b1b2b3b4b5b6b7b8b9bAbBbCbDbEbFc90b1b2b3b4b5b6b7b8b9bAbBbCbDbEbFcA0b1b2b3b4b5b6b7b8b9bAbBbCbDbEbFcB0b1b2b3b4b5b6b7b",
  "8b9bAbBbCbDbEbFcC0b1b2b3b4b5b6b7b8b9bAbBbCbDbEbFcD0b1b2b3b4b5b6b7b8b9bAbBbCbDbEbFcE0b1b2b3b4b5b6b7b8b9bAbBbCbDbEbF",
  "cF0b1b2b3b4b5b6b7b8b9bAbBbCbDbEbFd200b1b2b3b4b5b6b7b8b9bAbBbCbDbEbFc10b1b2b3b4b5b6b7b8b9bAbBbCbDbEbFc20b1b2b3b4b5b",
  "6b7b8b9bAbBbCbDbEbFc30b1b2b3b4b5b6b7b8b9bAbBbCbDbEbFc40b1b2b3b4b5b6b7b8b9bAbBbCbDbEbFc50b1b2b3b4b5b6b7b8b9bAbBbCbD",
  "bEbFc60b1b2b3b4b5b6b7b8b9bAbBbCbDbEbFc70b1b2b3b4b5b6b7b8b9bAbBbCbDbEbFc80b1b2b3b4b5b6b7b8b9bAbBbCbDbEbFc90b1b2b3b4",
  "b5b6b7b8b9bAbBbCbDbEbFcA0b1b2b3b4b5b6b7b8b9bAbBbCbDbEbFcB0b1b2b3b4b5b6b7b8b9bAbBbCbDbEbFcC0b1b2b3b4b5b6b7b8b9bAbBb",
  "CbDbEbFcD0b1b2b3b4b5b6b7b8b9bAbBbCbDbEbFcE0b1b2b3b4b5b6b7b8b9bAbBbCbDbEbFcF0b1b2b3b4b5b6b7b8b9bAbBpITERATION MARKs",
  "T AND BOLTlYIAKENG PUACHUE HMONG CIRCLED CAkDIGIT EIGHTfFIVEdOUReNINEeONEdSEVENeIXdTHREEeWOdZEROkLETTER AaAcCAcDAb",
  "LAdEaEcFAcGAcHAaHdIbKAcLAcMAbLAdNAbCAcKAcPAbLAdQAcRAcTAbSAcXAdYAdOaOcPAbLAdQAcRAbRAdSAcTAbSAcXAdUbVAcWbXAbYAdYAcZA",
  "iOGOGRAM NYAJnSIGN FOR ANIMALgINVERTEBRATEmLOCATIONiPERSONgTHINGjXW XWjYLLABLE LENGTHENERtTONE-BbDbGbJbMbSbVzeOBJE",
  "CT REPLACEMENT CHARACTERzbLIQUE ANGLE OPENING DOWNeUPqHYPHENmSERVER EYE SYMBOLsCR AMOUNT OF CHECKpBELT BUCKLEkOW T",
  "IEgRANCH BANK IDENTIFICATIONzbCHAIReUSTOMER ACCOUNT NUMBERxDASHdOUBLE BACKSLASHqFORKeHOOKeINVERTED FORKpTAGONAL SI",
  "GNlOPUSgDENdFFICE BUILDINGoGHAM FEATHER MARKmLETTER AILMeBEITHfCEIRTeOLLeDAIReEABHADHfDHADHfMHANCHOLLlFEARNfGORTeI",
  "FINdODHADHhLUISeMUINeNGEADALgIONeONNcRcPEITHfRUISeSAILdTRAIFgTINNEfUATHdILLEANNhRjREVERSED FEATHER MARKvSPACE MARK",
  "oONEKfHM SIGNhIL DRUMhK HAND SIGNlL CHIKI AHADeDIGIT EIGHTfFIVEdOUReNINEeONEdSEVENeIXdTHREEeWOdZEROkGAAHLAA TTUDDA",
  "AGqLETTER AAJbKbMbWcGbLbNGcTcEDDcNbPbRRdIHbNYcRbScLAaAcEbIbObUcOBbHbTTcVcUCbDbNNcYjMU TTUDDAGi-GAAHLAA TTUDDAAGtPH",
  "AARKAAhUNCTUATION DOUBLE MUCAADnMUCAADsRELAAmD CHINESE HOOK MARKjITERATION MARKwHUNGARIAN CAPITAL LETTER AaAbKbMBc",
  "NDdCLOSE EhEaBbCaHbScDbEbFbGaYcHbJbKbLaYcMaPcNaCbTa-SHAPED SIGNnYcPbRbSaZcTaYcVbZaSdIaIcNIKOLSBURG OEcUEnOaEEcOcRU",
  "DIMENTA OEcUEmSHORT ERiUaNKcSbUrNUMBER FIFTYdVEeONEa HUNDREDhTHOUSANDmTENkSMALL LETTER AaAbKbMBcNDdCLOSE EhEaBbCaH",
  "bScDbEbFbGaYcHbJbKbLaYcMaPcNaCbTa-SHAPED SIGNnYcPbRbSaZcTaYcVbZaSdIaIcNIKOLSBURG OEcUEnOaEEcOcRUDIMENTA OEcUEmSHOR",
  "T ERiUaNKcSbUzITALIC LETTER AbBEcCHEdDEcEaFbKScLbMbNbRaScSaHbSdHEcIaIcKAbEbHEcUcNORTHERN TSEmObPEbHEdSHEcOUTHERN T",
  "SEmTEbHEdUaUcVEcYEcZEjNUMERAL FIFTYdVEeONEdTENsKEYdNORTH ARABIAN LETTER AINcLEFeBEHdDADbLdES-1b2b3eFEHdGEEMdHAINfH",
  "AHcEHdKAFcHAHeLAMdMEEMeNOONeQAFdREHdSADdTAHcEHcHALcEHeWAWdYEHdZAHbINlNUMBER ONEdTENcWENTYzcPERMIC LETTER ANcBURdCH",
  "ERYfDOIcZHOIdITAfEaFcGAIdHAcIaAbEcKOKEeLEIdMENOEfNENOEfOaOcPEEIeREIdSHCHOOIfOOIeIIdTAIcSIUeUbVERcOOIeYAaTcERaIbUdR",
  "YcUcZATAdHOIpSIAN NUMBER HUNDREDhONEdTENcWENTYeOkSIGN AaURAMAZDAAa-2cHAmBAaGAdUUMISHhCAcDAaHYAAUSHa-2kIbUcFAcGAbUc",
  "HAcIbJAbIcKAbUcLAcMAbIbUcNAbUcPAcRAbUcSAbHAcSAdTAbHAcUcUbVAbIcXAbSHAAYATHIYAmYAcZAhWORD DIVIDERqONAL COMPUTERrSOGD",
  "IAN FRACTION ONE HALFrLETTER ALEPHdTERNATE AYINnYINeBETHeFINAL ALEPHfBETHeHEcNUNa WITH VERTICAL TAILwSADHEa WITH V",
  "ERTICAL TAILyTAWa WITH VERTICAL TAILzdGIMELfHEaTHeKAPHeLAMEDHgMEMdNUNdPEcRESH-AYIN-DALETHqSADHEdMEKHfHINeTAWdWAWdY",
  "ODHeZAYINlIGATURE AYIN-DALETHuNUMBER FIVEdOUReONEa HUNDREDlTENcHIRTYeREEeWENTYeOqUTH ARABIAN LETTER ALEFdYNdBETHeD",
  "ALETHfHADHEdLETHhFEcGHAYNeIMELfHEaTHeKAPHdHETHfLAMEDHgMEMdNUNdQOPHeRESHeSADHEdMEKHeTcHINeTAWcETHdHAWcETHfWAWdYODHe",
  "ZAYNlNUMBER FIFTYfONEhERIC INDICATORzgTURKIC LETTER ORKHON AaBbDbEBbDbGbKbLbNbRbSbTbYcGbLbNbQbRbSaHcTbYcBASHeECbLT",
  "cMbNCbGbTbYcPbSHcZcIaCbQcOaEaKcPbQbTjYENISEI AaBbDbEaBbGbKbNaGcTbYcGbLbNGcQbRbSHcTbYcEaCbNCbTbYcSHcZcIaQcOEaKcQyUY",
  "GHUR COMBINING DOT ABOVEfBELOWjTWO DOTS ABOVEfBELOWyLETTER ALEPHfBETHeFINAL HETHkGIMEL-HETHkKAPHeLAMEDHfESHeMEMdNU",
  "NdPEcRESHeSADHEdMEKHfHINeTAWdWAWdYODHeZAYINmPUNCTUATION BARdFOUR DOTSjTWO BARSeDOTSzdER ADULTfMANdWOMANjIVEeM SYMB",
  "OLiN WITH EXCLAMATION MARK WITH LEFT RIGHT ARROW ABOVEzzCOMING AUTOMOBILEkBUSdFIRE ENGINElPOLICE CARkTAXIlE BUTTON",
  " MOUSEmDOT LEADERgOVER TWO DOTS PUNCTUATIONzf-PIECE SWIMSUITqIONePEN BOOKcXdCENTRE ASTERISKiBLACK STARkCROSSfTEARD",
  "ROP-SPOKED ASTERISKzgFILE FOLDERkOLDERgHANDS SIGNkLOCKeMAILBOX WITH LOWERED FLAGmRAISED FLAGySUBSETePERSETj-CIRCUI",
  "T-OUTPUT H-TYPE SYMBOLnL-TYPE SYMBOLzdOUTLINED RIGHTWARDS ARROWzcRATING SYSTEM COMMANDwHIUCHUShPOSITIONiTICAL DISC",
  "a ICONnON KEYjR WITH DOT INSIDEqANGE BOOKeHEARThUTANhIGINAL OFiYA AI LENGTH MARKnU LENGTH MARKoDIGIT EIGHTfFIVEdOU",
  "ReNINEeONEdSEVENeIXdTHREEeWOdZEROkFRACTION ONE EIGHTHgHALFeQUARTERhSIXTEENTHnTHREE QUARTERSiSIXTEENTHSzISSHARgLETT",
  "ER AaAbIbUcBAbHAdCAbHAdDAbDAbHAdHAdEbGAbHAdHAcIaIcJAbHAdKAbHAdLAbLAdMAcNAbGAcNAcYAdObPAbHAdRAbHAcRAdSAbHAcSAdTAbHA",
  "cTAbHAeUaUcVAbOCALIC LaLcRaRkWAcYAbYAkSIGN ANUSVARAhVAGRAHAiCANDRABINDUlNUKTAfOVERLINEiVIRAMAeSARGAmVOWEL SIGN AAb",
  "IbUcEbIaIcObUaUcVOCALIC LaLcRaRzNATE LEFT PARENTHESISqRIGHT PARENTHESISwTHODOX CROSSnSAGE CAPITAL LETTER AaHbIaNdB",
  "RAdCHAdDHAdEaHCHAdKAcPAcTAbSAeINdGHAdHAbYAdIbKAbHAcYAdLAcMAcNAcOaINdPAcSAbHAdTAbSAbHAeUbWAcZAbHAsSMALL LETTER AaHb",
  "IaNdBRAdCHAdDHAdEaHCHAdKAcPAcTAbSAeINdGHAdHAbYAdIbKAbHAcYAdLAcMAcNAcOaINdPAcSAbHAdTAbSAbHAeUbWAcZAbHAuCbMANYA DIGI",
  "T EIGHTfFIVEdOUReNINEeONEdSEVENeIXdTHREEeWOdZEROkLETTER AaAbLEFeBAcCAYNeDEELdHAdEaEcFAcGAcHAcIbJAcKAAFdHAdLAANeMII",
  "NeNUUNeOaOcQAAFeRAcSAbHIINfTAcUbWAWdXAcYAqTTERcOMAN SIYAQ ALTERNATE NUMBER EIGHTfFIVEdOURa HUNDREDmNINEeSEVENeIXa ",
  "HUNDREDlTENa THOUSANDlHREEeWOa THOUSANDzeFRACTION ONE HALFeSIXTHsMARRATANiNUMBER EIGHTa HUNDREDhTHOUSANDjYa THOUSA",
  "NDpFIFTYa THOUSANDmVEa HUNDREDhTHOUSANDmORTYa THOUSANDmURa HUNDREDhTHOUSANDnNINEa HUNDREDhTHOUSANDjTYa THOUSANDpON",
  "Ea HUNDREDhTHOUSANDmSEVENa HUNDREDhTHOUSANDjTYa THOUSANDpIXa HUNDREDhTHOUSANDjTYa THOUSANDoTENa THOUSANDlHIRTYa TH",
  "OUSANDnREEa HUNDREDhTHOUSANDnWENTYa THOUSANDnOa HUNDREDhTHOUSANDzhUNCE SIGNiTBOX TRAYiLINED BLACK STARkGREEK CROSS",
  "lLATIN CROSSlWHITE STARsVERHEATED FACElLAPaPING BLACK SQUARESnWHITE AND BLACK SQUARESrSQUARESuINEhWLcXbYSTERgPACKA",
  "GEfDaDING CHARACTERpGEa FACING UPjWITH CIRCLED TEXTlURLkRbScODAeHAWH HMONG CLAN SIGN FAJdHAMbWJeKHABdOOcWMdLAUJdIS",
  "dMUASePHABeTHOJdSABcHEEJeWBeVAJcWJdXYOOJfYAJcEEGnONSONANT AUcCAUcHAUeHAUcLAUdNAUeLAUdMAUdNAUcCHAUeKAUdLAUdTHAUdSAU",
  "fPLHAUfQHAUeRAUdVAUdXAUdYAUnDIGIT EIGHTfFIVEdOUReNINEeONEdSEVENeIXdTHREEeWOdZEROkMARK CIM HOMdKEScHAVeSObUAMeTAUMd",
  "UBmNUMBER HUNDRED MILLIONSjSiMILLIONSiTEN BILLIONSiTHOUSANDSkSdRILLIONSqSIGN AVcCIM CHEEMeUAM TSHOOJlHAIS LUS NTOG",
  " NTOGsNRES TOSiPUB DAWBiTSOV ROGhXWVa CHWVnHLIcNUBeIB YAMgLOSdMEEJ SUABeTSEEBjUSdNQIGdTUJeTAUcHIRD-STAGE HLIoXHEEJ",
  " CEEVlVOS FEEMeLUBdNRUAeSEEVeTHIABdOMdSHAB CEEBoXAUSdIABdYEEM FAIBeNTXIVfRHOdTOVhOOeZWJ THAJnVOWEL KAABbVcBbIBbVcU",
  "BbVcVbWBbVdEBbEBbVcVcIABbVcBbVcOBbOBbVcVcUABbVcBbVcWBbVuLLASdM BRANCHgDOWN HANDjTREEeUP HANDiS UP TOGETHERnYRENE L",
  "EFT-POINTING FLEURONtTTER ALEPHeYINeBETHeDALETHgFINAL NUNjGIMELfHEaTHeKAPHeLAMEDHgMEMdNUNdPEcQOPHeRESHeSADHEdMEKHf",
  "HINeTAWcETHeWAWdYODHeZAYINmNUMBER FIVEdOUReONEdTENcHREEeWENTYeOkRIGHT-POINTING FLEURONzfNCAKESfDA FACEiPERCLIPhRAC",
  "HUTEfGRAPH SEPARATORkOScUS MARKmLLEL TOcWITH HORIZONTAL STROKErTILDE OPERATORzENTHESIZED DIGIT EIGHTfFIVEdOUReNINE",
  "eONEdSEVENeIXdTHREEeWOjHANGUL CHIEUCHa AiIEUCa AbUhHIEUHa AhIEUNGa AhKHIEUKHa AiIYEOKa AiMIEUMa AhNIEUNa AhPHIEUPH",
  "a AiIEUPa AhRIEULa AhSIOSa AgTHIEUTHa AiIKEUTa ApIDEOGRAPH ALLIANCEiCALLdONGRATULATIONoEARTHeIGHTeNTERPRISEkFESTIV",
  "ALhINANCIALhREcVEdOUReHAVEeLABORfMETALeOONeNAMEdINEeONEdREACHdPRESENThSOURCEfTeSELFcVENeIXcOCIETYgPECIALgTOCKdUDYe",
  "UNbPERVISEjTENcHREEeWOdWATEReOODoKOREAN CHARACTER O HUdJEONwLATIN CAPITAL LETTER AbBbCbDbEbFbGbHbIbJbKbLbMbNbObPbQ",
  "bRbSbTbUbVbWbXbYbZqSMALL LETTER AbBbCbDbEbFbGbHbIbJbKbLbMbNbObPbQbRbSbTbUbVbWbXbYbZuNUMBER EIGHTEENhLEVENgFIFTEENg",
  "OURTEENiNINETEENiSEVENTEENiIXTEENhTENcHIRTEENhWELVEdNTYyROTdT ALTERNATION MARKrIAL DIFFERENTIALmLINE BACKWARDiDOWN",
  "eFORWARDhUPiLY-RECYCLED PAPER SYMBOLzcNERSHIP SIGNmY POPPERkSSED SYMBOLiNGER SHIPkIVE-PULL-DOWN-OUTPUT SYMBOLsUP-O",
  "UTPUT SYMBOLzPORT CONTROLoU CIN HAU GLOTTAL STOPa FINALfVARIANTuLETTER AbBAcCAbHAdDAcEbFAbINAL KbLbMbNaGcPbTbWbYhG",
  "AcHAcIaAcKAbHAdLAcMAcNAbGAdObPAbHAdRAcSAcTAbHAdUaAcVAcZAiOW-FALLING TONEa FINALfLONGa FINALzcMID-LEVEL TONEa FINAL",
  "fLONG FINALzRISING TONEa FINALfLONGa FINALwSANDHI GLOTTAL STOPa FINALsTONEa FINALfLONGa FINALzhW PRINTSjDFbIcEACE ",
  "SYMBOLiHbOCKeNUTSeRcDESTRIANiN OVER STAMPED ENVELOPEwCILdGUINeSIVE FACEjTAGRAMhOPLE HUGGINGmR MILLE SIGNkSIGNeTEN ",
  "THOUSAND SIGNsCENT SIGNjFORMING ARTSmMANENT PAPER SIGNrPENDICULARa WITH SrSEVERING FACEmON BOWING DEEPLYnCLIMBINGi",
  "DOING CARTWHEELpFROWNINGiIN LOTUS POSITIONoSTEAMY ROOMoRAISING BOTH HANDS IN CELEBRATIONziWITH BALLdLOND HAIRkCROW",
  "NfFOLDED HANDSmHEADSCARFjPOUTING FACEsAL COMPUTERnPECTIVEjSETA SIGNiO SIGNhTRI DISHjHAGS-PA DOUBLE HEAD MARKqLETTE",
  "R AaLTERNATE YAlSPIRATED FAmBAcCAaNDRABINDUkHAdDAbDAcZAdEaEcFAcGAbGAdHAcIbJAcKAbHAdLAcMAcNAbGAcNAcYAdObPAbHAdQAcRA",
  "cSAbHAcMALL AhTAbHAcSAbHAdTAbHAeUbVOICED HAeLESS SHAnWAcXAcYAcZAbHAkMARK DOUBLE SHADlSHADjSINGLE HEAD MARKpUBJOINE",
  "D LETTER RAcWAcYArPERFIXED LETTER RAzbISTOS DISC SIGN ARROWfBEEaHIVEgOOMERANGhWcULLS LEGjCAPTIVEfRPENTRY PLANEnTcH",
  "ILDeLUBdOLUMNeMBaINING OBLIQUE STROKEyDOLIUMeVEeEAGLEfFLUTEfGAUNTLEThRATERgHELMETfIDEdORNeLIDbLYeMANACLESgTTOCKhOX",
  " BACKhPAPYRUSgEDESTRIANjLANE TREEiUMED HEADlRAMcOSETTEhSAWcHIELDdPdLINGeMALL AXEiTRAINERiTATTOOED HEADmIARAeUNNYfV",
  "INEeWAVY BANDiOMANwILIPPINE DOUBLE PUNCTUATIONsSINGLE PUNCTUATIONzcOENICIAN LETTER AINcLFdBETdDELTeGAMLeHEaTdKAFdL",
  "AMDeMEMdNUNdPEcQOFdROSHeSADEdEMKdHINeTAUcETdWAUdYODdZAIkNUMBER ONEa HUNDREDlTENcHREEeWENTYeOkWORD SEPARATORwLUSfIC",
  "KaUP TRUCKkEbGa FACEeNOSEgLCROW SIGNjE OF POOiLcNATAdCHED FINGERSkING HANDkE DECORATIONlAPPLEgWHEEL STARlSCESdTOLe",
  "TCHFORKa WITH TEE TOPvLACARDdE OF INTEREST SIGNnWORSHIPnNCK CONSTANTa OVER TWO PIyYGROUND SLIDEmING CARD ACE OF CL",
  "UBSfDIAMONDSiHEARTSgSPADESnBACKdLACK JOKERlEIGHT OF CLUBSfDIAMONDSiHEARTSgSPADESpFIVE OF CLUBSfDIAMONDSiHEARTSgSPA",
  "DESnOOLcUR OF CLUBSfDIAMONDSiHEARTSgSPADESoJACK OF CLUBSfDIAMONDSiHEARTSgSPADESoKING OF CLUBSfDIAMONDSiHEARTSgSPAD",
  "ESnNIGHT OF CLUBSfDIAMONDSiHEARTSgSPADESqNINE OF CLUBSfDIAMONDSiHEARTSgSPADESoQUEEN OF CLUBSfDIAMONDSiHEARTSgSPADE",
  "SpRED JOKERjSEVEN OF CLUBSfDIAMONDSiHEARTSgSPADESoIX OF CLUBSfDIAMONDSiHEARTSgSPADESnTEN OF CLUBSfDIAMONDSiHEARTSg",
  "SPADESmHREE OF CLUBSfDIAMONDSiHEARTSgSPADESoRUMP-1a0b1b2b3b4b5b6b7b8b9c2a0b1c3b4b5b6b7b8b9gWO OF CLUBSfDIAMONDSiHE",
  "ARTSgSPADESnWHITE JOKERwDbUaNGEReS SIGNa ABOVE EQUALS SIGNrIN LEFT HALF CIRCLEqRIGHT HALF CIRCLErTRIANGLElWITH BLA",
  "CK TRIANGLEoCIRCUMFLEX ACCENT ABOVExDOT BELOWjSMALL CIRCLE ABOVErUBSCRIPT TWOnTILDE ABOVEfBELOWw-MINUS SIGNmTOa FO",
  "RM FIVEdOUReTHREEeWOnMbOCKET CALCULATORpLICE CARaS REVOLVING LIGHTuOFFICERmODLEeP DIRECTIONAL FORMATTINGkISOLATEuC",
  "ORNfRTABLE STEREOnSEIDONfITION INDICATORpTAL HORNeMARKa FACEmBOXfT OF FOODiABLE WATER SYMBOLqTOdTED PLANTkUCHcLTRY",
  " LEGiND SIGNhRING LIQUIDlTING CAT FACEiFACEkWER ON SYMBOLh-OFF SYMBOLnSLEEP SYMBOLlYMBOLlRAYER BEADSkECEDESa ABOVE",
  " ALMOST EQUAL TOpEQUALS SIGNlNOT ALMOST EQUAL TOpEQUAL TOmSINGLE-LINE EQUALS SIGNlNOT EQUAL TOzfBUT NOT EQUIVALENT",
  " TOvOR EQUAL TOfIVALENT TOqUNDER RELATIONuGNANT MANdPERSONgWOMANlSCRIPTION TAKEnENTATION FORM FOR VERTICAL COLONdM",
  "MAfEM DASHgN DASHgXCLAMATION MARKqHORIZONTAL ELLIPSIStIDEOGRAPHIC COMMAfFULL STOPvLEFT ANGLE BRACKETnBLACK LENTICU",
  "LAR BRACKETyCORNER BRACKETnURLY BRACKETnDOUBLE ANGLE BRACKETuPARENTHESISlSQUARE BRACKEToTORTOISE SHELL BRACKETwWHI",
  "TE CORNER BRACKEToLENTICULAR BRACKETzdOW LINEiQUESTION MARKnRIGHT ANGLE BRACKETnBLACK LENTICULAR BRACKETyCORNER BR",
  "ACKETnURLY BRACKETnDOUBLE ANGLE BRACKETuPARENTHESISlSQUARE BRACKEToTORTOISE SHELL BRACKETwWHITE CORNER BRACKEToLEN",
  "TICULAR BRACKETeKCETzfSEMICOLONjTWO DOT LEADERoWAVY LOW LINEzqTZELeVIOUS PAGElIMEcNCEaSSeT SCREEN SYMBOLoERa ICONj",
  "VACY MESSAGEkTE USE ONEdTWOe-1b2lOBING CANEjHIBITED SIGNmJECTIVEhPERTY LINEjORTIONaAL TOmSERPINAjSALTER PAHLAVI FO",
  "UR DOTS WITH CROSSfDOTsLETTER ALEPHfBETHeDALETHgGIMELfHEaTHeKAPHeLAMEDHgMEM-QOPHiNUNdPEcSADHEdMEKHfHINeTAWdWAW-AYI",
  "N-RESHnYODHeZAYINmNUMBER FOUReONEa HUNDREDlTENcHREEeWENTYeOkSECTION MARKmTURNED SECTION MARKzjU1b2bBLIC ADDRESS LO",
  "UDSPEAKERyNCTUATION SPACElS ELEVATUS MARKtRPLE HEARTjSEdSHPINfT LITTER IN ITS PLACE SYMBOLzfQUADRANT LOWER LEFTeRI",
  "GHTlUPPER LEFTa AND LOWER LEFT AND LOWER RIGHTuRIGHTlUPPER RIGHT AND LOWER LEFTeRIGHTzlRIGHTa AND LOWER LEFTa AND ",
  "LOWER RIGHTzvUPLE INTEGRAL OPERATORrPRIMEmRTER NOTEjTERNION INTEGRAL OPERATORzbESTION EXCLAMATION MARKqMARKfED EQU",
  "AL TOrINCUNXgOTATION MARKoRABBITa FACEjCCOONeING CARdMOTORCYCLEpDICAL SYMBOL BOTTOMrOa BUTTONhACTIVE SIGNoILWAY CA",
  "RdTRACKkNaBOWeSED BACK OF HANDmCOMMAfDOTaTED INTERPOLATION MARKERzcFISTeHANDa WITH FINGERS SPLAYEDpPART BETWEEN MI",
  "DDLE AND RING FINGERSzvINTERPOLATION MARKERuMC SIGNgD SIGNgR SIGNhSQUARElMbTaIOdZOReECEIPTeORD SEPARATORnREATIONAL",
  " VEHICLErYCLED PAPER SYMBOLpING SYMBOL FOR GENERIC MATERIALSrTYPE-1 PLASTICSk2 PLASTICSk3 PLASTICSk4 PLASTICSk5 PL",
  "ASTICSk6 PLASTICSk7 PLASTICSzjD APPLEfGIFT ENVELOPEpFERENCE MARKmGIONAL INDICATOR SYMBOL LETTER AbBbCbDbEbFbGbHbIb",
  "JbKbLbMbNbObPbQbRbSbTbUbVbWbXbYbZzfSTERED SIGNnJANG CONSONANT SIGN HbNaGcRqLETTER AbBAcCAcDAcGAcHAcJAcKAcLAcMAbBAd",
  "NAbDAcGAbGAdYAbJAePAcRAcSAcTAcWAcYAjSECTION MARKmVIRAMAfOWEL SIGN AIbUcEaAbUcIbObUrLIEVED FACElMINDER RIBBONnPLACE",
  "MENT CHARACTERtSPONSEfTRICTED LEFT ENTRY-1b2sOOMgTURN LEFTeRIGHTfSYMBOLlVERSE CHECKER BOARDnINDEXfLIGHT FOUR POINT",
  "ED PINWHEEL STARzfNE FEEDjSOLIDUSa OPERATORiPRECEDING SUBSETqWITH HORIZONTAL STROKEzfTILDE OPERATOR ABOVE LEFTWARD",
  "S ARROWpRIGHTWARDS ARROWznD ANGLEa WITH UNDERBARtCOMMAfDOUBLE PRIMEa QUOTATION MARKuSTROKE NOT SIGNwEMPTY SETjFORK",
  "ED PARAGRAPHOSsHAND WITH MIDDLE FINGER EXTENDEDzhNOT SIGNiPILCROW SIGNlRIMEfQUESTION MARKnRAISED HAND WITH FINGERS",
  " SPLAYEDzgIGHT ANGLEkOTATED FLORAL HEART BULLETzcSANS-SERIF CAPITAL LtEMICOLONjTHUMBS DOWN SIGNjUP SIGNnILDEa EQUA",
  "LSlRIPLE PRIMEmVICTORY HANDsOLVING HEARTSpHINOCEROSjIaAL SIGNhBBONa ARROW DOWN LEFTeRIGHTkLEFT DOWNeUPhRIGHT DOWNe",
  "UPiUP LEFTeRIGHTtCE BALLeCRACKERkFLEdGHT AND LOWER ONE EIGHTH BLOCKwUPPER ONE EIGHTH BLOCKyGER BUBBLEjLEa BRACKETa",
  " WITH DOTqDOTTED SUBSTITUTION MARKERzbSUBSTITUTION MARKERtVARIANT WITH SQUAREtWITH ARCdDOWNWARDS ZIGZAG ARROWzhRC ",
  "GREATER-THAN BRACKETwROW WITH CIRCLED PLUSmSMALL CIRCLExBLACK LENTICULAR BRACKETsTORTOISE SHELL BRACKETzdCEILINGgO",
  "RNER BRACKETnURLY BRACKETa LOWER HOOKkMIDDLE PIECEmUPPER HOOKyDOTTED SUBSTITUTION BRACKETzUBLE ANGLE BRACKETmRROW ",
  "WITH ROUNDED HEADxPARENTHESISlQUOTATION MARKoWIGGLY FENCEtFISH TAILhVE EIGHTHS BLOCKrLOORfHALF BLACK CIRCLEgSTARiO",
  "CKfFOLDERgMEDIUM SHADEmRUNNING MANoND TELEPHONE RECEIVERxLOW PARAPHRASE BRACKETwNORMAL FACTOR SEMIDIRECT PRODUCTzh",
  "ONE EIGHTH BLOCKmQUARTER BLOCKqPEN SQUARED DOTpUTER JOINkPARENTHESISa EXTENSIONjLOWER HOOKkUPPER HOOKwRAISED OMISS",
  "ION BRACKETxS-SHAPED BAG DELIMITERvEMIDIRECT PRODUCTqVEN EIGHTHS BLOCKsIDEWAYS U BRACKETqNGLE QUOTATION MARKuPEAKE",
  "Ra WITH ONE SOUND WAVEoTHREE SOUND WAVESzcECH BUBBLEmQUARE BRACKETa EXTENSIONjLOWER CORNERmUPPER CORNERmWITH DOUBL",
  "E STROKEnQUILLfSTROKEgTICK IN BOTTOM CORNERnTOP CORNERsUNDERBARzcUBSTITUTION BRACKETuTACKdHIRD WHITE RIGHT POINTIN",
  "G INDEXzfOUGHT BUBBLEmREE EIGHTHS BLOCKnQUARTERS BLOCKtORTOISE SHELL BRACKETvRANSPOSITION BRACKETtIANGLEa ABOVE LE",
  "FT TRIANGLEwULAR ONE QUARTER BLOCKzdVERTICAL BAR WITH QUILLnOX LINErWHITE CORNER BRACKETnURLY BRACKETnLENTICULAR B",
  "RACKETsPARENTHESISlSQUARE BRACKEToTORTOISE SHELL BRACKETzcIGGLY FENCEn-FACING ARMENIAN ETERNITY SIGNwFISTeSVASTI S",
  "IGNa WITH DOTSzdHANDED INTERLACED PENTAGRAMzcPOINTING ANGLE BRACKETnCURVED ANGLE BRACKETuDOUBLE ANGLE QUOTATION MA",
  "RKzcMAGNIFYING GLASSzSHADED WHITE RIGHTWARDS ARROWzdIDE ARC CLOCKWISE ARROWyTO-LEFT EMBEDDINGjISOLATEhMARKeOVERRID",
  "ErHAND INTERIOR PRODUCTvWARDS ARROWa ABOVE ALMOST EQUAL TOpREVERSE ALMOST EQUAL TOpTILDE OPERATORwSHORT LEFTWARDS ",
  "ARROWvTILDE OPERATORtND UPPER AND LOWER ONE EIGHTH BLOCKzlFROM BARa TO BLACK DIAMONDzOVER LEFTWARDS ARROWuTHROUGH ",
  "GREATER-THANmSUPERSETiXiO BARcLACK DIAMONDqWITH CORNER DOWNWARDSqDOTTED STEMjUBLE VERTICAL STROKEwEQUILATERAL ARRO",
  "WHEADvHOOKeLARGE TRIANGLE ARROWHEADxOOPeMEDIUM TRIANGLE ARROWHEADzNOTCHED TAILmPLUS BELOWkSMALL EQUILATERAL ARROWH",
  "EADvTRIANGLE ARROWHEADxTROKEgTAILa WITH DOUBLE VERTICAL STROKEwVERTICAL STROKEyIP DOWNWARDSjUPWARDSlVERTICAL STROK",
  "Ev-TAILkBACK-TILTED SHADOWED WHITE ARROWzgLACK ARROWfCIRCLED WHITE ARROWyOTTOM SHADED WHITE ARROWzCOMPRESSED ARROW",
  "qDASHED ARROWlOUBLE ARROWa FROM BARiWITH STROKEgVERTICAL STROKEv-TAILkDASH ARROWrFINGER-POST ARROWqRONT-TILTED SHA",
  "DOWED WHITE ARROWziHANDcRPOON OVER LEFTWARDS HARPOONwWITH BARB DOWN ABOVE LEFTWARDS HARPOON WITH BARB DOWNznBELOW ",
  "LONG DASHpFROM BARiTO BARhWARDSjUP ABOVE LEFTWARDS HARPOON WITH BARB UPzeONG DASHjRIGHTWARDS HARPOON WITH BARB DOW",
  "NzoFROM BARiTO BARhWARDSyEAVY ARROWfCOMPRESSED ARROWwLEFT-SHADED WHITE ARROWxOPEN-HEADED ARROWrPAIRED ARROWSnQUADR",
  "UPLE ARROWpRIGHT-SHADED WHITE ARROWxOCKETgSANS-SERIF ARROWpQUARED ARROWkIGGLE ARROWoTOP SHADED WHITE ARROWvRIANGLE",
  " ARROWHEADk-HEADED ARROWa OVER LEFTWARDS TRIANGLE-HEADED ARROWzlTO BARgWITH BOLD SHAFTkDOUBLE HORIZONTAL STROKErVE",
  "RTICAL STROKEwHEAVY SHAFTlLONG TIP DOWNWARDSjUPWARDSqMEDIUM SHAFTmNARROW SHAFTmVERY HEAVY SHAFTzcDASHED ARROWmPAIR",
  "ED ARROWSzbPLE ARROWfDASH ARROWqWO HEADED ARROWn-HEADED ARROW FROM BARiWITH DOUBLE VERTICAL STROKEwTAILa WITH DOUB",
  "LE VERTICAL STROKEwVERTICAL STROKEyRIANGLE ARROWHEADStVERTICAL STROKEzbTRIPLE DASH ARROWzdWAVE ARROWjHITE ARROWa F",
  "ROM WALLjWITHIN TRIANGLE ARROWHEADzvNGa ABOVEfBUOYeEQUAL TOiIN EQUAL TOlOPERATORiPOINTgED PLANETjING BELLkSING DIA",
  "GONAL CROSSING FALLING DIAGONALqSOUTH EAST ARROWzpLEbIbMbOcOASTED SWEET POTATOsBOT FACEiCKaETeLL OF PAPERjED-UP NE",
  "WSPAPERoR COASTERhSKATEiING ON THE FLOOR LAUGHINGzcMAN AS SIGNhCENTURIAL SIGNoDENARIUS SIGNmIMIDIA SEXTULA SIGNtUP",
  "ONDIUS SIGNoNUMERAL EIGHTeLEVENgFIFTYa EARLY FORMkTHOUSANDmVEa HUNDREDhTHOUSANDmOUReNINEeONEa HUNDREDa THOUSANDqTH",
  "OUSANDa C DqREVERSED ONE HUNDREDuSEVENeIXa LATE FORMnTENa THOUSANDlHREEeWELVEeOlQUINARIUS SIGNoSEMUNCIA SIGNlSTERT",
  "IUS SIGNnXTANS SIGNiULA SIGNlILIQUA SIGNmUNCIA SIGNoOSTERfSEaTTEfTATED CAPITAL QjFLORAL HEART BULLETtHEAVY BLACK H",
  "EART BULLETyLIGHT FOUR POINTED BLACK CUSPzeWHITE FOUR POINTED CUSPzeUND PUSHPINhTARGEThED SYMBOL FOR CAIdFUcLUcSHO",
  "UcUANGXIiXItWBOATgSbUBLE SIGNiGBY FOOTBALLmLE-DELAYEDkMI DIGIT EIGHTfFIVEdOUReNINEeONEdSEVENeIXdTHREEeWOjFRACTION ",
  "ONE HALFeQUARTERhTHIRDjTWO THIRDStNUMBER EIGHT HUNDREDiYgFIFTYdVE HUNDREDlORTYdUR HUNDREDmNINE HUNDREDiTYgONE HUND",
  "REDlSEVEN HUNDREDiTYgIX HUNDREDiTYfTENcHIRTYeREE HUNDREDmWENTYeO HUNDREDvNIC ARLAUG SYMBOLnBELGTHOR SYMBOLpCROSS P",
  "UNCTUATIONrLETTER AC AdESCdLGIZ EOLHXkNSUZ AhBERKANAN BEORC BJARKAN ByCaALCdEALCdNcWEORTHhDaAGAZ DAEG DlOTTED-LbNb",
  "PiEaARcHWAZ EH EjNGcTHdFEHU FEOH FE FnRANKS CASKET ACbESCeEHcIScOSqGaARcEBO GYFU GjRdHAEGL HfGLAZ HiICELANDIC-YRlN",
  "GaWAZfORcSAZ IS ISS ImWAZ EOHiJERAN JhKaAUN KcAfLAUKAZ LAGU LOGR LrONG-BRANCH-AR AEfHAGALL HiMADR MgOSS OfYRoMANNA",
  "Z MAN MmNAUDIZ NYD NAUD NrOaEbNbObPEN-PfS OdTHALAN ETHEL OpPERTHO PEORTH PpQbRAIDO RAD REID RqSHaORT-TWIG-AR AeBJA",
  "RKAN BjHAGALL HiMADR MgNAUD NgOSS OfSOL SfTYR TfYRmIGEL LONG-BRANCH-SOL SwOWILO ShTANeTHURISAZ THURS THORNtIWAZ TI",
  "R TYR TpURUZ UR UjVbWaUNJO WYNN WmXbYaRcZiMULTIPLE PUNCTUATIONuSINGLE PUNCTUATIONsTVIMADUR SYMBOLsNERcING SHIRT WI",
  "TH SASHvPEE SIGNiSSIAN ASTROLOGICAL SYMBOL BINOVILEiNOVILEgQUINTILEiSENTAGONiTREDECILEjVIGINTILEzmS IN TRIANGLEmAF",
  "ETY PINdVESTjGITTARIUSjILBOATgKE BOTTLE AND CUPrLT SHAKERhIREeUTING FACElMARITAN ABBREVIATION MARKrLETTER ALAFeBAA",
  "cITdDALATfFIcGAMANfINbTbYcKAAFeLABATfMIMdNUNdQUFdRISHeSHANdINGAAThTAAFdITcSAADIYhYUTdZENkMARK DAGESHgEPENTHETIC YU",
  "ToINa-ALAFhNEQUDAAhOCCLUSIONnODIFIER LETTER EPENTHETIC YUToIbSHORT AxPUNCTUATION AFSAAQfNGEDdNAAUfRKAANUgTMAAUgBAU",
  "dMELODIC QITSAnNEQUDAAhQITSAfSHIYYAALAAjOF MASHFAATmTURUeZAEFdIQAArVOWEL SIGN AaAcEbIbLONG AaAcEbIbUgOaVERLONG AaA",
  "lSHORT AgUKUNfUuNDWICHfS-SERIF HEAVY DOUBLE COMMA QUOTATION MARK ORNAMENTzeTURNED COMMA QUOTATION MARK ORNAMENTzsL",
  "OW DOUBLE COMMA QUOTATION MARK ORNAMENTzvINTERROBANG ORNAMENTzeRIcTELLITEa ANTENNAoURNeURASHTRA CONSONANT SIGN HAA",
  "RUuDANDAeIGIT EIGHTfFIVEdOUReNINEeONEdSEVENeIXdTHREEeWOdZEROjOUBLE DANDAmLETTER AaAbIbUcBAbHAdCAbHAdDAbDAbHAdHAdEa",
  "EcGAbHAdHAcIaIcJAbHAdKAbHAdLAbLAdMAcNAbGAcNAcYAdOaOcPAbHAdRAcSAbHAcSAdTAbHAcTAbHAeUaUcVAbOCALIC LaLcRaRkYAjSIGN AN",
  "USVARAiCANDRABINDUlVIRAMAeSARGAmVOWEL SIGN AAbIbUcEaEcIaIcOaOcUaUcVOCALIC LaLcRaRzdOPODgXOPHONEiCALESdRFdHOOLa SAT",
  "CHELmIbOOTEReRPIONcUSgREENcWDRIVERiIPT CAPITAL BbEbFbHbIbLbMbPbRjLIGATURE ET ORNAMENTuSMALL EbGbLbOlOLLdUPLEgEALbT",
  "cCOND PLACE MEDALpTION SIGNiOReDNAdE-NO-EVIL MONKEYpDLINGgGMENTaED DIGIT EIGHTfFIVEdOUReNINEeONEdSEVENeIXdTHREEeWO",
  "dZEROsLFIEeMICOLONfDIRECT PRODUCT WITH BOTTOM CLOSEDziSEXTILEjPARATED SYMBOLoRIOUS FACE WITH SYMBOLS COVERING MOUT",
  "HzmVICE MARKkSAME DOThQUIQUADRATEmT MINUSfTRANSMIT STATEqWING NEEDLElXTILEgGCcHADOWED WHITE CIRCLEgLATIN CROSSlSTA",
  "RqLLOW PAN OF FOODqMROCKfRADA ABBREVIATION SIGNrCONTINUATION SIGNrDANDAeIGIT EIGHTfFIVEdOUReNINEeONEdSEVENeIXdTHRE",
  "EeWOdZEROjOUBLE DANDAmEKAMdXTRA SHORT VOWEL MARKwHEADSTROKEkLETTER AaAbIbUcBAbHAdCAbHAdDAbDAbHAdHAdEbGAbHAdHAcIaIc",
  "JAbHAdKAbHAdLAbLAdMAcNAbGAcNAcYAdObPAbHAdRAcSAbHAcSAdTAbHAcTAbHAeUaUcVAbOCALIC LaLcRaRkYAjOMcSANDHI MARKkECTION MA",
  "RK-1b2mPARATORiIGN ANUSVARAhVAGRAHAiCANDRABINDUlINVERTED CANDRABINDUuJIHVAMULIYAlNUKTAfSIDDHAMhUPADHMANIYAlVIRAMAe",
  "SARGAlUTRA MARKkVOWEL MODIFIER MARKnSIGN AAbIbUcEbIaIcObPRISHTHAMATRA EpUaUcVOCALIC LaLcRaRzKcVED ICEgIAN LETTER A",
  "DOcGEcHbIRcREbRAYeSHcWEdBIBdCHURCHgDEADeEARbTcGGcRRdFEEdGAGdHA-HAeUNGeIANcCEcFcJUDGEfKICKeLOLLeMEASUREgIMEeNUNdOAK",
  "cILcNbOZEdRbUTdPEEPeROAReSObUREeTHEYcIGHeOTdUPcVOWdWOEbOLeYEAbWdZOOqEEPdIELDdFT INcOUTgNTO SHRINEkPcOCKED FACE WIT",
  "H EXPLODING HEADzeOTING STARkPPING BAGSeTROLLEYnRT BACKSLANTED SOUTH ARROWwENT ARROW POINTING DOWNWARDS THEN NORTH",
  " EASTzuDOWN TACKa WITH OVERBARwLEFT TACKjRIGHTWARDS ARROW ABOVE LEFTWARDS ARROWznSLANTED NORTH ARROWtUP TACKa ABOV",
  "E SHORT DOWN TACKvWITH UNDERBARwCAKEeHAND FORMAT CONTINUING OVERLAPsDOWN STEPjLETTER OVERLAPoUP STEPtSdULDERED OPE",
  "N BOXqWEReRIMPdUGdUFFLE PRODUCTnYcIaDDHAM DANDAeOUBLE DANDAmEND OF TEXT MARKqLETTER AaAbIbLTERNATE UkUcBAbHAdCAbHA",
  "dDAbDAbHAdHAdEbGAbHAdHAcIaIcJAbHAdKAbHAdLAcMAcNAbGAcNAcYAdObPAbHAdRAcSAbHAcSAdTAbHAbREE-CIRCLE ALTERNATE IxTAbHAdW",
  "O-CIRCLE ALTERNATE IaIxUaUcVAbOCALIC LaLcRaRkYAjREPETITION MARK-1b2b3rSECTION MARK DOUBLE RINGa WITH RAYSvWITH CIR",
  "CLES AND FOUR ENCLOSURESpRAYSeTWO ENCLOSURESzbDOUBLE CRESCENTSqQUADRUPLE CRESCENTStRAYS AND DOTTED CRESCENTSjDOUBL",
  "E CRESCENTSqTRIPLE CRESCENTSzhSEPTUPLE CRESCENTSsTRIDENT AND DOTTED CRESCENTSqU-SHAPED ORNAMENTSzcPLE CRESCENTSzhP",
  "ARATOR BARdDOTmIGN ANUSVARAiCANDRABINDUlNUKTAfSIDDHAMhVIRAMAeSARGAmVOWEL SIGN AAbIbLTERNATE UaUlUcEbIaIcObUaUcVOCA",
  "LIC RaRzbEWAYS BLACK DOWN POINTING INDEXtLEFT POINTING INDEXtRIGHT POINTING INDEXuUP POINTING INDEXxWHITE DOWN POI",
  "NTING INDEXtLEFT POINTING INDEXtRIGHT POINTING INDEXuUP POINTING INDEXzfGN OF THE HORNSnWRITING AIR BLOW SMALL ROT",
  "ATIONSqING OUTlSUCK SMALL ROTATIONSqING INoBREATH EXHALEgINHALElUSH BETWEENhMULTIPLEiSINGLEmCHEEKS NEUTRALhPUFFEDg",
  "SUCKEDmOLONdMMAfDREAMY EYEBROWS DOWN NEUTRALmNEUTRAL DOWNeUPkUP NEUTRALzYNAMIC ARROWHEAD LARGEfSMALLpEVERY OTHER T",
  "IMEqFASTeGRADUALhRELAXEDhSIMULTANEOUSa ALTERNATINGxLOWeTENSEnEARSdXCITEMENTjYE BLINK MULTIPLEiSINGLEmWINKfBROWS ST",
  "RAIGHT DOWNeNEUTRALhUPrGAZE-FLOORPLANE CURVEDgSTRAIGHTa ALTERNATINGlDOUBLEzbWALLPLANE CIRCLINGhURVEDgSTRAIGHTa ALT",
  "ERNATINGlDOUBLEzfLASHES DOWNeFLUTTERINGkUPjS CLOSEDgHALF CLOSEDgOPENjOPENeSQUEEZEDiWIDE OPENfNING MOVEMENTwFACE DI",
  "RECTION POSITION NOSE FORWARD TILTINGpUP OR DOWNa TILTINGzvILL MODIFIER-2b3b4b5b6nNGERfLICK LARGE MULTIPLEiSINGLEm",
  "SEQUENTIALjMALL MULTIPLEiSINGLEqOORPLANE SHOULDER HIP MOVEzcOREHEAD CONTACThNEUTRALhWRINKLEDqULL STOPjGRASP BETWEE",
  "NhMULTIPLEiSINGLEmHAIRcND-ANGLEa INDEXa MIDDLE LITTLEgRINGlRING LITTLEa OUTpTHUMBa INcOUTpLITTLE INDEXa THUMB INDE",
  "X THUMBa OUTzcUPjMIDDLE RING LITTLEa INcOUTwRING DOWN MIDDLE THUMB INDEX CROSSzeLITTLErCIRCLEa INDEXa BENTeHINGEfM",
  "IDDLEa CROSS LITTLEhEDhLITTLEgRINGeTHUMBmRING LITTLErLITTLE INDEXfUPjMIDDLE RING LITTLEa BENTqUPjRING LITTLErLAWa ",
  "FOUR FINGERS CONJOINEDwINDEX THUMB CURVE THUMB INSIDEzfMIDDLE RING LITTLE CONJOINEDa SIDEziNO THUMBiTHUMB FORWARDh",
  "SIDEoUPa FIVE FINGERS SPREADa OPENyINDEXa RING LITTLElTHUMBa OPENqMIDDLE RING LITTLEsNO THUMBiOPENa NO THUMBiTHUMB",
  " FORWARDhSIDEpTHUMB FORWARDhSIDEmRLICUEa INDEX RING LITTLE ONuMIDDLE RING LITTLE ONvOPENnFISTa FOUR FINGERS CONJOI",
  "NED BENTzcHEELeINDEXa BENTa OVER MIDDLEqCUPPEDgHINGEDa LOWdMIDDLE UPa THUMB SIDEzcMIDDLEa BENTa THUMB STRAIGHTtCON",
  "JOINEDa CUPPEDa THUMB FORWARDuHINGEDa THUMB SIDErINDEX BENTkMIDDLE BENTlTHUMB FORWARDhSIDEa BENTeCONJOINEDzeROSS L",
  "ITTLEhEDa THUMB SIDEsHINGEDa SPREAD THUMB SIDEyLITTLEgRAISED KNUCKLESoINGa BENTeCONJOINEDoSTRAIGHT THUMB BENTtTHUM",
  "Ba ANGLEDa OUTkBENTeCIRCLEDgONJOINED HINGEDpUPPEDgHINGEDfOOKEDmUP SPREAD THUMB FORWARDzfRAISED KNUCKLEnING LITTLEl",
  "THUMB ANGLED IN MIDDLE UPmOUT MIDDLE UPuCIRCLEaD MIDDLE UPqUPPED MIDDLE UPoRLICUEfVE THUMB INSIDEgUNDERrFORWARD IN",
  "DEX BENTeSTRAIGHTwHOOKaED MIDDLE HINGEDgUPqSIDEa BOTH BENTjINDEX BENTeHINGElTHUMB BENTeCONJOINEDjDIAGONALzUP MIDDL",
  "E HINGEDa THUMB CONJOINEDjSIDEziLITTLE BENTeDOWNa OTHERS CIRCLEDoRIPPLE CURVEDgSTRAIGHTuINDEXa THUMBlRAISED KNUCKL",
  "EoTHUMBeOUCHES THUMBnUPjMIDDLE BENT OVER INDEXpDOWNeLITTLEgRAISED KNUCKLEnING LITTLElTHUMB ANGLED INDEX UPiOUT IND",
  "EX CROSSEDhUPtCIRCLED INDEX HINGEDgUPpUPPED INDEX UPpHOOKED INDEX UPpLITTLEmUPa THUMB SIDEuRING DOWNeINDEXfLITTLEg",
  "MIDDLEa CONJOINEDjRAISED KNUCKLESwRAISED KNUCKLEoTHUMBfUPhTHUMBa BETWEEN INDEX MIDDLEa STRAIGHTvMIDDLE RINGlRING L",
  "ITTLEtFORWARDhHEELeOVER FOUR RAISED KNUCKLESuTWO FINGERSqSIDE BENTeCONJOINEDjDIAGONALnUNDER FOUR FINGERSmINDEX BEN",
  "TkLITTLE UPjTHREE FINGERSmWO FINGERSzcLATa BETWEEN PALM FACINGSuFIVE FINGERS SPREADa BENTeFOUR BENTjHINGEDa NO THU",
  "MBiTHUMB SIDErTHUMB FORWARDzhOUR FINGERSa BENTeCONJOINEDa SPLITpHINGEDtHEELa FIVE FINGERS SPREADa BENTeFOUR BENTze",
  "THUMB SIDEpSPLIT CENTREa THUMB SIDEa BENTwINDEX THUMB SIDEqLITTLEmTHUMB BENTeFORWARDhSIDEpHINGEa FIVE FINGERS SPRE",
  "AD OPENxOUR FINGERS CONJOINEDwINDEXa HINGEDgMIDDLE LITTLEgRINGa CONJOINEDvRING LITTLElTHUMBa LARGEfOPENeSIDEdMALLr",
  "LITTLEa INDEXa THUMBlTHUMBmMIDDLEa RING LITTLEsNO THUMBiOPENa NO THUMBiTHUMB FORWARDhSIDEpRINGa DOWN INDEX THUMB H",
  "OOK MIDDLEziSMALLfTHUMB BETWEEN MIDDLE RINGtSIDEa TOUCHING INDEXzfOOKa CURLICUEiINDEX RING LITTLE INcOUTdUNDERxMID",
  "DLE RING LITTLE CONJOINEDa INcOUTzTHUMBmRING THUMBpOVALa FIVE FINGERS SPREADtINDEXfLITTLE UPjNO THUMBiRING LITTLEl",
  "THUMB FORWARDhSIDEtEADa MOVEMENT CIRCLEh-FLOORPLANE CURVEfSTRAIGHTtWALLPLANE CURVEfSTRAIGHTiTILTxRIMiLIMB COMBINAT",
  "IONlLENGTH-1b2b3b4b5b6b7lP LOWER OVER UPPERqUPPER OVER LOWERrS PRESSED TOGETHERuOCATION DEPTHfHEAD NECKhIGHTgLIMBS",
  " DIGITSmTORSOfWIDTHg-FLOORPLANE SPACEqWALLPLANE SPACEyMOUTH CLOSED CONTACThFORWARDhNEUTRALnORNERShFROWNa OPENeWRIN",
  "KLEDoKISSa FORWARDhWRINKLEDnOPEN CIRCLEgFORWARDhOVALa WRINKLEDiYAWNjRECTANGLEa WRINKLEDiYAWNoWRINKLEDnSMILEa OPENe",
  "WRINKLEDoTENSEa FORWARDhSUCKEDmWRINKLES DOUBLEgSINGLEtVEMENT-DIAGONAL AWAY LARGEaSThMEDIUMgSMALLkBETWEEN AWAY LARG",
  "EaSThMEDIUMgSMALLkTOWARDS LARGEaSThMEDIUMgSMALLvTOWARDS LARGEaSThMEDIUMgSMALLwFLOORPLANE ARM CIRCLE HITTING WALL L",
  "ARGE DOUBLEgSINGLEmMEDIUM DOUBLEgSINGLEnSMALL DOUBLEgSINGLEzlBENDdOX LARGEfMEDIUMgSMALLjCHECKeORNER LARGEfMEDIUMgS",
  "MALLlROSSeURVE COMBINEDiHITTING CEILING LARGEfSMALLnFLOOR LARGEfSMALLtLARGEaSThMEDIUMgSMALLlDOUBLE ALTERNATINGa WR",
  "IST FLEXwSTRAIGHTiWRIST FLEXrFINGER CIRCLES HITTING WALL DOUBLEgSINGLEzbONTACToHUMP HITTING CEILING LARGE DOUBLEgT",
  "RIPLEmSMALL DOUBLEgTRIPLEuFLOOR LARGE DOUBLEmSMALL DOUBLEmTRIPLE LARGE TRIPLEmSMALL TRIPLEziSMALLkJAWdLOOP HITTING",
  " CEILING LARGE DOUBLEgSINGLEmSMALL DOUBLEgSINGLEuFLOOR LARGE DOUBLEgSINGLEmSMALL DOUBLEgSINGLEzbSMALLkPEAKS LARGEf",
  "MEDIUMgSMALLlSHAKING PARALLELpINGLE STRAIGHT LARGEaSThMEDIUMgSMALLoWRIST FLEXrTRIPLE ALTERNATING MOVEMENTiWRIST FL",
  "EXwSTRAIGHT MOVEMENTrWRIST FLEXrWAVE HITTING CEILING LARGEfSMALLnFLOOR LARGEfSMALLtLARGEfSMALLeNAKEjRIST CIRCLE HI",
  "TTING WALL DOUBLEgSINGLEzhZIGZAG LARGEfMEDIUMgSMALLxHINGE DOWN SEQUENTIALpSIDE TO SIDE SCISSORSvUP DOWN ALTERNATIN",
  "G LARGEfSMALLrLARGEfSMALLkSEQUENTIALtWALLPLANE ARM CIRCLE MEDIUM DOUBLEgSINGLEnSMALL DOUBLEgSINGLExBEND LARGEfMEDI",
  "UMgSMALLjOX LARGEfMEDIUMgSMALLjCHECK LARGEfMEDIUMgSMALLkORNER LARGEfMEDIUMgROTATIONiSMALLlROSSeURVE HALF-CIRCLE LA",
  "RGEaSThMEDIUMgSMALLqITTING CHESTfFRONT WALLsQUARTER LARGEaSThMEDIUMgSMALLnTHEN STRAIGHTlREE-QUARTER CIRCLE MEDIUMg",
  "SMALLzcD CROSS MEDIUMgSMALLsDOUBLE ALTERNATINGa WRIST FLEXwSTRAIGHTiWRIST FLEXrFINGER CIRCLES DOUBLEgSINGLEnONTACT",
  "oHUMP HITTING CHESTfFRONT WALLsLARGEfMEDIUMgSMALLkJAWdLOOP HITTING CHESTfFRONT WALLsLARGEfMEDIUMgSMALLa DOUBLErPEA",
  "KS LARGEfMEDIUMgSMALLlSHAKINGgINGLE STRAIGHT LARGEaSThMEDIUMgSMALLoWRIST FLEXrTRIPLE ALTERNATINGa WRIST FLEXwSTRAI",
  "GHT MOVEMENTrWRIST FLEXrWAVE CURVE DOUBLE LARGEfMEDIUMgSMALLmTRIPLE LARGEfMEDIUMgSMALLsDIAGONAL PATH LARGEfMEDIUMg",
  "SMALLtHITTING CHESTfFRONT WALLwRIST CIRCLE FRONT DOUBLEgSINGLEzZIGZAG LARGEfMEDIUMgSMALLzgNECKdOSE CONTACThNEUTRAL",
  "hWIGGLESgRINKLESnPARENTHESISlROTATION MODIFIER-10b1b2b3b4b5b6c2b3b4b5b6b7b8b9l-FLOORPLANE ALTERNATINGa HITTING CEI",
  "LINGhFLOORzDOUBLEa HITTING CEILINGhFLOORuSINGLEa HITTING CEILINGhFLOORzgWALLPLANE ALTERNATEbING HITTING CHESTfFRON",
  "T WALLzfDOUBLEa HITTING CHESTfFRONT WALLzSINGLEa HITTING CHESTfFRONT WALLzsUB BETWEENhMULTIPLEiSINGLEkSEMICOLONiHO",
  "ULDER HIP POSITIONSjSPINEjTILTING FROM WAISTzbQUEEZE FLICK ALTERNATINGrLARGE MULTIPLEiSINGLEmSEQUENTIALjMALL MULTI",
  "PLEiSINGLEtTRIKE BETWEENhMULTIPLEiSINGLEmURFACE BETWEENhSYMBOLSpTEETHa BITE LIPSjMOVEMENTiON LIPSa MOVEMENTnTONGUE",
  "a MOVEMENTwNSE CHEEKS HIGHeLOWdMIDDLEsONGUE CENTRE INSIDE MOUTHmSTICKING OUTtINSIDE MOUTH RELAXEDuLICKING LIPSmMOV",
  "ES AGAINST CHEEKtSTICKING OUT FARqTIP BETWEEN LIPSmTOUCHING INSIDE MOUTHzfRSO-FLOORPLANE TWISTINGtWALLPLANE CURVED",
  " BENDlSTRAIGHT STRETCHzfUCH BETWEENhMULTIPLEiSINGLElRAVEL-FLOORPLANE ROTATION-FLOORPLANE ALTERNATINGlDOUBLEgSINGLE",
  "rWALLPLANE ALTERNATINGlDOUBLEgSINGLEzSHAKINGsWALLPLANE ARM SPIRAL DOUBLEgSINGLEgTRIPLErROTATION-FLOORPLANE ALTERNA",
  "TINGlDOUBLEgSINGLErWALLPLANE ALTERNATINGlDOUBLEgSINGLEzSHAKINGyUPPER BODY TILTING FROM HIP JOINTSzjWALLPLANE SHOUL",
  "DER HIP MOVEzmLHOUETTE OF JAPANrMILAR ABOVE GREATER-THAN ABOVE EQUALS SIGNzfLESS-THAN ABOVE EQUALS SIGNziMINUS SIM",
  "ILARnOR GREATER-THANmLESS-THANsNE WAVEgGLE CHARACTER INTRODUCERuGRAPHIC CHARACTER INTRODUCERzdHIGH-REVERSED-9 QUOT",
  "ATION MARKzfLEFT-POINTING ANGLE QUOTATION MARKziOW-9 QUOTATION MARKuRIGHT-POINTING ANGLE QUOTATION MARKzkSHIFT THR",
  "EEeWOk-SHIFT-2b3lHALA ARCHAIC DIGIT EIGHTfFIVEdOUReNINEeONEdSEVENeIXdTHREEeWOjNUMBER EIGHTYgFIFTYeORTYfNINETYgONE ",
  "HUNDREDhTHOUSANDmSEVENTYgIXTYfTENcHIRTYfWENTYvLETTER AAYANNAgEEYANNAgYANNAgIYANNAgLPAPRAANA BAYANNAhCAYANNAhDAYANN",
  "AgDAYANNAiGAYANNAhJAYANNAhKAYANNAhPAYANNAhTAYANNAgTAYANNAsMBA BAYANNAlUYANNAgYANNAgDANTAJA LAYANNAhNAYANNAhSAYANNA",
  "pEEYANNAgYANNAgFAYANNAhHAYANNAhIIYANNAgLUUYANNAgYANNAhRUUYANNAgYANNAhYANNAgKANTAJA NAASIKYAYAsMAHAAPRAANA BAYANNAh",
  "CAYANNAhDAYANNAgDAYANNAiGAYANNAhJAYANNAhKAYANNAhPAYANNAhTAYANNAgTAYANNAsYANNAgUURDHAJA LAYANNAhNAYANNAhSAYANNArOOY",
  "ANNAgYANNAgRAYANNAhSANYAKA DAYANNAgDAYANNAiGAYANNAhJAYANNApTAALUJA NAASIKYAYAkSANYOOGA NAAKSIKYAYAsYANNApUUYANNAgY",
  "ANNAgVAYANNAhYAYANNAnITH DIGIT EIGHTfFIVEdOUReNINEeONEdSEVENeIXdTHREEeWOdZEROpPUNCTUATION KUNDDALIYAwSIGN AL-LAKUN",
  "AiNUSVARAYAkCANDRABINDUlVISARGAYAoVOWEL SIGN AELA-PILLAkDIGA AEDA-PILLAkGAETTA-PILLAkYANUKITTAlIS-PILLAiKOMBUVAhPA",
  "A-PILLAoGAETTA-PILLAkYANUKITTAlKETTI AEDA-PILLAkIS-PILLAiPAA-PILLAoOMBU DEKAfVAa HAA AELA-PILLAkDIGA AELA-PILLApGA",
  "YANUKITTAzpX PETALLED BLACK AND WHITE FLORETTEzhOINTED BLACK STARkPINWHEEL STARnSTAR WITH MIDDLE DOTze-PER-EM SPAC",
  "EnTEEN POINTED ASTERISKxKATEBOARDiI AND SKI BOOTnERdULLa AND CROSSBONESrNKeLANTED EQUAL TO OR GREATER-THANa WITH D",
  "OT INSIDEzdLESS-THANa WITH DOT INSIDEzmNORTH ARROW WITH HOOKED HEADjRIZONTAL TAILzmVONIC ASTERISKpEDbEPING ACCOMMO",
  "DATIONnFACEeSYMBOLkY FACEiUTH OR SPYlICE OF PIZZAlGHTLY FROWNING FACEnSMILING FACEtOPEbING LARGE ANDdORnT MACHINEi",
  "HeMALL AIRPLANEhMPERSANDiSTERISKiBLUE DIAMONDmCOLONdMMAbERCIAL ATlNTAINS AS MEMBERjWITH OVERBARhVERTICAL BAR AT EN",
  "D OF HORIZONTAL STROKEzzeDOLLAR SIGNlELEMENT OFa WITH OVERBARhVERTICAL BAR AT END OF HORIZONTAL STROKEzzfM DASHgQU",
  "ALS SIGNkXCLAMATION MARKqFULL STOPjGREATER-THAN SIGNrHYPHEN-MINUSmIDEOGRAPHIC COMMArLEFT CURLY BRACKETnPARENTHESIS",
  "lTORTOISE SHELL BRACKETzSS-THAN SIGNoNUMBER SIGNlORANGE DIAMONDoPERCENT SIGNlLUS SIGNjQUESTION MARKnREVERSE SOLIDU",
  "SoIGHT CURLY BRACKETnPARENTHESISlTORTOISE SHELL BRACKETzcOMAN NUMERAL EIGHTeLEVENgFIFTYdVEa HUNDREDlOUReNINEeONEa ",
  "HUNDREDhTHOUSANDmSEVENeIXdTENcHREEeWELVEeOrSEMICOLONjTILDEeWO DOTS OVER ONE DOT PUNCTUATIONziVEE WITH UNDERBARsER ",
  "THANa OR EQUAL TOvSH PRODUCTlILEbING CAT FACE WITH HEART-SHAPED EYESrOPEN MOUTHyFACE WITH HALOdEART-SHAPED EYESqOR",
  "NSfOPEN MOUTHa AND COLD SWEATkSMILING EYESmTIGHTLY-CLOSED EYESzjSMILING EYESa AND HAND COVERING MOUTHtTHREE HEARTS",
  "zdUNGLASSESkTEARtRKING FACElOKING SYMBOLnNAILcKEdEEZING FACElOW CAPPED MOUNTAINqBOARDERhFLAKEfMANa WITHOUT SNOWtOa",
  "CCER BALLiKSdFT HYPHENgICE CREAMjSHELL FLOPPY DISKsBALLeWARE-FUNCTION SYMBOLwGDIAN COMBINING CURVE ABOVEfBELOWlDOT",
  " ABOVEfBELOWjHOOK ABOVEfBELOWkLONG HOOK BELOWpRESH BELOWkSTROKE BELOWmTWO DOTS ABOVEfBELOWyINDEPENDENT SHINqLETTER",
  " ALEPHeYINeBETHeFETHeGIMELfHEaTHeKAPHeLAMEDHfESHeMEMdNUNdPEcRESH-AYINjSADHEdMEKHfHINeTAWdWAWdYODHeZAYINmNUMBER ONE",
  "a HUNDREDlTENcWENTYnPUNCTUATION CIRCLE WITH DOTpHALF CIRCLE WITH DOTuTWO CIRCLES WITH DOTSrVERTICAL BARSa WITH DOT",
  "SzuHbLID QUILT SQUARE ORNAMENTa IN BLACK SQUAREznUSa WITH OVERBARsM SIGNgON WITH RIGHTWARDS ARROW ABOVEzfRA SOMPEN",
  "G DIGIT EIGHTfFIVEdOUReNINEeONEdSEVENeIXdTHREEeWOdZEROkLETTER AHcBAHdCAHdDAHdEEHcHcGAHdHAHdIHcJAHdKAHdLAHdMAEbHdNA",
  "HcGAHdYAHeOHcPAHdRAHdSAHdTAHdUHcVAHdYAHvSbUND RECORDING COPYRIGHTwTH EAST ARROWa AND SOUTH WEST ARROWuCROSSING NOR",
  "TH EAST ARROWzTO CORNERjWITH HOOKpBLACK ARROWlDOUBLE ARROWmPOINTING BUDdLEAFeVINE LEAFsSANS-SERIF ARROWqTRIANGLE-H",
  "EADED ARROWa TO BARzdWHITE ARROWqWEST ARROWa AND NORTH WEST ARROWuWITH HOOKpBLACK ARROWlDOUBLE ARROWmPOINTING BUDd",
  "LEAFeVINE LEAFsSANS-SERIF ARROWqTRIANGLE-HEADED ARROWa TO BARzdWHITE ARROWuYOMBO CLUSTER-INITIAL LETTER LAcRAcSAbH",
  "AzbFINAL CONSONANT SIGN -AcBbDbGbKbLbMbNaGcRbSaHxGEMINATION MARKpHEAD MARK WITH MOON AND SUNa AND FLAMEfTRIPLE FLA",
  "MEztLETTER -AcAbBAbHAdCAbHAdDAbDAbHAdHAcZAdGAbHAdHAcJAbHAdKAbHAcSSAeLAcMAcNAbGAcNAcYAdPAbHAdRAcSAbHAcSAdTAbHAcSAbH",
  "AdTAbHAeVAcYAcZAbHAkMARK DOUBLE SHADlPLUTAfSHADeTSHEGkSIGN ANUSVARAiJIHVAMULIYAlUPADHMANIYAlVISARGAlUBJOINERjTERMI",
  "NAL MARK-1b2pVOWEL LENGTH MARKlSIGN AIbUcEbIbOaEcUaEcVOCALIC LbRzcPaAaCEcGHETTIgRKLEaScING HEARTnEAK-NO-EVIL MONKE",
  "YpERa WITH CANCELLATION STROKEtONE SOUND WAVEoTHREE SOUND WAVESzING HEAD IN SILHOUETTEyECH BALLOONkDBOATgSMILO SIG",
  "NlHERICAL ANGLEa OPENING LEFTeUPyIDERa WEBhRAL CALENDAR PADmNOTE PADiSHELLkLASHING SWEAT SYMBOLuONGEdOL OF THREADl",
  "NcRTS MEDALjUTING WHALEnQUARE A OVER MhARUdMbNPEAePAATOfRUHUAfUcBAARERUfRcEETAeIRUdORUTOfQbUSSYERUiC OVER KGiALbPc",
  "CbDbMa CUBEDfSQUAREDjOaRPORATIONkUPdDAaASUeBbESIdJbLbMa CUBEDfSQUAREDjORUeEEKAAeRA NAME HEISEIgMEIZIfREIWAfSYOUWAg",
  "TAISYOUoGcSUKUUDOhVcFMbOOTcUR CORNERSmGALbNMAdRONeBbHZcIGAcNIIdRUDAAgPAcURAMUaTONiYcHAaITUeEKUTAARUhRUTUfGbIRAGANA",
  " HOKAmONbONbRUePaAcUARADDOgIITOeRANeZcIMAGE OFa OR EQUAL TOiNOT EQUAL TOxNaINGUeTIdUcK OHMeAaIRIdRATTOeORIIgBbCALd",
  "EESUeGbHZcIROaGURAMUgMEETORUhWATTOiKbLbMa CAPITALgUBEDfSQUAREDjOOPOdRUNAfPAcTbUROONEeUZEIROiVbWbYURIIgLEFT OPEN BO",
  "X OPERATORvMbNbOGbZENGEgXcM CUBEDfOHMcVER Sa SQUAREDoSQUAREDiAaHHAdIKUROeRUdNSYONfRUKUfBa SMALLhEETORUfGAaTONgGbHZ",
  "cIKURONfLbRIaBAARUiLbMa CUBEDfSQUAREDjOLcPAcSbU AbFbGbLbMbSbVbWdVa MEGAgWa MEGAhNAaNOdFbMbOTTOeSbVbWcONSUdOMUdRIGI",
  "NAL OFa OR EQUAL TOiNOT EQUAL TOzbVcPAa AMPSfASENTOfTUeCbEEZIdNIHIdSUdSOdFbHbIASUTORUhKObURUfMbOINTOeNDOdSITION IN",
  "DICATORrPMcRbSbVbWcRADa OVER Sa SQUAREDrEMUcNTOGENhIGHT OPEN BOX OPERATORvRAcTTORUgOOTdUPIIdUBURUhSAIKURUfNTIIMUhE",
  "NTIbOeIRINGUgRbVcTARGETfHZcONdUONdV OVER MiWATTOeBbITH BOTTOM HALF BLACKrCONTOURED OUTLINErDIAGONAL CROSSHATCH FIL",
  "LyHORIZONTAL FILLpLEFT HALF BLACKoOWER LEFT DIAGONAL HALF BLACKyRIGHT DIAGONAL HALF BLACKzgORTHOGONAL CROSSHATCH F",
  "ILLzbRIGHT HALF BLACKqTOP HALF BLACKoUPPER LEFT DIAGONAL HALF BLACKtTO LOWER RIGHT FILLyRIGHT DIAGONAL HALF BLACKt",
  "TO LOWER LEFT FILLzfVERTICAL FILLsYAADOcRUeUANfD ASTERISKiCJK UNIFIED IDEOGRAPH-4E00b9c2Dc8CcA4e518Dd21Dc4Dc72d3CC",
  "cF3d408c39d5B6d8F0d91Ac29dB57dDE6dF8Ce624Bc53c95d307c55d599cB0d620d708b9dE80dF14e7121d51Fc33d981dA7AdD42e89E3dCA9d",
  "D70e904Ad14DzLbOOLeDOT OPERATORmEIGHT KhFALLING DIAGONAL SLASHvIVE POINT ONEnOUR DOT PUNCTUATIONpKfREEeHCbDRcI-RES",
  "fVcIDcKATAKANA DEcKOKOeSAkEYdLATIN CAPITAL LETTER AbBbCbDbEbFbGbHbIbJbKbLbMbNbObPbQbRbSbTbUbVbWbXbYbZqSMALL LETTER",
  " DtOGICAL ANDdORiSSLESSiMINUSeVcNEWcGcOKbNE HUNDRED TWENTY PuPLUSdPVdRISING DIAGONAL SLASHvSALTIREgDbECOND SCREENl",
  "VEN POINT ONEoHVcIXTY PgMALL CIRCLElOScQUAREfScTHREE DgIMESeWENTY-TWO POINT TWOsO KfUHDcP WITH EXCLAMATION MARKyVO",
  "DcScWCgT BLACK RIGHTWARDS ARROWzIDeS2b3bAcTaADIUMeFF OF AESCULAPIUSlHERMESmMPED ENVELOPEnNDING PERSONmR AND CRESCE",
  "NTmEQUALSgOF DAVIDhPERATORiWITH LEFT HALF BLACKpRIGHT HALF BLACKwT OF GUARDED AREAmHEADINGhPROTECTED AREAoSELECTED",
  " AREAmTRINGgTEXTkTIONdUE OF LIBERTYpEAM LOCOMOTIVElING BOWLkNOGRAPHIC FULL STOPtTHOSCOPEjICK FIGUREa LEANING LEFTe",
  "RIGHTnWITH ARMS RAISEDlDRESSvOCK CHARTiPWATCHhRAIGHT RULERgNESSiWBERRYhESS OUTLINED WHITE STARxICTLY EQUIVALENT TO",
  "sNG TERMINATORpSbUDIO MICROPHONEoFFED FLATBREADoPAdXcUBaSCRIPT EIGHTeQUALS SIGNlFIVEdOUReLEFT PARENTHESISqMINUSfNI",
  "NEeONEdPLUS SIGNjRIGHT PARENTHESISrSEVENeIXdTHREEeWOdZEROkET ABOVE RIGHTWARDS ARROWqSUBSETePERSEToOFa ABOVE ALMOST",
  " EQUAL TOpEQUALS SIGNlNOT EQUAL TOmTILDE OPERATORuOR EQUAL TOa WITH DOT ABOVEzbWITH NOT EQUAL TOuWITH DOTdMULTIPLI",
  "CATION SIGN BELOWzPLUS SIGN BELOWxTITUTEiCCEEDSa ABOVE ALMOST EQUAL TOpEQUALS SIGNlNOT ALMOST EQUAL TOpEQUAL TOmSI",
  "NGLE-LINE EQUALS SIGNlNOT EQUAL TOzfBUT NOT EQUIVALENT TOvOR EQUAL TOfIVALENT TOqUNDER RELATIONvMMATION BOTTOMgTOP",
  "dWITH INTEGRALvNa BEHIND CLOUDmWITH FACEkDANESE AVAGRAHAiCONSONANT SIGN PAMINGKALhNYAKRAeIKUfSANGAN MAcWAzbDIGIT E",
  "IGHTfFIVEdOUReNINEeONEdSEVENeIXdTHREEeWOdZEROkLETTER AaEcBAbHAdCAcDAcEaUcFAbINAL KbMhGAcHAcIbJAcKAbHAdLAbEUdMAcNAb",
  "GAcYAdObPAcQAcRAbEUdSAbYAdTAcUbVAcWAcXAcYAcZAjPUNCTUATION BINDU BA SATANGAkCAKRAfDA SATANGAkKA SATANGAkLEU SATANGA",
  "lPANGLONGhURNAMAhSURYAxSIGN PAMAAEHfNGLAYARfWISADgYECEKiVIRAMAlVOWEL SIGN PAMEPETfNAELAENGhEULEUNGhGHULUfOLONGfYUK",
  "UzFLOWERgRISEa OVER MOUNTAINStSET OVER BUILDINGStPERHEROeSCRIPT EIGHTeQUALS SIGNlFIVEdOUReLATIN SMALL LETTER IbNtE",
  "FT PARENTHESISqMINUSfNINEeONEdPLUS SIGNjRIGHT PARENTHESISrSEVENeIXdTHREEeWOdZEROkET ABOVE LEFTWARDS ARROWpSUBSETeP",
  "ERSEToBESIDE AND JOINED BY DASH WITH SUBSETzfSUBSETnOFa ABOVE ALMOST EQUAL TOpEQUALS SIGNlNOT EQUAL TOmTILDE OPERA",
  "TORuOR EQUAL TOa WITH DOT ABOVEzbWITH NOT EQUAL TOuPRECEDING SOLIDUSrWITH DOTdMULTIPLICATION SIGN BELOWzPLUS SIGN ",
  "BELOWyVILLAINkRFACE INTEGRALmEReSHIcPENSION RAILWAYrWANbSH AMPERSAND ORNAMENTwIMMERfUNG DASHjYLOTI NAGRI LETTER Ab",
  "BHOcOcCHOcOcDDHOcOcHOcOcEbGHOcOcHOcIbJHOcOcKHOcOcLOcMOcNOcObPHOcOcRObROdSOcTHOcObTHOcOdUiPOETRY MARK-1b2b3b4nSIGN ",
  "ALTERNATE HASANTAqNUSVARAiDVISVARAiHASANTAmVOWEL SIGN AbEbIbOOcUxMBOL FOR ACKNOWLEDGElBACKSPACEiELLeCANCELeRRIAGE ",
  "RETURNpDATA LINK ESCAPEpELETEa FORM TWOnVICE CONTROL FOUReONEdTHREEeWOsEND OF MEDIUMgTEXTdRANSMISSIONa BLOCKxQUIRY",
  "gSCAPEgFILE SEPARATORnORM FEEDjGROUP SEPARATORpHORIZONTAL TABULATIONvLINE FEEDjMARKS CHAPTERnNEGATIVE ACKNOWLEDGEs",
  "WLINEgULLeRECORD SEPARATORqSAMARITAN SOURCEpHIFT INcOUTiPACEeTART OF HEADINGhTEXTmUBSTITUTEa FORM TWOsYNCHRONOUS I",
  "DLEqTYPE A ELECTRONICSsUNIT SEPARATORoVERTICAL TABULATIONzcMETRYgNaAGOGUEgCHRONOUS IDLEoRIAC ABBREVIATION MARKrBAR",
  "REKHhCOLON SKEWED LEFTeRIGHTqNTRACTIONlDOTTED ZLAMA ANGULARhHORIZONTALxEND OF PARAGRAPHpSASA ABOVEfBELOWlFEMININE ",
  "DOTmHARKLEAN ASTERISCUSkMETOBELUSjOBELUSoBASA ABOVEfBELOWg-ESASA DOTTEDrORIZONTAL COLONqLETTER ALAPHfBETHeDALATHfO",
  "TLESS DALATH RISHtEbFINAL SEMKATHnGAMALa GARSHUNIoHEaTHeKAPHeLAMADHgMALAYALAM BHAdJAcLLAbLAeNGAcNAbNAdYAdRAcSSAdTT",
  "AmIMdNUNdPEaRSIAN BHETHfDHALATHhGHAMALoQAPHeREVERSED PEkISHeSADHEeEMKATHgHINdOGDIAN FEcKHAPHfZHAINmUPERSCRIPT ALAP",
  "HrTAWcETHa GARSHUNInWAWdYUDHa HEhZAINlMUSICfOBLIQUE LINE ABOVEfBELOWsPTHAHA ABOVEfBELOWfDOTTEDnQUSHSHAYAjRBASA ABO",
  "VEfBELOWkUKKAKHAhWAHAfSUBLINEAR COLONa SKEWED LEFTeRIGHTsFULL STOPrPRALINEAR COLONa SKEWED LEFTrFULL STOPvTHREE DO",
  "TS ABOVEfBELOWpWO VERTICAL DOTS ABOVEfBELOWxZQAPHA ABOVEfBELOWfDOTTEDqNGEhT-REXdSHIRTgABaLE TENNIS PADDLE AND BALL",
  "zbCOcG AMPERSANDiPOSTROPHEjSTERISKiCIRCUMFLEX ACCENTqOLONdMMAbERCIAL ATnDIGIT EIGHTfFIVEdOUReNINEeONEdSEVENeIXdTHR",
  "EEeWOdZEROjOLLAR SIGNlEQUALS SIGNkXCLAMATION MARKqFULL STOPjGRAVE ACCENTkEATER-THAN SIGNrHYPHEN-MINUSmLATIN CAPITA",
  "L LETTER AbBbCbDbEbFbGbHbIbJbKbLbMbNbObPbQbRbSbTbUbVbWbXbYbZqSMALL LETTER AbBbCbDbEbFbGbHbIbJbKbLbMbNbObPbQbRbSbTb",
  "UbVbWbXbYbZtEFT CURLY BRACKETnPARENTHESISlSQUARE BRACKETrSS-THAN SIGNnOW LINEiNUMBER SIGNlPERCENT SIGNlLUS SIGNjQU",
  "ESTION MARKlOTATION MARKoREVERSE SOLIDUSoIGHT CURLY BRACKETnPARENTHESISlSQUARE BRACKETuSEMICOLONiOLIDUSgPACEfTILDE",
  "fVERTICAL LINEoALOG LETTER AaRCHAIC RAkBAcDAcGAcHAcIbKAcLAcMAcNAbGAdPAcRAcSAcTAcUbWAcYAjSIGN PAMUDPODiVIRAMAlVOWEL",
  " SIGN IbUrBANWA LETTER AbBAcDAcGAcIbKAcLAcMAcNAbGAdPAcSAcTAcUbWAcYAjVOWEL SIGN IbUtI LE LETTER AaIbUEdEaEbHcFAcHAc",
  "IbKAbHAdLAcMAcNAbGAdOaOcPAbHAdQAcSAcTAbHAcONE-2b3b4b5b6fSAbHAeUaEcVAcXAcYAmTHAM COMBINING CRYPTOGRAMMIC DOTzNSONAN",
  "T SIGN BAcFINAL NGAjHIGH RATHA OR LOW PAuLA TANG LAIkOW PAgMAbEDIAL LAcRAjSArHORA DIGIT EIGHTfFIVEdOUReNINEeONEdSE",
  "VENeIXdTHREEeWOdZEROpLETTER AbBAcDAcEEcGREAT SAiHIGH CAbHAdFAcHAcKAbHAcXAdPAbHAdRATHAfSAbHAcSAdTAbHAdYAhIaIcLAaEcL",
  "AcOW CAbHAdFAcHAcKAbHAcXAdPAbHAdRATHAfSAcTAbHAdYAfUEdMAcNAbGAcYAdOOcRAaNAcTAdUEdUaUcWAjSIGN CAANGfDOKMAIgHANGdOYdK",
  "AANaKUUgEOWdHUEN TONE-3b4b5h-LUE KARANpMAI KANGa LAIiSAMdYAMOKjRA HAAMgEVERSED ROTATED RANAvSAKOTdTKAANaKUUiWANfTO",
  "NE-1b2gWIANGaWAAKoTHAM DIGIT EIGHTfFIVEdOUReNINEeONEdSEVENeIXdTHREEeWOdZEROpVOWEL SIGN AaAbEbIcEbIaIcMAI SAThOaA A",
  "BOVEfBELOWhObYcTALL AAgHAM AIhUaEbUaEtVIET LETTER HIGH BOcCHOcOcDOcFOcGOcHOcKHHOcOcOcLOcMOcNGOcObYOdObPHOcOcROcSOc",
  "THOcOcVOcYOhLOW BOcCHOcOcDOcFOcGOcHOcKHHOcOcOcLOcMOcNGOcObYOdObPHOcOcROcSOcTHOcOcVOcYOnMAI KANGdHITiSYMBOL HO HOIg",
  "KOI KOIfNdNUENGfSAMkTONE MAI EKcNUENGfSONGeTHOmVOWEL AAbMbNbUEcYcEbIaAcObUaAbEaAqKEOUT BOXiRI ABBREVIATION SIGNrDI",
  "GIT EIGHTfFIVEdOUReNINEeONEdSEVENeIXdTHREEeWOdZEROkLETTER AaAbIbRCHAIC KHAkUcBAbHAdCAbHAdDAbDAbHAdHAdEbGAbHAdHAcIa",
  "IcJAbHAdKAbHAdLAcMAcNAbGAcNAcYAdObPAbHAdRAbRAdSAbHAdTAbHAcTAbHAeUaUcVAcYAjSIGN ANUSVARAiNUKTAfVIRAMAeSARGAmVOWEL S",
  "IGN AAbIbUcEbIaIcObUaUrLLY MARK FIVEeONEmMALEdIL AND ODD SIGNlS ABOVE SIGNmU LENGTH MARKoCREDIT SIGNkURRENT SIGNmD",
  "AY SIGNhEBIT SIGNjIGIT EIGHTfFIVEdOUReNINEeONEdSEVENeIXdTHREEeWOdZEROjRY CULTIVATION SIGNuFRACTION DOWNSCALING FAC",
  "TOR KIIZHyONE EIGHTHbIETHjFIFTHeORTIETHiHALF-1b2gONE-HUNDRED-AND-SIXTIETHyQUARTERhSIXTEENTH-1b2hY-FOURTHmTENTHeHIR",
  "TY-SECONDlREE-HUNDRED-AND-TWENTIETHzbWENTIETHnTHREE EIGHTIETHSkQUARTERSiSIXTEENTHSgY-FOURTHSnTWENTIETHSzIN POSSESS",
  "ION SIGNsLAND SIGNiETTER AaAbIbUcCAcEaEcHAcIaIcJAcKAcLAbLAbLAeMAcNAbGAcNAbNAdYAdOaOcPAcRAbRAdSAbHAcSAdTAbTAdUaUcVA",
  "cYAjMONTH SIGNkNUMBER ONE HUNDREDhTHOUSANDmSIGNeTENkOMcPUNCTUATION END OF TEXTxRUPEE SIGNkSALT PAN SIGNmIGN AAZHAA",
  "KKUiNUSVARAiCEVITUgKAACUeURUNIeZHIfMUKKURUNIhTHALIYAhUVUZHAKKUlNELdPAARAMeNAMdTHAKKUhONdUZHAKKUhVAKAIYARAAiRAAKANh",
  "ELIdIRAMAeSARGAlPENT SIGNjTARTING FROM SIGNsTOTAL SIGNjRADITIONAL CREDIT SIGNlNUMBER SIGNxVOWEL SIGN AAbIbUcEaEcIa",
  "IcOaOcUaUnWET CULTIVATION SIGNuYEAR SIGNnNABATA TREEkGERINEfSA DIGIT EIGHTfFIVEdOUReNINEeONEdSEVENeIXdTHREEeWOdZER",
  "OkLETTER ACbQbWCbQbXbZcXbZcBAcCAbHAdDAbHAdECbQbXbZcFAbINAL NGiGAbHAdHAbTAbTAeICbQbXbZcKAbHAdLAbONG UEXiMAbCbQbXbZc",
  "NAbGAcHAcYAdOCbQbXbZcPAbHAdRAcSAbHAbORT AWXdUEZjTAbHAcSAdUCbECbQbXbZcICbQbUCbQbXbZcXbZcQbXbZcVCbQbXbZcWAcXAcYAcZAm",
  "UT COMPONENT-001b2b3b4b5b6b7b8b9c10b1b2b3b4b5b6b7b8b9c20b1b2b3b4b5b6b7b8b9c30b1b2b3b4b5b6b7b8b9c40b1b2b3b4b5b6b7b8",
  "b9c50b1b2b3b4b5b6b7b8b9c60b1b2b3b4b5b6b7b8b9c70b1b2b3b4b5b6b7b8b9c80b1b2b3b4b5b6b7b8b9c90b1b2b3b4b5b6b7b8b9d100b1b",
  "2b3b4b5b6b7b8b9c10b1b2b3b4b5b6b7b8b9c20b1b2b3b4b5b6b7b8b9c30b1b2b3b4b5b6b7b8b9c40b1b2b3b4b5b6b7b8b9c50b1b2b3b4b5b6",
  "b7b8b9c60b1b2b3b4b5b6b7b8b9c70b1b2b3b4b5b6b7b8b9c80b1b2b3b4b5b6b7b8b9c90b1b2b3b4b5b6b7b8b9d200b1b2b3b4b5b6b7b8b9c1",
  "0b1b2b3b4b5b6b7b8b9c20b1b2b3b4b5b6b7b8b9c30b1b2b3b4b5b6b7b8b9c40b1b2b3b4b5b6b7b8b9c50b1b2b3b4b5b6b7b8b9c60b1b2b3b4",
  "b5b6b7b8b9c70b1b2b3b4b5b6b7b8b9c80b1b2b3b4b5b6b7b8b9c90b1b2b3b4b5b6b7b8b9d300b1b2b3b4b5b6b7b8b9c10b1b2b3b4b5b6b7b8",
  "b9c20b1b2b3b4b5b6b7b8b9c30b1b2b3b4b5b6b7b8b9c40b1b2b3b4b5b6b7b8b9c50b1b2b3b4b5b6b7b8b9c60b1b2b3b4b5b6b7b8b9c70b1b2",
  "b3b4b5b6b7b8b9c80b1b2b3b4b5b6b7b8b9c90b1b2b3b4b5b6b7b8b9d400b1b2b3b4b5b6b7b8b9c10b1b2b3b4b5b6b7b8b9c20b1b2b3b4b5b6",
  "b7b8b9c30b1b2b3b4b5b6b7b8b9c40b1b2b3b4b5b6b7b8b9c50b1b2b3b4b5b6b7b8b9c60b1b2b3b4b5b6b7b8b9c70b1b2b3b4b5b6b7b8b9c80",
  "b1b2b3b4b5b6b7b8b9c90b1b2b3b4b5b6b7b8b9d500b1b2b3b4b5b6b7b8b9c10b1b2b3b4b5b6b7b8b9c20b1b2b3b4b5b6b7b8b9c30b1b2b3b4",
  "b5b6b7b8b9c40b1b2b3b4b5b6b7b8b9c50b1b2b3b4b5b6b7b8b9c60b1b2b3b4b5b6b7b8b9c70b1b2b3b4b5b6b7b8b9c80b1b2b3b4b5b6b7b8b",
  "9c90b1b2b3b4b5b6b7b8b9d600b1b2b3b4b5b6b7b8b9c10b1b2b3b4b5b6b7b8b9c20b1b2b3b4b5b6b7b8b9c30b1b2b3b4b5b6b7b8b9c40b1b2",
  "b3b4b5b6b7b8b9c50b1b2b3b4b5b6b7b8b9c60b1b2b3b4b5b6b7b8b9c70b1b2b3b4b5b6b7b8b9c80b1b2b3b4b5b6b7b8b9c90b1b2b3b4b5b6b",
  "7b8b9d700b1b2b3b4b5b6b7b8b9c10b1b2b3b4b5b6b7b8b9c20b1b2b3b4b5b6b7b8b9c30b1b2b3b4b5b6b7b8b9c40b1b2b3b4b5b6b7b8b9c50",
  "b1b2b3b4b5b6b7b8b9c60b1b2b3b4b5b6b7b8nITERATION MARKtPE CARTRIDGEjDRIVEiURUSeXIdEACUP WITHOUT HANDLEsPOTdR-OFF CAL",
  "ENDARnDROP-BARBED RIGHTWARDS ARROWxSPOKED ASTERISKwDDY BEARiLEPHONE LOCATION SIGNnON TOP OF MODEMpRECEIVERa WITH P",
  "AGEpORDERiSIGNkSCOPEfVISIONhUGU AI LENGTH MARKoDIGIT EIGHTfFIVEdOUReNINEeONEdSEVENeIXdTHREEeWOdZEROkFRACTION DIGIT",
  " ONE FOR EVEN POWERS OF FOURtODD POWERS OF FOURzbTHREE FOR EVEN POWERS OF FOURtODD POWERS OF FOURzcWO FOR EVEN POW",
  "ERS OF FOURtODD POWERS OF FOURzbZERO FOR ODD POWERS OF FOURzrLENGTH MARKjTTER AaAbIbUcBAbHAdCAbHAdDAbDAbHAdHAcZAdE",
  "aEcGAbHAdHAcIaIcJAbHAdKAbHAdLAbLAbLAeMAcNAaKAARA POLLUmGAcNAcYAdOaOcPAbHAdRAbRAbRAeSAbHAcSAdTAbHAcSAcTAbHAeUaUcVAb",
  "OCALIC LaLcRaRkYAjSIGN ANUSVARAhVAGRAHAiCANDRABINDUkOMBINING ANUSVARA ABOVEoCANDRABINDU ABOVEzcNUKTAfSIDDHAMhTUUMU",
  "fVIRAMAeSARGAmVOWEL SIGN AAbIbUcEaEcIaIcOaOcUaUcVOCALIC LaLcRaRzbNGE SIGNhNIS RACQUET AND BALLuTcST TUBEhTRAGRAM F",
  "OR ACCUMULATIONlDVANCEgGGRAVATIONkSCENTgBARRIERgOLD RESOLUTIONoRANCHING OUTnCENTREfHANGEfLOSED MOUTHhNESSfUREgOMPL",
  "ETIONfIANCEiNSTANCYgTACTdENTIONgRARIETYlDARKENINGiECISIVENESSkFECTIVENESS OR DISTORTIONzPARTUREiIFFICULTIESkMINISH",
  "MENTjMINGfVERGENCEjOUBTeUTIESgEASEdMBELLISHMENTmNCOUNTERSiDEAVOURhLARGEMENTkTERNITYhXHAUSTIONkFAILUREgLIGHTfOLLOWI",
  "NGhSTERINGiULL CIRCLEhNESSiGATHERINGa INlOING TO MEETmREATNESSiUARDEDNESSlHARDNESShOLDING BACKmINCREASEgNERfJOYdKE",
  "EPING SMALLmINSHIPhLABOURINGhW OR MODELlEGIONgMASSINGgEASUREgIREDfON THE VERGElPPOSITIONkPACKINGfTTERNgENETRATIONk",
  "URITYgREACHdLEASEfSIDENCEfSTANCEhPONSEhITUALgSEVERANCEiINKINGgTOPPAGEfVEdRENGTHiUNITYfVASTNESS OR WASTINGtWAITINGf",
  "TCHfYOUTHFULNESSzHAANA AABAAFILIiBAFILIhEBEFILIgEBEEFILIiYBEYFILIjIBIFILIhLETTER AINUdLIFUfBAAdCHAVIYANIjDAADHUeVI",
  "YANIhHAALUgFAAFUfGAAFUeHAINUfNAVIYANIjHAAcHAAeJAVIYANIiKAAFUeHAAeLAAMUeHAVIYANIjMEEMUfNAAcOONUfPAVIYANIiQAAFUfRAAd",
  "SAADHUfEENUeHAVIYANIhEENUgTAVIYANIhHAAaLUfObTAAeVAAVUfWAAVUfYAAdZAAbVIYANIhOjOABOAFILIiBOFILIgOBOOFILIjSUKUNfUBUFI",
  "LIlI CHARACTER ANGKHANKHUkBO BAIMAIjCHO CHANaGdINGdOEiDO CHADAfDEKgFO FAaNeNGMANhHO HIPdNOKHUKjKHO KHAIcONcUATdWAI",
  "fRAKHANGiMUTfO KAIgLAKKHANGYAOkO CHULAfLINGgUcMAI CHATTAWAiEKcHAN-AKATiTHOcRIeTAIKHUgYAMOKhO MAfNGO NGUgIKHAHIThO ",
  "NENcUfO ANGfPAIYANNOIiHINTHUfO PHANcUNGfSAMPHAOkO PLAgRO RUAfUcSARA AaAbEbI MAIMALAIeUANjMcEbIaIcObUaEaEcUgO RUSIe",
  "SALAdObUAgTHANTHAKHATjO NANGMONTHOkPHUTHAOhTHAHANdNcONGdUNGiO PATAKfTAOgWO WAENhYAMAKKANhO YAKcINGqURRENCY SYMBOL ",
  "BAHTuDIGIT EIGHTfFIVEdOUReNINEeONEdSEVENeIXdTHREEeWOdZEROnERE DOES NOT EXISToEXISTShFOREfMODYNAMIChMETERjIN GREEK ",
  "CROSSlSALTIREgPACEgKING FACEkRD PLACE MEDALpONG SANDALjUGHT BALLOONnREE BUTTON MOUSEmCONSECUTIVE EQUALS SIGNSyDIME",
  "NSIONAL ANGLEqOT PUNCTUATIONpLEFTWARDS ARROWSpINES CONVERGING LEFTeRIGHTwNETWORKED COMPUTERStPOINTED BLACK STARsRA",
  "YS ABOVEfBELOWfLEFTeRIGHTjIGHTWARDS ARROWSrSPEECH BUBBLESp-D BOTTOM-LIGHTED RIGHTWARDS ARROWHEADzkLEFT-LIGHTED DOW",
  "NWARDS EQUILATERAL ARROWHEADztRIGHT-LIGHTED UPWARDS EQUILATERAL ARROWHEADzsTOP-LIGHTED LEFTWARDS EQUILATERAL ARROW",
  "HEADzgRIGHTWARDS ARROWHEADjEQUILATERAL ARROWHEADzvEM DASHhPER-EM SPACEqUMBS DOWN SIGNjUP SIGNlNDER CLOUD AND RAINp",
  "STORMlIBETAN ASTROLOGICAL SIGN -KHYUD PAjSDONG TSHUGSlGRA GCAN -CHAR RTAGSzoCANTILLATION SIGN CANG TE-UjHEAVY BEAT",
  "kLIGHT BEATkSBUB -CHALzdDIGIT EIGHTfFIVEdOUReHALF EIGHTfFIVEdOUReNINEeONEdSEVENeIXdTHREEeWOdZEROjNINEeONEdSEVENeIX",
  "dTHREEeWOdZEROkKU RU KHAa BZHI MIG CANwLETTER -AcAbBAbHAdCAbHAdDAbDAbHAdHAcZAbHAeFIXED-FORM RAnGAbHAdHAcJAcKAbHAcK",
  "AcSSAeLAcMAcNAbGAcNAcYAdPAbHAdRAbRAdSAbHAcSAdTAbHAcSAbHAdTAbHAeWAcYAcZAbHAjOGOTYPE SIGN CHAD RTAGSkLHAG RTAGSyMARK",
  " ANG KHANG GYAScONoBKA- SHOG GI MGO RGYANmYIG MGOqSDUS RTAGSjKA- SHOG GI MGO RGYANuUR YIG MGOnCARET -DZUD RTAGS BZ",
  "HI MIG CANmME LONG CANxYIG MGO PHUR SHAD MAzHE MGOgLOSING BRDA RNYING YIG MGO SGAB MAzcYIG MGO SGAB MAxDELIMITER T",
  "SHEG BSTARvGTER TSHEGfYIG MGO -UM GTER TSHEG MAnRNAM BCAD MAqTRUNCATED AxUG RTAGS GYAScONoHALANTAhINITIAL BRDA RNY",
  "ING YIG MGO MDUN MAzcYIG MGO MDUN MAvTERSYLLABIC TSHEGtLEADING MCHAN RTAGStMNYAM YIG GI MGO RGYANwNGAS BZUNG NYI Z",
  "LAhSGOR RTAGSuYIS SHADeTSHEGa SHADpPALUTAgRGYA GRAM SHADnIN CHEN SPUNGS SHADuSBRUL SHADjHADeTRAILING MCHAN RTAGStS",
  "A -PHRUhHEG SHADkYIG MGO TSHEG SHAD MAzbSIGN GRU CAN RGYINGSlMED RGYINGSpINVERTED MCHU CANrLCE TSA CANjI RTAGSjMAR",
  " TSHESiCHU CANiNYI ZLA NAA DAoRDEL DKAR GCIGdNYISeSUMeRDEL NAGnNAG GCIGdNYISeSUMeRDEL DKARrJES SU NGA ROnNAM BCADj",
  "SNA LDANiYANG RTAGSiR TSHESnUBJOINED LETTER -AcAbBAbHAdCAbHAdDAbDAbHAdHAcZAbHAeFIXED-FORM RAcWAcYAnGAbHAdHAcJAcKAb",
  "HAcSSAeLAcMAcNAbGAcNAcYAdPAbHAdRAcSAbHAcSAdTAbHAcSAbHAdTAbHAeWAcYAcZAbHAkSIGN INVERTED MCHU CANrLCE TSA CANlMCHU C",
  "ANwYLLABLE OMjMBOL DRIL BUhNOR BUa BZHI -KHYILlGSUM -KHYILlNYIS -KHYILsPADMA GDANjHUR PAhRDO RJEa RGYA GRAMyVOWEL ",
  "SIGN AAcEaEcIaIcOaOcREVERSED IaIlUaUcVOCALIC LaLcRaRzcCKETeE OVER INFINITYpFINAGH CONSONANT JOINERqLETTER AHAGGAR ",
  "YAZHlYER YAGHjBERBER ACADEMY YAHbJsTAWELLEMET YAZnUAREG YAGHbNcHbKaHcNGcQbZHlYAaAbBaHcCHcDaDaHcHcFbGaHaHdHaHcJbKaH",
  "aHdLbMbNbPbQbRaRcSaHbScTaHbTcVbWbYbZaHbZdEaYcIbObUjMODIFIER LETTER LABIALIZATION MARKzjSEPARATOR MARKvGERa FACEhHT",
  " TRIFOLIATE SNOWFLAKEyLDEa OPERATORa ABOVE LEFTWARDS ARROWpRIGHTWARDS ARROWwWITH DOT ABOVEjRISING DOTSzWITH DOT AB",
  "OVEfBELOWjRING ABOVEtMER CLOCKhS WITH LEFT HALF BLACKpRIGHT HALF BLACKzNYa TWO DOTS OVER ONE DOT PUNCTUATIONzlRED ",
  "FACEhHUTA ABBREVIATION SIGNqNJIeDIGIT EIGHTfFIVEdOUReNINEeONEdSEVENeIXdTHREEeWOdZEROkGVANGfLETTER AaAbIbUcBAbHAdCA",
  "bHAdDAbDAbHAdHAdEbGAbHAdHAcIaIcJAbHAdKAbHAdLAcMAcNAbGAcNAcYAdObPAbHAdRAcSAbHAcSAdTAbHAcTAbHAeUaUcVAbOCALIC LaLcRaR",
  "kYAjOMcSIGN ANUSVARAhVAGRAHAiCANDRABINDUlNUKTAfVIRAMAeSARGAmVOWEL SIGN AAbIbUcEbIaIcObSHORT EbOhUaUcVOCALIC LaLcRa",
  "RzbONIAN SIGN CAPITAL ETkETpOILETeKYO TOWERjMATOeNGUEeOLBOXeTHaBRUSHiP ARC ANTICLOCKWISE ARROWa WITH PLUSzeCLOCKWI",
  "SE ARROW WITH MINUSzfCURLY BRACKETnHALF BLACK CIRCLEmINTEGRALiLEFT PARENTHESISqRIGHT PARENTHESISrSECTION SIGNpTdLE",
  "FT CORNERfROPeHALF BRACKETrPARENTHESISlRIGHT CORNERfROPeHALF BRACKETsSQUARE BRACKEToTORTOISE SHELL BRACKETwWITH UP",
  "WARDS ARROW ABOVEzbRTOISE SHELL BRACKETED CJK UNIFIED IDEOGRAPH-4E09c8Ce52DDdB89e6253d557d72Ce70B9d6D7zbLATIN CAPI",
  "TAL LETTER SzuTAL RUNOUTjO LETTER AaEcBAbREATHY AEcEaOcIaUkCHAdDAcEaOcGAcHAcIaUcJAcKAcLAcMAcNAbGAdObPAcRAcSAcTAcUb",
  "WAcYAjSIGN RISING TONEuRACKBALLfTOReDE MARK SIGNmINcMa CARfNSPLUTOfVERSAL INTERSECTIONwIANGLE WITH DOT ABOVEjROUND",
  "ED CORNERSpSERIFS AT BOTTOMqUNDERBARo-HEADED RIGHTWARDS ARROWzbULAR BULLETgFLAG ON POSTmRULERnCOLONfDENT EMBLEMlGR",
  "AM FOR EARTHfFIREeHEAVENgLAKEeMOUNTAINiTHUNDERhWATEReINDnPLE COLON OPERATORoDAGGERgHORIZONTAL BAR WITH DOUBLE VERT",
  "ICAL STROKEwTRIPLE VERTICAL STROKEzrINTEGRALiNESTED GREATER-THANmLESS-THANqPLUSdRIMEfSOLIDUS BINARY RELATIONxTILDE",
  "fVERTICAL BAR BINARY RELATIONpDELIMITERjRIGHT TURNSTILEpWITH HORIZONTAL STROKEzpOLLaEYBUShPHYcICAL DRINKfFISHlUEa ",
  "LIGHT MOON ARTArMPETgUGRIK SIGNjLIPdMBLER GLASSlRKEYcISH LIRA SIGNoNED AMPERSANDiNGLEfBLACK PENTAGONiSHOGI PIECErC",
  "APITAL FiOMMAfDAGGERfIGIT THREEeWOjGREEK SMALL LETTER IOTAxNORTH EAST POINTING LEAFsWEST POINTING LEAFwT SIGNiOK H",
  "AND SIGNmSANS-SERIF CAPITAL GbLbYtEMICOLONiMALL FgOUTH EAST POINTING LEAFsWEST POINTING LEAFyWHITE SHOGI PIECEvTLE",
  "fWELVE POINTED BLACK STARxISTED RIGHTWARDS ARROWSxO ASTERISKS ALIGNED VERTICALLYzdBUTTON MOUSEmCONSECUTIVE EQUALS ",
  "SIGNSyDOT LEADERgPUNCTUATIONmS OVER ONE DOT PUNCTUATIONzeHEARTSgINTERSECTING LOGICAL ANDdORxJOINED SQUARESoLOGICAL",
  " AND OPERATORmOR OPERATORtMEN HOLDING HANDSrSPEECH BUBBLESoWOMEN HOLDING HANDSu-EM DASHlUGARITIC LETTER AINcLPAeBE",
  "TAeDELTAeHALeGAMLAeHAINfHOaTAeIbKAFcHAdLAMDAfMEMdNUNdPUcQOPAeRASHAfSADEcMKAeHINdSUdTETcHANNAfOcUbWOcYODdZETAdUjWOR",
  "D DIVIDERuMBRELLAa ON GROUNDjWITH RAIN DROPSxNAMUSED FACElCERTAINTY SIGNoDERTIEfO SYMBOLjICORN FACEjONa ABOVE BAR ",
  "ABOVE INTERSECTIONwINTERSECTIONsBESIDE AND JOINED WITH UNIONzdWITH LOGICAL ORkMINUS SIGNkOVERBARpT SEPARATORkED SY",
  "MBOLkVERSAL RECYCLING SYMBOLyMARRIED PARTNERSHIP SYMBOLzcP ARROW THROUGH CIRCLEpHEADa BETWEEN TWO HORIZONTAL BARSz",
  "cIN A RECTANGLE BOXzdBARB LEFT DOWN BARB LEFT HARPOONmRIGHT HARPOONzdRIGHT DOWN BARB LEFT HARPOONmRIGHT HARPOONzjD",
  "OWN ARROWa WITH BASEpBLACK ARROWlDOUBLE ARROWmSANS-SERIF ARROWqTRIANGLE-HEADED ARROWvWHITE ARROWqFISH TAILjRIGHT D",
  "IAGONAL ELLIPSISxTACKa WITH CIRCLE ABOVEx-POINTING AIRPLANEiMILITARY AIRPLANErRED TRIANGLEmSMALL AIRPLANEiRED TRIA",
  "NGLEsTRIANGLE WITH LEFT HALF BLACKpRIGHT HALF BLACKzpPER AND LEFT AND LOWER TRIANGULAR THREE QUARTERS BLOCKzuOWER ",
  "ONE EIGHTH BLOCKqTRIANGULAR HALF BLOCKzcRIGHT AND LOWER TRIANGULAR THREE QUARTERS BLOCKzzbBLADE SCISSORSoFIVE EIGH",
  "THS BLOCKsHALF BLOCKa AND LOWER HALF INVERSE MEDIUM SHADEzqCIRCLEgINVERSE MEDIUM SHADE AND LOWER HALF BLOCKziWHITE",
  " CIRCLEuMEDIUM SHADErLEFT BLOCK DIAGONAL LOWER CENTRE TO LOWER MIDDLE RIGHTsUPPER MIDDLE RIGHTmRIGHTvLEFT TO LOWER",
  " MIDDLE RIGHTsUPPER CENTREgMIDDLE RIGHTzbMIDDLE LEFT TO UPPER CENTREgMIDDLE RIGHTmRIGHTzhUPPER MIDDLE LEFT TO UPPE",
  "R CENTREgRIGHTzwCORNER WITH DOTpOR LOWER RIGHT CURLY BRACKET SECTIONzlQUADRANT CIRCULAR ARCvTO LOWER RIGHT FILLsRI",
  "ANGLEcULAR MEDIUM SHADEzdONE EIGHTH BLOCKmQUARTER BLOCKrRIGHT BLOCK DIAGONAL LOWER MIDDLE LEFT TO LOWER CENTREgRIG",
  "HTzhUPPER CENTRE TO LOWER MIDDLE RIGHTmRIGHTlUPPER MIDDLE RIGHTzdLEFT TO LOWER CENTREgMIDDLE RIGHTsUPPER MIDDLE RI",
  "GHTzbMIDDLE LEFT TO LOWER CENTREgMIDDLE RIGHTmRIGHTzwDROP-SHADOWED WHITE SQUAREzbOR LOWER LEFT CURLY BRACKET SECTI",
  "ONzkPENCILgQUADRANT CIRCULAR ARCvSHADOWED WHITE CIRCLEgSQUAREvTO LOWER LEFT FILLrRIANGLEcULAR MEDIUM SHADEzeSEVEN ",
  "EIGHTHS BLOCKtTHREE EIGHTHS BLOCKnQUARTERS BLOCKtRIANGULAR ONE QUARTER BLOCKzhSIDE-DOWN FACEoWARDS ANCORAfRROWa AN",
  "D RIGHT ONE EIGHTH BLOCKzbFROM BARiLEFTWARDS OF DOWNWARDS ARROWzdTO BARgWITH DOUBLE STROKEnEQUILATERAL ARROWHEADvH",
  "ORIZONTAL STROKErLARGE TRIANGLE ARROWHEADyMEDIUM TRIANGLE ARROWHEADzNOTCHED TAILmSMALL EQUILATERAL ARROWHEADvTRIAN",
  "GLE ARROWHEADyTIP LEFTWARDSjRIGHTWARDSzBLACK ARROWfCIRCLED WHITE ARROWzCOMPRESSED ARROWqDASHED ARROWlOUBLE ARROWmF",
  "INGER-POST ARROWrHARPOON WITH BARB LEFT BESIDE DOWNWARDS HARPOON WITH BARB RIGHTziUPWARDS HARPOON WITH BARB RIGHTz",
  "nFROM BARiTO BARhWARDSjRIGHT FROM BARiTO BARhWARDSzcEAVY ARROWfCOMPRESSED ARROWwPAIRED ARROWSnQUADRUPLE ARROWpROCK",
  "ETgSANS-SERIF ARROWpQUARED ARROWnTRIANGLE ARROWHEADk-HEADED ARROWa LEFTWARDS OF DOWNWARDS TRIANGLE-HEADED ARROWztT",
  "O BARgWITH BOLD SHAFTkDOUBLE HORIZONTAL STROKEyHEAVY SHAFTlLONG TIP LEFTWARDSjRIGHTWARDStMEDIUM SHAFTmNARROW SHAFT",
  "mVERY HEAVY SHAFTzcDASHED ARROWmPAIRED ARROWSzbPLE ARROWlWO HEADED ARROWn-HEADED ARROW FROM SMALL CIRCLErWITH TRIA",
  "NGLE ARROWHEADSzqWHITE ARROWa FROM BARa WITH HORIZONTAL BARzdON PEDESTALa WITH HORIZONTAL BARoVERTICAL BARzeWITHIN",
  " TRIANGLE ARROWHEADzgDOUBLE ARROWa ON PEDESTALzmRANUSfScVAI COMMAfDIGIT EIGHTfFIVEdOUReNINEeONEdSEVENeIXdTHREEeWOd",
  "ZEROkFULL STOPjQUESTION MARKnSYLLABLE AaNcBAbEaEcHAbEaEcIbOaOcUcIbOaOcUcCAbEaEcIbOaOcUcDAbEaEcHAbEaEcHAbEaEcIbOaOc",
  "UcIbOaOcUcIbOaOcUcEaEaNcNcFAbEaEcIbOaOcUcGAbBAbEaEbNcIbOaNbOcUcEaEbNcIbOaOcUcHAaNcEaEbNcIaNcOaNbOcUaNdIaNcJAbEaEcI",
  "bOaOcUcKAaNcEaEcIbOaOcPAaNcEaEbNcIbOaOcUcUcLAbEaEbNGTHENERjIbOaOcUcMAbBAbEaEcIbOaOcUcEaEcGBAbEaEcIbOaOcUdIbOaOcUcN",
  "AbDAbEaEcIbOaLE DOcFAcKAcMAcSOOgOcUcEaEcGaANcENcGAbEaEbNcIbOaOcUcONdIbJAbEaEcIbOaOcUcOaOcUbYAbEaEcIbOaOcUdOaNbOaNd",
  "PAbEaEcIbOaOcUcRAbEaEcIbOaOcUcSAbEaEcHAbEaEcIbOaOcUcIbOaOcUcTAbEaEcHAbEaEcIbOaOcUcIbOaOcUcUaNcVAbEaEcIbOaOcUcWAaNc",
  "EaEaNcNcIaNcOaNbOaNdUaNdYAbEaEcIbOaOcUcZAbEaEcHAbEaEcIbOaOcUcIbOaOcUjMBOL BANGeDANGdO-OcONGfFAAcEENGfJONGeKEENGeUN",
  "GeNIIdTAAcINGdONGnMPIREfRIATION SELECTOR-1a0a0b1b2b3b4b5b6b7b8b9c1a0b1b2b3b4b5b6b7b8b9c2a0b1b2b3b4b5b6b7b8b9c3a0b1",
  "b2b3b4b5b6b7b8b9c4a0b1b2b3b4b5b6b7b8b9c5a0b1b2b3b4b5b6b7b8b9c6a0b1b2b3b4b5b6b7b8b9c7a0b1b2b3b4b5b6b7b8b9c8a0b1b2b3",
  "b4b5b6b7b8b9c9a0b1b2b3b4b5b6b7b8b9d2a0a0b1b2b3b4b5b6b7b8b9c1a0b1b2b3b4b5b6b7b8b9c2a0b1b2b3b4b5b6b7b8b9c3a0b1b2b3b4",
  "b5b6b7b8b9c4a0b1b2b3b4b5b6b7b8b9c5a0b1b2b3b4b5b6c6b7b8b9c3a0b1b2b3b4b5b6b7b8b9c4a0b1b2b3b4b5b6b7b8b9c5a0b1b2b3b4b5",
  "b6b7b8b9c6a0b1b2b3b4b5b6b7b8b9c7a0b1b2b3b4b5b6b7b8b9c8a0b1b2b3b4b5b6b7b8b9c9a0b1b2b3b4b5b6b7b8b9uECTOR OR CROSS PR",
  "ODUCTvDIC SIGN ANUSVARA ANTARGOMUKHAmBAHIRGOMUKHAmUBHAYATO MUKHAoVAMAGOMUKHAa WITH TAILzeRDHAVISARGAlTIKRAMAiDOUBL",
  "E ANUSVARA ANTARGOMUKHAzdHEXIFORM LONG ANUSVARAwJIHVAMULIYAlLONG ANUSVARAnNIHSHVASAjREVERSED VISARGA ANUDATTAiUDAT",
  "TAwOTATED ARDHAVISARGAtTHANG LONG ANUSVARAuTIRYAKgUPADHMANIYAlVISARGA ANUDATTAa WITH TAILsSVARITAhUDATTAa WITH TAI",
  "LyYAJURVEDIC MIDLINE SVARITAzgTONE ATHARVAVEDIC INDEPENDENT SVARITAzhCANDRA ABOVEfBELOWmDOT BELOWhUBLE RING ABOVEk",
  "SVARITAoKARSHANAgTHAKA ANUDATTAqPRENKHAhRIGVEDIC KASHMIRI INDEPENDENT SVARITAzkNG ABOVEkSHARAfTHREE DOTS BELOWpRIP",
  "LE SVARITAnWO DOTS BELOWoYAJURVEDIC AGGRAVATED INDEPENDENT SVARITAzfINDEPENDENT SVARITAtKATHAKA INDEPENDENT SVARIT",
  "Aa SCHROEDERzzhRSICLEfTICAL BAR BESIDE RIGHT TRIANGLEvDOUBLE LEFT TURNSTILEvTRIPLE RIGHT TURNSTILEwWITH HORIZONTAL",
  " STROKEzbELLIPSISiFOUR DOTSjIDEOGRAPHIC ITERATION MARKzbKANA REPEAT MARKa LOWER HALFkUPPER HALFpWITH VOICED SOUND ",
  "MARKa UPPER HALFzuLINEa EXTENSIONjWITH CIRCLE ABOVEfBELOWmMIDDLE DOTuMALE WITH STROKE SIGNvONE EIGHTH BLOCK-2b3b4b",
  "5b6b7sSIX DOTSiTAB KEYeULATIONa SETnILDEeRAFFIC LIGHTnZIGZAG LINErY BOLD GREEK CROSSqHEAVY EIGHT POINTED BLACK STA",
  "RsSPOKED ASTERISKvFIVE SPOKED ASTERISKuGREEK CROSSlREVERSE SOLIDUSpSALTIREgIX SPOKED ASTERISKsOLIDUShWHITE CIRCLEg",
  "SQUAREsMUCH GREATER-THANmLESS-THANrSTAeIBRATION MODEmCTORY HANDkDEO CAMERAgGAMEfCASSETTElETNAMESE ALTERNATE READIN",
  "G MARK CAcNHAYzkWDATA SQUAREnOLINeRGOdTHKUQI CAPITAL LETTER AbBBEcEcCEbHEdDEbHEdEaIcFEcGAcHAbHAdIaJEdJEcKAcLAbLAdM",
  "EcNEbJEdObPEcQAcREcSEbHEdTEbHEdUbVEcXEcYbZErSMALL LETTER AbBBEcEcCEbHEdDEbHEdEaIcFEcGAcHAbHAdIaJEdJEcKAcLAbLAdMEcN",
  "EbJEdObPEcQAcREcSEbHEdTEbHEdUbVEcXEcYbZExOIDED GREEK CROSSqLCANOeLEYBALLhUME INTEGRALoS1a0a0b1b2b3b4b5b6b7b8b9c1a0",
  "b1b2b3b4b5b6b7b8b9c2a0b1b2b3b4b5b6b7b8b9c3a0b1b2b3b4b5b6b7b8b9c4a0b1b2b3b4b5b6b7b8b9c5a0b1b2b3b4b5b6b7b8b9c6a0b1b2",
  "b3b4b5b6b7b8b9c7a0b1b2b3b4b5b6b7b8b9c8a0b1b2b3b4b5b6b7b8b9c9a0b1b2b3b4b5b6b7b8b9d2a0a0b1b2b3b4b5b6b7b8b9c1a0b1b2b3",
  "b4b5b6b7b8b9c2a0b1b2b3b4b5b6b7b8b9c3a0b1b2b3b4b5b6b7b8b9c4a0b1b2b3b4b5b6b7b8b9c5a0b1b2b3b4b5b6c6b7b8b9c3a0b1b2b3b4",
  "b5b6b7b8b9c4a0b1b2b3b4b5b6b7b8b9c5a0b1b2b3b4b5b6b7b8b9c6a0b1b2b3b4b5b6b7b8b9c7a0b1b2b3b4b5b6b7b8b9c8a0b1b2b3b4b5b6",
  "b7b8b9c9a0b1b2b3b4b5b6b7b8b9dTaScULCANUSfGAR FRACTION FIVE EIGHTHShSIXTHSkOUR FIFTHSlONE EIGHTHgFIFTHfHALFeNINTHfQ",
  "UARTERhSEVENTHgIXTHfTENTHeHIRDjSEVEN EIGHTHSnTHREE EIGHTHShFIFTHSgQUARTERSnWO FIFTHSgTHIRDSkZERO THIRDSzcWAFFLEeNC",
  "HO DIGIT EIGHTfFIVEdOUReNINEeONEdSEVENeIXdTHREEeWOdZEROkLETTER AaAaNaGdNGcUcBAcCAcDAcEaNcFAcGAcHAcIaNGdJAcKAbHAdLA",
  "bLHAeMAcNAbGAcYAdOaNaGdPAbHAdRAcSAbHAdTAbHAcRAcSAdUaENdVAcWAcYAbIHdZAjNGUN SIGNjTONE KOIaNIfTUPaNIoING CRESCENT MO",
  "ON SYMBOLuGIBBOUS MOON SYMBOLyRANG CITI CAPITAL LETTER AaMbNGcTcBUcDAcEaNNbYdGAcHARcIYOdOLOcRReIIcKOcNGAAdUNGeOaDD",
  "dPUcSIIcSUUeTTEdUCbUcVIYOeWIcYAbObUaJsDIGIT EIGHTfFIVEdOUReNINEeONEdSEVENeIXdTHREEeWOdZEROkNUMBER EIGHTYgFIFTYeORT",
  "YfNINETYgSEVENTYgIXTYfTENcHIRTYfWENTYnOMcSMALL LETTER AaMbNGcTcBUcDAcEaNNbYdGAcHARcIYOdOLOcRReIIcKOcNGAAdUNGeOaDDd",
  "PUcSIIcSUUeTTEdUCbUcVIYOeWIcYAbObUaJzNING SIGNkSTEBASKETjTCHcER BUFFALOhCLOSETgPOLOeWAVEfMELONiVE ARROW POINTING D",
  "IRECTLY LEFTeRIGHTzeDASHgING BLACK FLAGkHAND SIGNjWHITE FLAGoY DASHeLINEdOW LINEiOVERLINElXING CRESCENT MOON SYMBO",
  "LuGIBBOUS MOON SYMBOLzEARY CAT FACEiFACEiDDINGeGE-TAILED RIGHTWARDS ARROWzcIERSTRASS ELLIPTIC FUNCTIONzbGHT LIFTER",
  "lST SYRIAC CROSSqHALEdEELa OF DHARMAkCHAIR SYMBOLpITE ARROW SHAFT WIDTH ONEdTWO THIRDSzdBULLETgCHESS BISHOPa ROTAT",
  "ED NINETY DEGREESoTWO HUNDRED SEVENTY DEGREESzrEQUIHOPPERa ROTATED NINETY DEGREESziKINGa ROTATED NINETY DEGREESoTW",
  "O HUNDRED SEVENTY DEGREESzoNIGHTa ROTATED FORTY-FIVE DEGREESsNINETY DEGREESoONE HUNDRED THIRTY-FIVE DEGREESzgTHREE",
  " HUNDRED FIFTEEN DEGREESzdWO HUNDRED SEVENTY DEGREESpTWENTY-FIVE DEGREESzp-BISHOPgQUEENfROOKlPAWNa ROTATED NINETY ",
  "DEGREESoTWO HUNDRED SEVENTY DEGREESzpQUEENa ROTATED NINETY DEGREESoTWO HUNDRED SEVENTY DEGREESzqROOKa ROTATED NINE",
  "TY DEGREESoTWO HUNDRED SEVENTY DEGREESzpTURNED BISHOPgKINGdNIGHTgPAWNeQUEENfROOKqIRCLEa CONTAINING BLACK SMALL CIR",
  "CLEzeWITH DOT RIGHThWN ARROWkLOWER LEFT QUADRANTnRIGHT QUADRANTuTWO DOTSiUPPER LEFT QUADRANTnRIGHT QUADRANTzgLUB S",
  "UITiONCAVE-SIDED DIAMONDa WITH LEFTWARDS TICKoRIGHTWARDS TICKzrDIAMONDa CONTAINING BLACK MEDIUM DIAMONDoSMALL DIAM",
  "ONDnVERY SMALL DIAMONDzkIN SQUAREjSUITeWITH CENTRED DOTxOWN POINTING BACKHAND INDEXoINDEXfLEFT HAND INDEXz-POINTIN",
  "G SMALL TRIANGLEoTRIANGLEvRAUGHTS KINGeMANmEXCLAMATION MARK ORNAMENTzFLAGa WITH HORIZONTAL MIDDLE BLACK STRIPEznOR",
  "ETTEfWERfOUR POINTED CUSPeSTARqROWNING FACEnHARD SHELL FLOPPY DISKvEARTa SUIThVY CHECK MARKkSALTIRE WITH ROUNDED C",
  "ORNERSzhXAGONgORIZONTAL ELLIPSEqURGLASSjLARGE SQUAREkTIN CROSSkEFT LANE MERGEkPOINTING BACKHAND INDEXoINDEXp-POINT",
  "ING POINTERhSMALL TRIANGLEoTRIANGLEvOZENGE CONTAINING BLACK SMALL LOZENGEznMEDIUM DIAMONDhLOZENGEhSMALL SQUARElQUA",
  "REfTARkOON SELENAlNIBdPARALLELOGRAMmENNANTeTAGONiQUESTION MARK ORNAMENTwRECTANGLEiIGHT POINTING BACKHAND INDEXoIND",
  "EXp-POINTING PENTAGONhOINTERhSMALL TRIANGLEoTRIANGLExSCISSORShESAME DOTjHOGI PIECEkMALL LOZENGEhSQUAREfTARiILING F",
  "ACElPADE SUITjQUAREa BUTTONgCONTAINING BLACK MEDIUM SQUAREnSMALL SQUAREmVERY SMALL SQUAREzjWITH CENTRE VERTICAL LI",
  "NEuLEFTWARDS TICKnOWER LEFT QUADRANTnRIGHT QUADRANTuRIGHTWARDS TICKoOUNDED CORNERSpUPPER LEFT QUADRANTnRIGHT QUADR",
  "ANTuVERTICAL BISECTING LINEzjTARdUNa BEHIND CLOUDa WITH RAINwWITH RAYSeSMALL CLOUDuTELEPHONEiOUCHTONE TELEPHONEsRA",
  "PEZIUMhIANGLE CONTAINING SMALL WHITE TRIANGLEzoWO-WAY LEFT WAY TRAFFICyUP POINTING BACKHAND INDEXoINDEXp-POINTING ",
  "CHEVRONhSMALL TRIANGLEoTRIANGLEa WITH DOTzeVERTICAL BARdELLIPSEhRECTANGLEpY SMALL SQUAREs-FEATHERED RIGHTWARDS ARR",
  "OWzgIDE-HEADED DOWNWARDS BARB ARROWkHEAVY BARB ARROWqLIGHT BARB ARROWqMEDIUM BARB ARROWrVERY HEAVY BARB ARROWzgLEF",
  "TWARDS BARB ARROWkHEAVY BARB ARROWqLIGHT BARB ARROWqMEDIUM BARB ARROWrVERY HEAVY BARB ARROWzgNORTH EAST BARB ARROW",
  "kHEAVY BARB ARROWqLIGHT BARB ARROWqMEDIUM BARB ARROWrVERY HEAVY BARB ARROWzbWEST BARB ARROWkHEAVY BARB ARROWqLIGHT",
  " BARB ARROWqMEDIUM BARB ARROWrVERY HEAVY BARB ARROWzhRIGHTWARDS BARB ARROWkHEAVY BARB ARROWqLIGHT BARB ARROWqMEDIU",
  "M BARB ARROWrVERY HEAVY BARB ARROWzhSOUTH EAST BARB ARROWkHEAVY BARB ARROWqLIGHT BARB ARROWqMEDIUM BARB ARROWrVERY",
  " HEAVY BARB ARROWzbWEST BARB ARROWkHEAVY BARB ARROWqLIGHT BARB ARROWqMEDIUM BARB ARROWrVERY HEAVY BARB ARROWzhUPWA",
  "RDS BARB ARROWkHEAVY BARB ARROWqLIGHT BARB ARROWqMEDIUM BARB ARROWrVERY HEAVY BARB ARROWzoGGLY VERTICAL LINEsLTED ",
  "FLOWERlND BLOWING FACEmCHIMEgOWdE GLASShKING FACEkRED KEYBOARDnJbOLF FACEhMANa WITH BUNNY EARSqS BOOTSfCLOTHEShHAT",
  "dSANDALkENS SYMBOLlN SIGNgODcRD JOINERgSEPARATOR MIDDLE DOTwLD MAPgMbRIED FACElRAPPED PRESENTnEATH PRODUCTlNCHdSTL",
  "ERShITING HANDmX IN A RECTANGLE BOXt-RAYeIANGQI BLACK CANNONfHARIOThELEPHANTiGENERALhHORSEfMANDARINiSOLDIERnRED CA",
  "NNONfHARIOThELEPHANTiGENERALhHORSEfMANDARINiSOLDIERsORdYAWNING FACElELLOW HEARTkN SIGNgZIDI COMBINING HAMZA MARKkM",
  "ADDA MARKuHYPHENATION MARKqLETTER BEcCHHIMdIMdIMdDADbLdELIFdTbWbYNdFAcGAFdHAYcHAdJAcKAFcHAFeLAMa WITH DOT ABOVEsMI",
  "MdNUNdOWcPEbHEdQAFdRAbHAdSADcEbHINdINdTAbHEdUMcVAa ALTERNATE FORMrWAWdXAbHEYNfYOTa WITH CIRCUMFLEX ABOVEzZAaLcEpI ",
  "RADICAL BBUTdURdCHEcIPcUOPdYaPbTdDDURdUcGAbEPcGOPcUOdOTdHMOcXITcOPcUOeJJIEcUTcYcOcKEbITdLIaEcYRdMIbOPdNBIEdYIPcOPd",
  "ZUPeOPcPUTcYTdQOTdSHATcOPcURcYcSIdTATcUcVEPcURdWOcYITcOcZAbOTcUPbRcZIETnSYLLABLE AaPbTbXcBAaPbTbXcBAaPbTbXcEaPbXcI",
  "aEaPbTbXcPbTbXcOaPbTbXcUaOaPbXcPbRaXcTbXcYaPbTbXdEaPbXcIaEaPbTbXcPbTbXcOaPbTbXcUaOaPbXcPbRaXcTbXcYaPbRaXcTbXdCAaPb",
  "TbXcEaPbXcHAaPbTbXcEaPbTbXcOaPbTbXcUaOaPbTbXcPbRaXcXcYaPbRaXcTbXdIaEaPbTbXcPbTbXcOaPbTbXcUaOaPbXcPbRaXcTbXcYaPbRaX",
  "cTbXdDAaPbTbXcDAaPbTbXcEaPbXcIaEaPbXcPbTbXcOaPbTbXcUaOaPbXcPbRaXcTbXdEaPbXcIaEaPbXcPbTbXcOaPbTbXcUaOaXcPbRaXcTbXdE",
  "aXcFAaPbTbXcIaPbTbXcOaPbXcUaPbRaXcTbXcYaPbTbXdGAaPbTbXcEaPbTbXcGAaPbTbXcEaPbTbXcIaEaPbXcTbXcOaPbTbXcUaOaPbTbXcPbRa",
  "XcTbXdIaEaPbTbXcPbTbXcOaPbTbXcUaOaPbTbXcPbRaXcTbXdHAaPbTbXcEaPbXcIEaXcTcLAaPbTbXcEaPbXcIaEaPbXcPbTbXcOaPbXcUaOaPbX",
  "cPbRaXcTbXcYaPbRaXcTbXdMAaPbTbXcIaEaPbXcPbTbXcOaPbTbXcUaOaPbXcPbRaXcTbXcYaPbRaXcXdNAaPbTbXcEaPbXcIaEaPbTbXcPbTbXcO",
  "PbTbXcUOaXcTdOaPbTbXcUOaPbTbXdXAaPbTbXcEaPbXcIaEaPbTbXcPbTbXcOaPbTbXcUOaPbTbXfIaEaPbTbXcPbTaERATION MARKnXcJIaEaPb",
  "TbXcPbTbXcJIaEaPbTbXcPbTbXcOaPbTbXcUaOaPbXcPbRaXcTbXcYaPbTbXdOaPbTbXcUaOaPbTbXcPbRaXcTbXcYaPbRaXcTbXdKAaPbTbXcEaPb",
  "TbXcIaEaPbXcPbTbXcOaPbTbXcUaOaPbXcPbRaXcTbXdLAaPbTbXcEaPbXcIaEaPbTbXcPbTbXcOaPbTbXcUaOaPbTbXcPbRaXcTbXcYaPbRaXcTbX",
  "dMAaPbTbXcEaXcGAaPbTbXcEaPbXcIEaXdOaPbTbXcUaOaPbXcPbRaXcTbXdIaEaPbXcPbTbXcOaPbTbXcUaOaPbTbXcPbRaXcTbXcYaPbTbXdNAaP",
  "bXcBAaPbTbXcIaEaPbXcPbTbXcOaPbTbXcUaPbRaXcTbXcYaPbRaXcTbXdDAaPbTbXcEaPbXcIaEaXcPbTbXcOaPbTbXcUaPbRaXcTbXdEaPbXcGAa",
  "PbTbXcEaPbXcIEaPbXdOaPbTbXcUOaTbXeIaEaPbXcPbTbXcJIaEaPbTbXcPbTbXcOaPbTbXcUaOaXcPbRaXcXcYaPbRaXcTbXdOaPbTbXcRAaPbTb",
  "XcEaPbTbXcOaPbXcUaPbRaXcTbXcYaPbRaXcTbXdUaOaPbXcPbRaXcTbXcYIaEaPbTbXcPbTbXcOaPbTbXcUaOaPbXcPbTbXdZAaPbTbXcEaXcIaEa",
  "PbXcPbTbXcOPbXcUaOaXcPbRaXcXcYaPbRaXcTbXeOaPbTbXcPAaPbTbXcIaEaPbXcPbTbXcOaPbTbXcUaOaPbXcPbRaXcTbXcYaPbRaXcTbXdQIaE",
  "aPbTbXcPbTbXcOaPbTbXcUaOaPbTbXcPbRaXcTbXcYaPbRaXcTbXdRAaPbTbXcEaPbXcOaPbTbXcRAaXcEaPbTbXcOaPbTbXcUaOaXcPbRaXcTbXcY",
  "aPbRaXcTbXdUaOaPbXcPbRaXcTbXcYaPbRaXcTbXdSAaPbTbXcEaPbXcHAaPbTbXcEaPbTbXcOaPbTbXcUaOaPbXcPbRaXcTbXcYaPbRaXcTbXdIaE",
  "aPbXcPbTbXcOaPbTbXcSAaPbTbXcEaPbXcIaEaPbXcPbTbXcOaPbTbXcUaPbTbXcYaPbRaXcTbXdUaOaPbXcPbRaXcTbXcYaPbRaXcTbXdTAaPbTbX",
  "cEaPbXcIaEaPbXcPbTbXcOaPbTbXcUaOaPbTbXcPbRaXcTbXdUOaPbXdVAaPbTbXcEPbXcIaEaPbTbXcPbTbXcOaPbTbXcUaPbRaXcTbXcYaPbRaXc",
  "TbXdWAaPbTbXcEaPbXcOaPbXcUaOaPbXeXIaEaPbTbXcPbTbXcOaPbTbXcUOaXdYaPbRaXcTbXdYIaEaPbTbXcPbTbXcOaPbTbXcUaOaPbTbXcPbRa",
  "XcTbXcYaPbRaXcTbXdZAaPbTbXcEaPbXcHAaPbTbXcEaPbTbXcOaPbTbXcUaOaPbXcPbRaXcTbXcYaPbRaXcTbXdIaEaPbXcPbTbXcOaPbTbXcUaOa",
  "PbXcPbRaXcTbXcYaPbRaXcTbXcZAaPbTbXcEaPbXcIaEaPbTbXcPbTbXcOaPbXcUaPbRaXcXcYaPbRaXcTbXoN YANGhO-YOfZ NOTATION BAG ME",
  "MBERSHIPoDOMAIN ANTIRESTRICTIONwLEFT BINDING BRACKETpIMAGE BRACKETsRANGE ANTIRESTRICTIONuELATIONAL COMPOSITIONvIGH",
  "T BINDING BRACKETpIMAGE BRACKETtSCHEMA COMPOSITIONlPIPINGfROJECTIONqPOTeTYPE COLONuANABAZAR SQUARE CLOSING DOUBLE-",
  "LINED HEAD MARKwHEAD MARKpUSTER-FINAL LETTER LAcRAcVAcYApINITIAL LETTER RAzFINAL CONSONANT MARKuINITIAL DOUBLE-LIN",
  "ED HEAD MARKwHEAD MARKrLETTER -AcAbBAbHAdCAbHAdDAbDAbHAdHAcZAbHAeGAbHAdHAcJAcKAbHAcSSAeLAcMAcNAbGAcNAcYAdPAbHAdRAc",
  "SAbHAcSAdTAbHAcSAbHAdTAbHAeVAcYAcZAbHAkMARK DOUBLE SHADlLONG TSHEGkSHADeTSHEGkSIGN ANUSVARAiCANDRA WITH ORNAMENToB",
  "INDUa WITH ORNAMENTzVIRAMAeSARGAlUBJOINERjVOWEL LENGTH MARKlSIGN AIbUcEbIbOaEcREVERSED IkUaEzeEBRA FACEiRO WIDTH J",
  "OINERgNO-BREAK SPACEmN-JOINERkSPACEoUSdIPPER-MOUTH FACEqNAMENNY COMBINING ATTACHING VERTICAL OMETxLOWER TONAL RANG",
  "E INDICATORzcMARK BORZAYAhCHASHKAa POLNAYAoURVED OMETlDEMESTVENNY ZADERZHKAuVOETOCHIEkGORAZDO NIZKO ON LEFTeRIGHTi",
  "S KRYZHEM ON LEFTeRIGHTyVYSOKOoKACHKAfRYZHa ON LEFTmUPNAYAhLOMKAfMALO POVYSHE ON LEFTeRIGHTiS KHOKHLOM ON LEFTeRIG",
  "HTqRYZHEMiTRANNOuNIZKO ON LEFTeRIGHTiS KRYZHEM ON LEFTeRIGHTyOBLACHKOhNbTSECHKAiPODCHASHIEa WITH VERTICAL STROKEzd",
  "VERTKAhVYSHE ON LEFTeRIGHTiS KHOKHLOM ON LEFTeRIGHTqRYZHEMiTRANNOpRAVNOdZSEKAhSKOBAeOROCHYA NOZHKAoREDNE ON LEFTeR",
  "IGHToTRANNO MALO POVYSHEuTIKHAYAgOCHKAfSATA ON LEFTeRIGHTiS KRYZHEMpUDARKAgVYSOKO ON LEFTeRIGHTiS KHOKHLOM ON LEFT",
  "eRIGHTqRYZHEMqZADERZHKAiELOcVOKkTONAL RANGE MARK MRACHNOhSVETLOgTRESVETLOzlNEUME CHASHKAfELYUSTKAkDEMESTVENNY KLYU",
  "CHqRBITSAhOUBLE ZAPYATAYApUDAdVA V CHELNUmFITAeGOLUBCHIK BORZYfMRACHNYhSVETLYgTIKHYeRESVETLYtKHAMILOgLYUCHfOBYLAfR",
  "YUKa TIKHYiZHeUFISMAhMECHIKa KLYUCHENEPOSTOYANNYmPOVODNYhVOYkPOVODNYoNEMKAfOBLAKOfSOKAa KLYUCHEVAYA NEPOSTOYANNAYA",
  "oSVETLAYAtRYUKOVAYA SVETLAYAtSVETLAYAiTRESVETLAYArPALKAdRAKLITgUKdEREVODKAa NEPOSTOYANNAYAxODCHASHIEiLKULIZMYkREVE",
  "RSED CHELYUSTKAsOGdSKAMEYTSA DVOECHELNAYA KLYUCHEVAYAlNEPOSTOYANNAYAoPROSTAYAiSVETLAYAvKLYUCHENEPOSTOYANNAYAoVAYA ",
  "SVETLAYAiTIKHAYAtMRACHNAYAjSVETLAYAiTIKHAYAgRESVETLAYAuLOZHITIEa S KRYZHEMhZAPYATOYkZAKRYTOErTATYAa NEPOSTOYANNAYA",
  "oS DVUMYA ZAPYATYMIqKRYZHEMa I ZAPYATOYsROGOMfZAPYATOYa I KRYZHEMhPODCHASHIEMyZAKRYTAYAa S ZAPYATOYzOPITSAa S OCHK",
  "OMiWITH SOROCHYA NOZHKAzcRELA DVOECHELNAYAa KLYUCHEVAYApOKRYZHEVAYAkPOVODNAYAa KLYUCHEVAYAzgGROMNAYAa WITH SINGLE ",
  "ZAPYATAYAzbOKRYZHEVAYAa POVODNAYAuPOVODNAYAa WITH DOUBLE ZAPYATAYAqSINGLE ZAPYATAYAzlKLYUCHENEPOSTOYANNAYAoPOVODNA",
  "YApRYUKOVAYAa GROMNAYAa WITH SINGLE ZAPYATAYAzbOKRYZHEVAYAa POVODNAYAuPOVODNAYAa WITH DOUBLE ZAPYATAYAqSINGLE ZAPY",
  "ATAYAzlPOVODNAYAjTRYASKApZHEVAYAkMRACHNOTIKHAYAoNEPOSTOYANNAYAoPOLUPOVODNAYAlVODNAYAiROSTAYAiTIKHAYA PUTNAYAoRYASO",
  "GLASNAYAiPOVODNAYAjSTRELNAYAwVRAKHIYA KLYUCHEVAYA MRACHNAYAjPROSTAYAiSVETLAYAiTRESVETLAYAxMRACHNAYAjPROSTAYAiSVETL",
  "AYAiTRESVETLAYAuZANOZHEKgPYATAYAiMEYTSAnPRIZNAK MODIFIER DIRECTION FLIPoKRYZHfLEVEL-2b3hROGzdOMBIEfWJbNBSPdJcSP"]

end DesignProps.Text.CharacterName
