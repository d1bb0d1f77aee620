/-!
General categories: for every category its names, folded to lower case without separators, and the
characters in it as run lengths.
-/

namespace FieldRules.Unicode

/-- The general categories of characters. -/
def categories : List (List String × List String) :=
  [(["lu", "uppercaseletter"],
      ["cNbAdXXBHbHBBBBBBBBBBBBBBBBBBBBBBBBBBBBBBBBBBBBBBBBBBBBBBBBBBBBBBBCBBBBBBBBBBBBBBBCBBB",
       "BBBBBBBBBBBBBBBBBBBBBBBBBBBBBBBBBBBBBBBBBBBCBBBBDCBBBCBDCEBCBDDCBCBBBBBCBBCBBCBDBBBCDB",
       "HBCBCBCBBBBBBBBBBBBBBBCBBBBBBBBBBBBBBBBBCBCBBDBBBBBBBBBBBBBBBBBBBBBBBBBBBBBBBBBBBBBBBB",
       "BBBBBBBBBBBBBBBBBBHCBCCBBEBBBBBBBBlDBBBDBIBGBBDBBBCBRBJbJBCDDBBBBBBBBBBBBBBBBBBBBBBBFB",
       "CBBCCbZbWBBBBBBBBBBBBBBBBBBBBBBBBBBBBBBBBBJBBBBBBBBBBBBBBBBBBBBBBBBBBBBBBBBBBBBBBBBBBB",
       "BBBBBBBBBBBCBBBBBBBBBBBBCBBBBBBBBBBBBBBBBBBBBBBBBBBBBBBBBBBBBBBBBBBBBBBBBBBBBBBBBBBBBB",
       "BBBBBBBBBBBBBBBBBBBBBBBBBBBBBBBBBBCbMehDbMBBFBbbUdIdgLBGbRCDmIBBBBBBBBBBBBBBBBBBBBBBBB",
       "BBBBBBBBBBBBBBBBBBBBBBBBBBBBBBBBBBBBBBBBBBBBBBBBBBBBBBBBBBBBBBBBBBBBBBBBBBBBBBBBBBBBBB",
       "BBBBBBBBBBBBBBBBBBBBBBBBBBBBBBBBBBBBBBBJBBBBBBBBBBBBBBBBBBBBBBBBBBBBBBBBBBBBBBBBBBBBBB",
       "BBBBBBBBBBBBBBBBBBBBBBBBBBBBBBBBBBBBBBBBBBBBBBBBBBBJIIGKIIIIGLBBBBBBBIIcUEMEMEMFLEkCBE",
       "BDDCDCBDFGBBBBBBECEKCFBcJBdzGbWbWBBDCBBBBBBEBBCBIDBBBBBBBBBBBBBBBBBBBBBBBBBBBBBBBBBBBB",
       "BBBBBBBBBBBBBBBBBBBBBBBBBBBBBBBBBBBBBBBBBBBBBBBBBBBBBBBBBBBBBBIBBBEBbtyJBBBBBBBBBBBBBB",
       "BBBBBBBBBBBBBBBBBBBBBBBBBBBBBBBTBBBBBBBBBBBBBBBBBBBBBBBBBBBfFBBBBBBBBBBBBBDBBBBBBBBBBB",
       "BBBBBBBBBBBBBBBBBBBBBBBBBBBBBBBBBBBBBBBBBBBBBBBBBBKBBBBCBBBBBBBBEBBBCBBBDBBBBBBBBBBBBB",
       "BBBBBBBFBFBBBBBBBBBBBBBBBEBBBCBBBBBBBBBBBBBBBBYBbhaHbAbuZbOfGbKgALBPBHBCcqCbZgBWegObGb",
       "gjWbGcMZbmjFbAbAbAbAbAbABBCCBCCCEBIbAbAbACBECIBHbBCBEBFBBDHbBbAbAbAbAbAbAbAbAbAbAbAbEZ",
       "bHZbHZbHZbHZbHBgnLbI"]),
    (["ll", "lowercaseletter"],
      ["dTbAcGBbPYBIBBBBBBBBBBBBBBBBBBBBBBBBBBBBBBBBBBBBBBBBBBBBBBBBBBBBBBBCBBBBBBBBBBBBBBBCBB",
       "BBBBBBBBBBBBBBBBBBBBBBBBBBBBBBBBBBBBBBBBBBBBCBBBBDCBBBCBDCEBCBDDCBCBBBBBCBBCBBCBDBBBCC",
       "CDGBCBCBBBBBBBBBBBBBBBBCBBBBBBBBBBBBBBBBBCCBBBDBBBBBBBBBBBBBBBBBBBBBBBBBBBBBBBBBBBBBBB",
       "BBBBBBBBBBBBBBBBBBBHCBCCBBEBBBBBBBBcRCbAhLBBBDBDDSBbBbJBCDDBBBBBBBBBBBBBBBBBBBBBBBFBBC",
       "BCCbZbWBBBBBBBBBBBBBBBBBBBBBBBBBBBBBBBBBBJBBBBBBBBBBBBBBBBBBBBBBBBBBBBBBBBBBBBBBBBBBBB",
       "BBBBBBBBBCBBBBBBBBBBBBCBBBBBBBBBBBBBBBBBBBBBBBBBBBBBBBBBBBBBBBBBBBBBBBBBBBBBBBBBBBBBBB",
       "BBBBBBBBBBBBBBBBBBBBBBBBBBBBBBBBBbWbPehBbRCDbdGGdfUJBBeNbScLNBbIdYBBBBBBBBBBBBBBBBBBBB",
       "BBBBBBBBBBBBBBBBBBBBBBBBBBBBBBBBBBBBBBBBBBBBBBBBBBBBBBBBBBBBBBBBBBBBBBBBBBBBBBBBBBBBBB",
       "BBBBBBBBBBBBBBBBBBBBBBBBBBBBBBBBBBBBBBBBBBJBBBBBBBBBBBBBBBBBBBBBBBBBBBBBBBBBBBBBBBBBBB",
       "BBBBBBBBBBBBBBBBBBBBBBBBBBBBBBBBBBBBBBBBBBBBBBBBBBBBBBJIGKIIIIGKIIIIOCIIIIIIFBCGBDDBCI",
       "ECCIIKDBCkOBDCDBbBBEBEBCCIEEBcBBebBbWBBDCBBBBBBEBBCBGFBBBBBBBBBBBBBBBBBBBBBBBBBBBBBBBB",
       "BBBBBBBBBBBBBBBBBBBBBBBBBBBBBBBBBBBBBBBBBBBBBBBBBBBBBBBBBBBBBBBBBBCHBBBEBMbMBBFBbtwDBB",
       "BBBBBBBBBBBBBBBBBBBBBBBBBBBBBBBBBBBBBBBBBBBTBBBBBBBBBBBBBBBBBBBBBBBBBBBfFBBBBBBBBBBBBD",
       "BBBBBBBBBBBBBBBBBBBBBBBBBBBBBBBBBBBBBBBBBBBBBBBBBBBBBBBBBBBBBBBIBBBBCBBBBBBBBBEBBBCBBD",
       "BBBBBBBBBBBBBBBBBBBBFBFBBBBBBBBBBBBBBBEBBBCBBBBBBBBBBBBBBBbABDBbfPbRFJHdCbeaIHMFboZbAb",
       "vHbOfGbKfZLBPBHBCcrBbZeVWegObGbgjWbGcHZbmjEbAbAHBSbAbAbAEBBBHBLbAbAbAbAbAbAbAbAbAbAbAb",
       "AbAbAbAbAbAbCbCZBGbAZBGbAZBGbAZBGbAZBGBBcsYKBUGGduDbI"]),
    (["lt", "titlecaseletter"], ["rLBCBCBbMBlfHIIIIIMBPBbVB"]),
    (["lm", "modifierletter"],
      ["baMSEMOFHBBBfDBFBsKBiWBgICkJCEBbFBJBDBgEBgLBbvOBeXBvTBcpMBeDBxNBrWGgScLNBbIbLbaNBNBQNe",
       "mXCjHBhJBsBBbRFFBdTCdPDbqbUBbwCGkKBeKBbCCeRJdCBXBeAEDCsBBWBfHBeEBVCdZEJBbfvIBbTCczOGBb",
       "QBJccXBbGBnDBfsLBbdiCEtODbOCvENcMCBBOCygAEBHBCsgNcKhTHbkFBuLBwPB"]),
    (["lo", "otherletter"],
      ["gOBPBjWBEEiACbfUbBEEbTbGBKbJCBdVBBYCKDCBQBBbEbDdLLBYbHVWbQZHLFYBHQbPcHcCDBSBHKQPEICCCW",
       "BHBBDEDBQBNCBDOCKBIGECCWBHBCBCBCbFEBBTDQJBDBWBHBCBFDBSBPCXBLICCCWBHBCBFDBbECBDPBRBBGDD",
       "BEDCBBBCDCDDDMWBcAIBDBXBQDBbADBCCCbEBEIBDBXBKBFDBbEDBCPCRJBDBbPCBQBFDIDYGFSDYBJBBCHcGb",
       "WBCMGcHCBBBFBYBBBKBCJBCFXEbGBcLIBbKbBFeLbRUBQGEEDBDCHDENMBeJmRBECHBBBECbPBECbHBECHBBBE",
       "CPBcFBECcPbLQeJxWCRBbAFcXGIHSNTOSONBDPcAbOBcPbJBcBHFCbIBBFcSKbFbXbECFLbSEbAcCXJcBgUbVR",
       "IcCbENCKbSbAbKbPDKbEeJEBGBCDBbpQEenVcEYXJHBHBHBHBHBHBHBHvFBcBBEdIIBBdMEBFbRBdQRbGbWQtS",
       "jtOcMbfcFBbrZcPbOIkIEQKCcOBbXcSgNBdZBDHBDBEBXbDcAObYcKGDBBCLbCKXZbDHbVbTFCJKFBbPXDBIUQ",
       "BGDBDbYBBDCCFCBBBYCDLHBOGCGCGJHBHfPbJbDqnSMXEbXmnCoCCeCcPBBKBNBFBBBCBCBeEbHnZScMCcCbOM",
       "eMFBfFeBKBbTCbFDGCGCGCDbJMBbABTBCBPCObIeToZbDDbXbVbGNUBIGbMKbECbKEIeYdAdUbOIcAdOcAMlZJ",
       "WKIfWGCBBbSBCDBCXKXJbFcNTBCKWKbAGbAbMcEGCcMBPEBDBbDbQbDDbDbJIBbCbBcCKWKTNSeGcVhBbKbMEB",
       "BlSbQGCQDBCcEbDKBIWbQSbUVbBXMcBcFCCBNbTbGZbAbKbDBCBIbJDBMbWOEVBBBbJSBZTCcLHBBBEBPBKHbV",
       "bMICCCWBHBCBFDBSBMFbEKBBCBBbMBBZBBBbScBSEUDbEbWUCBBhCbVbPEbKbWUBcHbRNBcTbBbLHhDbSiDICB",
       "CIBCBYPBBBdQICbNQBBBbCBKbOHBVBLbUTBScVhRbHbFJBbLRBbXbEeIHBCBbMVBZGBCBbGOBXbPBCkATPBBNB",
       "bIeUBdBbjMiWhOdxKdTPbpGRGZfxRFwLkdDbEcpUvXHbFRdBRbESbWbZVFTqTbOpPcXFBgTkxYbPbGdTeLmxHl",
       "FPBbDDCBOEIpGdkUeDFNDJHKnbCBtHbTbHBmJbESbSsQbBiVbECBhZbFBDBCBHCFJBiRHBEBCBPBhPbzNEBbBB",
       "CBBCBBKBEBBBBGBEBBBBBBDBCBBCBBBBBBBBBBCBBCEBHBEBEBBBKBRFDBFBRgoAclfCbGgmOCioCClbLPxYdq",
       "WuWcfYhhZFmoO"]),
    (["mn", "nonspacingmark"],
      ["bdOeIkPFkFbTBBBCBCBBcULbWVQBdXHCGCCBEbJBbEbBdNLcGJJBYEBJBDBFbRDcHJbQYBbGcDBBBEIEBDHKCb",
       "DBcGBEEIBUCbABCCcFBECECCDDBbECDBLCcFBEFBCEBUCWGBBcGBCBBEIBHCLCbEBcJBMBbYBDBcDBBDFDBEHC",
       "LCbDBcGBCBGBFCUCbCCcFCEEIBUCbDBcUBHDBBdMBCHMIdUBCJLHcVCbBBBBBBcDOBFBCFLBbKJBdYEBGBCCCZ",
       "CEDQENBCCGBPBbbBDbkKDbDCbECbECcMCBHIBCLJBbTDBBeNCbIBeODECJBGDiLCCBcGBBHBBBBCIGKCBbWOBb",
       "FCMUEbWBBFBBFBbOJMCbGECCBDcEBBCDBBDcGICCfWDBNBHEBGBDChQcMbbSNEBDMeoCDfLBdSbGvIEeDCbsqE",
       "BEKbGCdCCkMBDBEBZCFBfVCbASNBbMIZLbUDbWBCECCbNBcPGCCCCMBIBbVBbZBBDCCFCBBbQCIBjEBCBEBbdz",
       "SBbcJQQQblLBiSBfTFcmGDBCFEbODEBgJCwBEcNFmFCcZGcSLbXEeTBcCPbPBCCKDbXECCHBcJDbKFBIcKBMCc",
       "AJKECBdRDCBBCGBCBgBBDIVCcFCDBbLHDFcSGNBBBBBOCdHICDBBXBdGGBBECBCjEEGCBCbBCdHICBBCeCBBBC",
       "GBBdXBBBCEBFjZJBCjWCBBEBfOECCEBbGKbOGCEIBJGCDbUNBChQBBDBBhTHBGBBdEWCHBCBCeSGDBBCBHBBcU",
       "CDBBBnJCLCcAFFBBBXBhxTBGPqyYMDDdsAFcHHboIBcLEdDBbdbKCgyZbUCXuYDRICHbEEfSDcyDcDEbYIBOBW",
       "FBPcaIHBRCHBCBFdWBgEHoLBcJEtOEjUCjJBCBHCFBsGHeFHbtciVjG"]),
    (["mc", "spacingmark"],
      ["dkTBcDBCDIEBCbYCcGDGCCCKBbRBcGDcOBcGDIBBCcBCcGBBBGCCCKBdYCBCDDBDKBbPDcJEcJCcGBBFCCBCJC",
       "bCBOCcGDFDBDKBbQCcXDGISCmSCcLBgPCEBGBCCZCKDCHVCCGCBKDclSBbEBeZBHIBCnIECDECBGiQCcGBBBJB",
       "BCIGfPBbWBFBBFBCcJBbEBECCBcIBCDBBDCbWIICgPBVBhhECbtlBCCBdKCbYQfMCbVBbWCECCDeGCCCYBbTBB",
       "BeFBCCFBjDCBCBCBBblxJBBBeXBbTDECeLBYCcHBbWDJCNBdPDDCBBgODbFCcGCBECCCDJBKCdGDHBCBBEBCBB",
       "dXDICDBeCDGBBECBjDDGECBeJDICBBeFBBCGBdZBBCEBkBDJBjNGBCEBCBBBfMDIEEBdGBbDCcKBhTBDBBBhRB",
       "OBeCBHBCBiFFECBBnMCMBbWCICBByyYDfjGcDeACbkxNCGG"]),
    (["me", "enclosingmark"], ["bsQCikQBciGEBDbyoXD"]),
    (["nd", "decimalnumber", "digit"],
      ["bWKciOKfEKhQKpWKeOKeOKeOKeOKeOKeOKeOKeOKeOKdSKeOKcSKkSKcSKctQKbMKlOKeYKgKKGKhAKdIKfEKG",
       "KcaeOKbaCKbMKhQKWKdIKpQKbfmCKccKKdfYKGKbeQKeYKcIKfOKkSKnEKeOKoKKdYKGUcYKqGKdYKzMKdIKjM",
       "KcSKcCKnUKyyGKdmCKdIKfEKuOKbkdYKecQbYdnCKqGKtIKjNKbgVKhbAK"]),
    (["nl", "letternumber"], ["irUDdyTbJCEfmSBZJODbsyLKbifGcBrSBIBfEFmeSeHbcpPD"]),
    (["no", "othernumber"],
      ["gWCFBCDdmRGoMGeQDfDHiJHRJqRKbpLUbrVKsMBcmVBDGGKhQQbPBbbYcIdAWyGbEcbHBbtCEfIKbEIBPbGKbN",
       "PbsmIGbhqNbTcNERCnDbBbKEbzGIZHbNJcXFWGgECCQCbUcMJcACbEDcXFeAIYIbPHmSGnObFgCKbQEeIHfEUo",
       "PUbzXCqOJbhNTbgTVbcpQHbeSXblyFUMUeEZibUJbjTcHBDBEcYbTBPblAN"]),
    (["pc", "connectorpunctuation"], ["dRBmbVCTBdgaOCYDjFB"]),
    (["pd", "dashpunctuation"],
      ["bTBcaUBbZBfkJBbnPBdbDGfhXBCBbFCEBbCBrEBTBeHBczwACbLBKBgNBflOBmGB"]),
    (["ps", "openpunctuation"],
      ["bOBbYBbFBfpEBBBcuOBdpMBDBbMBcDBPByKBBBbEBbpUBBBBBBBBBBBBBdCBbGBBBBBBBBBpOBBBBBBBBBBBBB",
       "BBBBBBBBcMBBBbHBboVBBBBBBBZBSBBBBBBBqMBBBBBBBBBDBBBBBBBCBczrTBiHBbDBBBBBBBBBBBBBBBDBRB",
       "BBBBgOBbYBbFBDBCB"]),
    (["pe", "closepunctuation"],
      ["bPBbZBbFBfpDBBBcuOBdrDBcDBPByKBBBbEBbpUBBBBBBBBBBBBBdCBbGBBBBBBBBBpOBBBBBBBBBBBBBBBBBB",
       "BBBcMBBBbHBboVBBBBBBBbSBBBBBBBqMBBBBBBBBBDBBBBBBBCCczrQBiJBbDBBBBBBBBBBBBBBBDBRBBBBBgO",
       "BbZBbFBCBCB"]),
    (["pi", "initialpunctuation"], ["gPBlxKBCCCBZBffSBBBEBCBPBDB"]),
    (["pf", "finalpunctuation"], ["hFBlwVBDBbCBffSBBBEBCBPBDB"]),
    (["po", "otherpunctuation"],
      ["bHDBDCBBBBCKCDCbBBcQBFBOCHBbbABIBrYGbPBcCBCBCBbSCUCBCNBBDcWEdYBbROiZDcCPbFBkBCKBfKBeQB",
       "eRBpABMBoDBdMBKCgMPBBeIBcWFECeHGgPBxOJbdTBeUDcTCgBDBDbLGBEmBCiICeYHBGgECKHbCDeUEcHFcKC",
       "cMILBbgCCIIIJCECDDLBBBKeuCEBCeIBfNCEDCBCJBCBBCCKFBKCEBBBNCDqMDcFBhHBbryGCkJDdVBKBeLGoQ",
       "EdICbODBBbXCbVBdTNQCeUEeWCQCjPBbfcUHCBWBUCCEDDBEHDGBBCfTDBDCBBBBCKCDCbBBbKBCCpUDzSBbWB",
       "pYBbcPBhRBbFBkMJbMBeIHcOHdLEbfNBfCFbSEhHHeFCBEeWEbWCdBEEBNBBDdKGeDBlMCBCeKFKCBBeABjQXe",
       "BDbCNcYBfADjSBkEDfZBdOIdFDBFdPKiHBdRFbQCyVCcWNgTBbrSFejCCwdVCfDBcNFIBvGDlJEmPBbdbOBliL",
       "FeiTBbhEC"]),
    (["sm", "mathsymbol"],
      ["bRBQDcJBBBbTBEBbLBbFBbdMBuHDjyHBNBbNDNDfJBbNFGBcQFFCEBCBCBHBbFCCBBBbFkIbGCdMBbEZbOGsBB",
       "JBcCIeHBmYFCbFKQjWfBWcLEbGCjYbWVCGdasQBbfSBBDgIBQDcJBBBfBBGEfeFCcvgABcyYBZBbFBZBbFBZBb",
       "FBZBbFBZBiuECdtEJ"]),
    (["sc", "currencysymbol"],
      ["bKBeVEbwJBeTBtECtECHBjLBkDBwJBdqPBdiIbIbzhUBbgmLBeEBfYBiLCDCmcSEcvxEBdrKB"]),
    (["sk", "modifiersymbol"],
      ["dQBBBcTBGBEBDBuBEMOFHBBBReNBOCbxIBiuMBBDLDNDNDNCghOCbsvRXJCdZCblOBOCbekKRbiHBBBgGBdolJF"]),
    (["so", "othersymbol"],
      ["gKBCBEBBBblPBkGCeXChYBKBTCjNBtVBoJBfAGBBfCBhZBbPBpBDPBBDCGUBBBBBfDIBGBCFEhPCbcYKbbVBbb",
       "UBgBbInPKJJccHCBEBCKBBCGGBBBBBBEBLCOBBCBBcGCJFCEBCBCBHBbFCCBBBbFkIIEUCHCdDBbEZbOGcUWLd",
       "DdAWhBBJBcCIeHBjObSbScMjWtSbWVCGbNCfIiVGnTCbUbABdLMiGbAQEBNCMBVCGCmYCEKbGbMJBQbFLbEIBP",
       "bGKbNPmIjtOcMbguIcDbhHEKCBBwBDbeuJQoBQcMCcCIbTDsQBDBECNCmBJcFRCDBNDBbVbTclUCwTBbnSIdeS",
       "BdgNIERbcnIEFBbeuWBfvNjGKDDqUGXPQdSeMcIjMKbNCcIFDWCHbEEcJVcODBhEdJbtXtScDEbYIBOBCcoUBe",
       "hWBeZBbbTbSEdWMPCPBPBbLXgFcEbDNbSEJHCOGfYjRFbcBDRDNDiKGMEBPMEcEIKGbOIbECMECcKnGIOCNDLD",
       "cFBBEQCMEKHfRBdOKB"]),
    (["zs", "spaceseparator"], ["bGBeXBihJBdpNLbKBbVBfxWB"]),
    (["zl", "lineseparator"], ["meQB"]),
    (["zp", "paragraphseparator"], ["meRB"]),
    (["cc", "control", "cntrl"], ["AbGdRbH"]),
    (["cf", "format"],
      ["gRBcaKGWBhKBbXBoUCdCBftJBdaQFbAFbXFBKdghJBjPDgiZBPBnkKQbzqUEhwXIbtkzMBbEdS"]),
    (["co", "privateuse"], ["dgvOjmEcahxOdsyOCdsyO"]),
    (["cn", "unassigned"],
      ["biECGEHBBBUBpHBbMCbYCDBcDIbBEGLkKBcICdXOcHCbXCPBbCCBBLFbIFjDBICCCWBHBBDECJCCCEIBECBFCZ",
       "CDBGECCWBHBCBCBCCBBFECCDDBHEBBHRKDBJBDBWBHBCBFCKBDBDCBPECMHHBDBICCCWBHBCBFCJCCCDHDECBF",
       "CSKCBGDDBEDCBBBCDCDDDMEFDDBECBGBOVFNBDBXBQCJBDBEHCBDBCCECKHWBDBXBKBFCJBDBEHCFDBECKBDMN",
       "BDBbZBDBGEQCbABDBSDYBJBBCHDBEGBBBIGKCDMcGEbDbLCBBBFBYBBBXCFBBBHBKCEbGcUBbKEbNBbKBPBNbL",
       "hQBBFBCoNBECHBBBECbPBECbHBECHBBBECPBcFBECcPCbGDbAGdICGCzTDdLHWJYJUMNBDBCMdQCKGKGbAGdLH",
       "bRFcSKbFBMEMEBDbQCFLbSEbAGLDcKCcNBbDCLGKGOCbUCMUcZBgKIcIDPDcKFbRCLIbRFuOCGCbMCGCIBBBBB",
       "BBbFCcBBPBOCGBTCDBJBdXBMCbBBNDbIObHPfKEzQWLVcrSCoSFbTBBFBCcEHCOYJHBHBHBHBHBHBHBHBeWbIb",
       "ABdLMiGbAdCBdICdZFbRBdQBdIJbWBbriRDcDJnKUhCIiNUcIDKGcEIcSIMGeMLbEDdABLEbHBcDJOCKCdZYbC",
       "KGCGCGJHBHBcIEeWCKGqnSMXEbXEnbACeCbMHMFFbABFBBBCBCBzAbGbQGbZBTBEEFBfFCBBhIDGCGCGCDDHBH",
       "KFCMBbABTBCBPCObIeTFDEbTDdKBNDBbVbUfAbDDbXPbCEbKJbEFbRFbEBbLEObQgCCKGbKEbKEbOIcALMBPBH",
       "BCBLBPBHBCDcAMlZJWKIYGBbQBJcRGCBBbSBCDBCXBcUIJbWTBCFbHDbBFbBbMcEEUCbYBCFIBDBbDCDEKHJHc",
       "MbGbNEMJcCDbDCbBFbAHEMHdCcVcDbZNbZHbUIKGbMDbDICiAbFBbQBDCCQGIJbHbUIbQWbAbMbCUXJdAEbKJc",
       "QKBCZHKGcBBSIbNJdSBULSBbVcKHBBBEBPBLGcHFKGEBICCCWBHBCBFBKCCCDCBGBFHCHDFLKBBCBBbMBKBBCB",
       "BEBKBCICbDdOBFbEcUIKgKcCCbMbIcRLKGNTcGGKGUbCbBCPEXhDcIdWdFMICBCIBCBbEBCCMJKcSICbUCLbBc",
       "UIdFNcVHKdIIdKbIOKGJBbTBOKbDDbGCWBOcVHBCBbSDBBCBJIKGGBCBbLBCBGHKGbSEKjMZHRBbPDbDdHBPbY",
       "NbjNdYeHBFLhOdxKdVNbqSKfxRFwLkdDcGcoSvXHbFBKEdDBKGbECGKcSKKBHBVFTqQcGhQdNFZCZbScXEcFHR",
       "cMFLHJkxYbPbGdTeLmwREBHBCBlFPBbDDCBOEIpGdkUeDFNDJHKCIfvGjTDqUGXPRPbUCXJeMcIjMKbNChMVcS",
       "eSUMUMdJJZfFdHBcTBCCBCCCEBMBBBHBcNBECIBHBbCBEBFBBDHBnCClGCbbAPFBPbqMbFGGiFHBRCHBCBFFcK",
       "bHBeIbTDOCKECmIbFRcGFBrWbQiGbREBhKbFBWICiQHBEBCBPBhPCQbPcYEKECbeFcQcYcJhMEBbBBCBBCBBKB",
       "EBBBBGBEBBBBBBDBCBBCBBBBBBBBBBCBBCEBHBEBEBBBKBRFDBFBRcACkKbSEdWMPCPBPBbLKgScEbDNbSEJHC",
       "OGfYblXDRDNDiKGMEBPMEcEIKGbOIbECMECOJbNnGIOCNDLDcFBBEQCMEKHfRBdZbnPclfCbGgmOCioCClbLPx",
       "YdqWuWcfYhhZFmoObogoDBbEdSeYjGdsfOdsyOCdsyOC"])]

/-- Categories that stand for several others. -/
def categoryGroups : List (List String × List String) :=
  [(["c", "other"], ["cc", "cf", "cn", "co"]),
    (["l", "letter"], ["lu", "ll", "lt", "lm", "lo"]),
    (["lc", "casedletter"], ["lu", "ll", "lt"]),
    (["m", "mark", "combiningmark"], ["mn", "mc", "me"]),
    (["n", "number"], ["nd", "nl", "no"]),
    (["p", "punctuation", "punct"], ["pc", "pd", "ps", "pe", "pi", "pf", "po"]),
    (["s", "symbol"], ["sm", "sc", "sk", "so"]),
    (["z", "separator"], ["zs", "zl", "zp"])]

end FieldRules.Unicode
