/-!
Properties that a character has or has not: for each its names, folded to lower case without
separators, and the characters that have it as run lengths.
-/

namespace FieldRules.Unicode

/-- The characters that have a property. -/
def properties : List (List String × List String) :=
  [(["ahex", "asciihexdigit"], ["bWKHGbAG"]),
    (["alpha", "alphabetic"],
      ["cNbAGbAbVBKBEBFXBbFBrQEMOFHBBBdIBbDSBCCEBBGBBDBBBUBdFBfJIgKBbMCBGbPbNOBBBCBCBBIbBEEbDL",
       "FcEBHOdYBIEIEDKDCBQbWNdXYbHJCEBFYCTTZHLFYBHHBIbQKMDHGcYBQBDEPNTBICCCWBHBBDEDICCCCBBIBE",
       "CBFMCKBEDBGECCWBHBCBCBCEFECCCEBHEBBRGLDBJBDBWBHBCBFDJBDBCDBPEVEEDBICCCWBHBCBFDICCCCJCE",
       "CBFNBQCBGDDBEDCBBBCDCDDDMEFDDBDDBGBbONBDBXBQDIBDBDICBDBCCEbCEBIBDBXBKBFDIBDBDICFDBENDM",
       "NBDBbPCIBDBDBBFEHFWGBDBSDYBJBBCHIGBBBISCNcGFHGBbZCBBBFBYBBBTBDCFBBGBOEbGBcLIBbKETEQBbK",
       "cPcDBBCFQcMKECbMBBFBCbRBmVBECHBBBECbPBECbHBECHBBBECPBcFBECcPbLQQdICGDxWCRBbAFcXDLHULVM",
       "UMNBDBCMcACTOBEBcPdLHbRFcSKbFBMEJXbECFLbSEbAcCbCEcLCUbYBXCLDbXcABPBIbZbQCEKbSBLOcDWDKb",
       "KCLFbRCDbPEBGBCDBFhKTbILkSCGCbMCGCIBBBBBBBbFCcBBHBBDDBHDECGENFDBHeMBNBQNdXBEBCKBBDFGBB",
       "BBBBEBLCEFFEBRbPbfHcAcrUiVGEDCMbMBBFBCcEHBQXJHBHBHBHBHBHBHBHBbGbVBsBDZJHFCFEdIGDBdMBEF",
       "bRBdQRbGbWQtSjtOcMbguFcPbUCkJDQKCUbVFIDeJbNJCdZCdEUVBbHYcAMcQBBbSGDBBDKbHFbJNbDDbZBMPB",
       "QQKFBcDJOSXDcRBBBBYDCQCELGCGCGJHBHBbRBOGeTVqnSMXEbXmnCoCCeCbMHMFFMBNBFBBBCBCBeEbHnZScM",
       "CcCbOMeMFBfFbKbAGbALdLDGCGCGCDbJMBbABTBCBPCObIeTcRcBkHbDDbXbVbGNbEFbRFbECbKEIBFbQgCSbK",
       "EbKEbOIcAMLBPBHBCBLBPBHBCDcAMlZJWKIYGBbQBJcRGCBBbSBCDBCXKXJbFcNTBCKWKbAGbAbMcEGCcMEBCF",
       "IBDBbDbQbDDbDbJIBbCbBcCKWKTNSeGcVcDbZNbZNbObIbCDBFXjQbQBCDCQGbYDDbDKBIWbQSbUVbBXJcSbRF",
       "KcFJBNZXbZREIbJDBJcMBEJCKBBBbJSBbICBGEcKHBBBEBPBKHcFXEBICCCWBHBCBFDICCCCDBGBFHbCKBBCBB",
       "bMBKBBCBBEBCDBBBbScOBDBEUDbEcOCCBBhCcCCHZGbIcLBBDBcHcCCBcTbBCOVHhDcFdZcMbFICBCIBCBbEBC",
       "CCCEdPICbUCGBBBCbBbZCKRcUFBScVdZIdKbHbFJBbTBHBBbXbECWBOcVHBCBbSDBBCBDBBCCYGBCBbLBCBEBB",
       "XbSkAXJRBbPDDeHBdBbjMdYeHRhOdxKdTPbpGRGZfxRFwLkdDbVcpDvXHbFRdBRbESbWQEbFVFTqQbTiDcMbGZ",
       "CZbScXEcFHRcMCBBMHJkxYbPbGdTeLmwREBHBCBlFPBbDDCBOEIpGdkUeDFNDJHKEBiwFdHBcTBCCBCCCEBMBB",
       "BHBcNBECIBHBbCBEBFBBDHBnCCZBZBbFBZBbFBZBbFBZBbFBZBIcsYbFGGiFHBRCHBCBFFcKbHBeIbTKHQBmJb",
       "ESbSsQbCiUbECBhZbFBWICiQHBEBCBPBhPcHcQDBDBbuIEBbBBCBBCBBKBEBBBBGBEBBBBBBDBCBBCBBBBBBBB",
       "BBCBBCEBHBEBEBBBKBRFDBFBRyEbAGbAGbAfmKclfCbGgmOCioCClbLPxYdqWuWcfYhhZFmoO"]),
    (["bidic", "bidicontrol"], ["ciEBjvLCbAFcDE"]),
    (["ci", "caseignorable"],
      ["bNBGBLBbJBBBcTBEBBBEBCCtJhKECEBJCBBjRHhZBFBbXbTBBBCBCBBbSBLGKLBBbJBKVQBdXIBKBEbHBBBbEb",
       "BdNLcGLEBCBYYbRDbSBHCFJbPcGcDBBBEIEBDHKCNBPBcGBEEIBUCbABCCcFBECECCDDBbECDBLCcFBEFBCEBU",
       "CWGBBcGBCBBEIBHCLCbEBcJBMBbYBDBcDBBDFDBEHCLCbDBcGBCBGBFCUCbCCcFCEEIBUCbDBcUBHDBBdMBCHL",
       "JdUBCJJBBHcVCbBBBBBBcDOBFBCFLBbKJBdYEBGBCCCZCEDQENBCCGBPBdQBxKDbkKDbDCbECbECcMCBHIBCLD",
       "BFBbTFbZBcNCbIBeODECJBGDiLCCBcGBBHBBBBCIGKCBbNBIbUCMUEbWBBFBBFBbOJMCbGECCBDcEBBCDBBDcG",
       "ICCcMGdEDBNBHEBGBDCbYcLNBbIdXrDBBDLDNDNDNCMFICKBCBCFbXFBKBBNBQNbZbHejRCeJDeVBPBdSbGbVB",
       "sBBbKEDFFBdPGdPDbqbUBbwCGkKBdUEBKBBbCEdCCObIdABXDdYEDCIBDBEBZCFBfVCbASNBbMIZLbUDbWBCEC",
       "CRBVCcOGCCCCMBIBbJBLBbZBBDCCFCBBbBBOCFCBBdWFJDeRBCBEBbdzSBfRRwBQDBMQbIBCBgNBHBGBLBbJBB",
       "BbVBbTCcPBVDtTBiSBfTFbnPGBbQBJwKDBCFEbODEBgJCwBEbMBbAFBBmDCYBcAGcSLbXEeTBcCPbPBCCKDbXE",
       "CCCBEBKBbYDbKFBIcKBMCcAJKECBdRDCBBCGBCBgBBDIVCcFCDBbLHDFcSGNBBBBBOCdHICDBBXBdGGBBECBCj",
       "EEGCBCbBCdHICBBCeCBBBCGBBdXBBBCEBFjZJBCjWCBBEBfOECCEBbGKbOGCEIBJGCDbUNBChQBBDBBhTHBGBB",
       "dEWCHBCBCeSGDBBCBHBBcUCDBBBcNBkVCLCcAFFBBBXBhxDRGPqyYMDDdsAFcHHJEtODbOCsOBcLRcMCBCNCyg",
       "AEBHBCeuGCBEgyUbUCXuYDJQCHbEEfSDcyDcDEbYIBOBWFBPcaIHBRCHBCBFFcKbHBgEOoEBcJEtNFjUCjJBCB",
       "HCFBJBrWHeFIebFFbsxxPBbEdSeYjG"]),
    (["cased"],
      ["cNbAGbAbVBKBEBFXBbFBhNBEEiACbJHCbEFdSBbQECCCEBBGBBDBBBUBdFBfJIgKBbMJbPefFbMBBFBCbRBEzW",
       "dICGdfULFbRCDcMhKcMkSCGCbMCGCIBBBBBBBbFCcBBHBBDDBHDECGENFDBHeMBNBQNdXBEBCKBBDFGBBBBBBE",
       "BGEBCEFFEBRbGDCbfLcAcrUiVGEDCMbMBBFBbtwCbUSbEfCdYDEBcZUGBDbfPbRBOGdCbeaIHMFbnTbAGbAbtT",
       "dCdSbKEbKeMLBPBHBCBLBPBHBCrJBCDBbQBJbuZbZNbZdPWKWefIcMbgiQcMbGZCZbmiEdHBcTBCCBCCCEBMBB",
       "BHBcNBECIBHBbCBEBFBBDHBnCCZBZBbFBZBbFBZBbFBZBbFBZBIcsYKBUGGkBcKdgKcQdaAbAGbAGbA"]),
    (["cwcf", "changeswhencasefolded"],
      ["cNbAdMBKXBIbGBBBBBBBBBBBBBBBBBBBBBBBBBBBBBBBBBBBBBBBBBBBBBBBBBBBBBBBCBBBBBBBBBBBBBBBBC",
       "BBBBBBBBBBBBBBBBBBBBBBBBBBBBBBBBBBBBBBBBBBBBBCBBBBBBBCBBBCBDCEBCBDDCBCBBBBBCBBCBBCBDBB",
       "BCDBHCBCBCBBBBBBBBBBBBBBBBCBBBBBBBBBBBBBBBBBCCBBBDBBBBBBBBBBBBBBBBBBBBBBBBBBBBBBBBBBBB",
       "BBBBBBBBBBBBBBBBBBBBBBHCBCCBBEBBBBBBBBjMBbQBBBDBIBGBBDBBBCBRBJWBMDDCBBBBBBBBBBBBBBBBBB",
       "BBBBBBBCCCBBBCCbZbWBBBBBBBBBBBBBBBBBBBBBBBBBBBBBBBBBJBBBBBBBBBBBBBBBBBBBBBBBBBBBBBBBBB",
       "BBBBBBBBBBBBBBBBBBBBBCBBBBBBBBBBBBCBBBBBBBBBBBBBBBBBBBBBBBBBBBBBBBBBBBBBBBBBBBBBBBBBBB",
       "BBBBBBBBBBBBBBBBBBBBBBBBBBBBBBBBBBBBBBBBBBBBCbMbWBefGbMBBFBbfEGdfUKGbRCDmIBBBBBBBBBBBB",
       "BBBBBBBBBBBBBBBBBBBBBBBBBBBBBBBBBBBBBBBBBBBBBBBBBBBBBBBBBBBBBBBBBBBBBBBBBBBBBBBBBBBBBB",
       "BBBBBBBBBBBBBBBBBBBBBBBBBBBBBBBBBBBBBBBBBBBBBBBBBBBFCCBBBBBBBBBBBBBBBBBBBBBBBBBBBBBBBB",
       "BBBBBBBBBBBBBBBBBBBBBBBBBBBBBBBBBBBBBBBBBBBBBBBBBBBBBBBBBBBBBBBBBJIIGKIIIIGLBBBBBBBIIQ",
       "bWCDCGFDCGLEMFFDCGlLBDCGBbTQTBbfMbAcsUbWbWBBDCBBBBBBEBBCBIDBBBBBBBBBBBBBBBBBBBBBBBBBBB",
       "BBBBBBBBBBBBBBBBBBBBBBBBBBBBBBBBBBBBBBBBBBBBBBBBBBBBBBBBBBBBBBBBBBBBBBBIBBBEBbtyJBBBBB",
       "BBBBBBBBBBBBBBBBBBBBBBBBBBBBBBBBBBBBBBBBTBBBBBBBBBBBBBBBBBBBBBBBBBBBfFBBBBBBBBBBBBBDBB",
       "BBBBBBBBBBBBBBBBBBBBBBBBBBBBBBBBBBBBBBBBBBBBBBBBBBBBBBBBBBBKBBBBCBBBBBBBBEBBBCBBBDBBBB",
       "BBBBBBBBBBBBBBBBFBFBBBBBBBBBBBBBBBEBBBCBBBBBBBBBBBBBBBBYBbiGdCbeaIHMFbnTbAbuZbOfGbKgAL",
       "BPBHBCcqCbZgBWegObGbgjWbGcMZbuhZbI"]),
    (["cwcm", "changeswhencasemapped"],
      ["cNbAGbAcGBKXBbFBcMBdGBbCCOCCBBEdPBSGbBBCBBBCDCBEBFCBBCCBHBCBBCDGFBKCgKBbQECCDDBBGBBDBB",
       "BUBbVDbHBFBfDIgKBbMKbNefGbMBBFBCbRCDzWdICGdfULFbRCDhDBDBQBeJgACBBeOCGCbMCGCIBBBBBBBbFC",
       "cBBHBBDDBHDECGENFDBHlLBDCGBbBBRbGDCbfLcAcrUeJBCBCHdYHEDCMbMBBFBbtwCbUSbCfEOCcKJPDDCFBZ",
       "BbTYCbhCBbCdCbeaIHMFbnTbAGbAbtTdCdSbKEbKeMLBPBHBCBLBPBHBCcoPbZNbZdPWKWefIcMbgiQcMbGZCZ",
       "bugYcQ"]),
    (["cwl", "changeswhenlowercased"],
      ["cNbAdXXBHbHBBBBBBBBBBBBBBBBBBBBBBBBBBBBBBBBBBBBBBBBBBBBBBBBBBBBBBBCBBBBBBBBBBBBBBBCBBB",
       "BBBBBBBBBBBBBBBBBBBBBBBBBBBBBBBBBBBBBBBBBBBCBBBBDCBBBCBDCEBCBDDCBCBBBBBCBBCBBCBDBBBCDB",
       "HCBCBCBBBBBBBBBBBBBBBBCBBBBBBBBBBBBBBBBBCCBBBDBBBBBBBBBBBBBBBBBBBBBBBBBBBBBBBBBBBBBBBB",
       "BBBBBBBBBBBBBBBBBBHCBCCBBEBBBBBBBBlDBBBDBIBGBBDBBBCBRBJbJBIBBBBBBBBBBBBBBBBBBBBBBBFBCB",
       "BCCbZbWBBBBBBBBBBBBBBBBBBBBBBBBBBBBBBBBBJBBBBBBBBBBBBBBBBBBBBBBBBBBBBBBBBBBBBBBBBBBBBB",
       "BBBBBBBBBCBBBBBBBBBBBBCBBBBBBBBBBBBBBBBBBBBBBBBBBBBBBBBBBBBBBBBBBBBBBBBBBBBBBBBBBBBBBB",
       "BBBBBBBBBBBBBBBBBBBBBBBBBBBBBBBBCbMehDbMBBFBbbUdIdgLBGbRCDmIBBBBBBBBBBBBBBBBBBBBBBBBBB",
       "BBBBBBBBBBBBBBBBBBBBBBBBBBBBBBBBBBBBBBBBBBBBBBBBBBBBBBBBBBBBBBBBBBBBBBBBBBBBBBBBBBBBBB",
       "BBBBBBBBBBBBBBBBBBBBBBBBBBBBBBBBBBBBBJBBBBBBBBBBBBBBBBBBBBBBBBBBBBBBBBBBBBBBBBBBBBBBBB",
       "BBBBBBBBBBBBBBBBBBBBBBBBBBBBBBBBBBBBBBBBBBBBBBBBBJIIGKIIIIGLBBBBBBBIIYIIIIIIFLFLEMFLFl",
       "LBDCGBbTQTBbfMbAcsUbWbWBBDCBBBBBBEBBCBIDBBBBBBBBBBBBBBBBBBBBBBBBBBBBBBBBBBBBBBBBBBBBBB",
       "BBBBBBBBBBBBBBBBBBBBBBBBBBBBBBBBBBBBBBBBBBBBBBBBBBBBIBBBEBbtyJBBBBBBBBBBBBBBBBBBBBBBBB",
       "BBBBBBBBBBBBBBBBBBBBBTBBBBBBBBBBBBBBBBBBBBBBBBBBBfFBBBBBBBBBBBBBDBBBBBBBBBBBBBBBBBBBBB",
       "BBBBBBBBBBBBBBBBBBBBBBBBBBBBBBBBBBBBBBBBKBBBBCBBBBBBBBEBBBCBBBDBBBBBBBBBBBBBBBBBBBBFBF",
       "BBBBBBBBBBBBBBBEBBBCBBBBBBBBBBBBBBBBYBbhaHbAbuZbOfGbKgALBPBHBCcqCbZgBWegObGbgjWbGcMZbu",
       "hZbI"]),
    (["cwt", "changeswhentitlecased"],
      ["dTbAcGBbPYBIBBBBBBBBBBBBBBBBBBBBBBBBBBBBBBBBBBBBBBBBBBBBBBBBBBBBBBBBCBBBBBBBBBBBBBBCBB",
       "BBBBBBBBBBBBBBBBBBBBBBBBBBBBBBBBBBBBBBBBBBBBCBBBBDCBBBCBDBFBCBDDCBCBBBBBCBEBCBDBBBCBDB",
       "BBEBBCBCBBBBBBBBBBBBBBBBBCBBBBBBBBBBBBBBBBBDBBBBDBBBBBBBBBBBBBBBBBBBBBBBBBBBBBBBBBBBBB",
       "BBDBBBBBBBBBBBBBBBBBIBCCBBEBBBBBBBBGBCBBBCDCBEBFCBBCCBHBCBBCDGFBKCgKBbRBBBDBDDSBbBbJBC",
       "DDBBBBBBBBBBBBBBBBBBBBBBBFBBCBCBcAbWBBBBBBBBBBBBBBBBBBBBBBBBBBBBBBBBBBJBBBBBBBBBBBBBBB",
       "BBBBBBBBBBBBBBBBBBBBBBBBBBBBBBBBBBBBBBCBBBBBBBBBBBBCBBBBBBBBBBBBBBBBBBBBBBBBBBBBBBBBBB",
       "BBBBBBBBBBBBBBBBBBBBBBBBBBBBBBBBBBBBBBBBBBBBBBBBBBBBBBBBBBBBBBbXbNfmEGdfUJBBjEBDBQBeKB",
       "BBBBBBBBBBBBBBBBBBBBBBBBBBBBBBBBBBBBBBBBBBBBBBBBBBBBBBBBBBBBBBBBBBBBBBBBBBBBBBBBBBBBBB",
       "BBBBBBBBBBBBBBBBBBBBBBBBBBBBBBBBBBBBBBBBBBBBBBBBBBBBBBBBBBBBBHFBBBBBBBBBBBBBBBBBBBBBBB",
       "BBBBBBBBBBBBBBBBBBBBBBBBBBBBBBBBBBBBBBBBBBBBBBBBBBBBBBBBBBBBBBBBBBBBBBBJIGKIIIIGKIIIIO",
       "CIIIIIIFBCGBDDBCIECCIIKDBCnEBbHQEBbgLbActQbWBBDCBBBBBBGBCBKBBBBBBBBBBBBBBBBBBBBBBBBBBB",
       "BBBBBBBBBBBBBBBBBBBBBBBBBBBBBBBBBBBBBBBBBBBBBBBBBBBBBBBBBBBBBBBBBBBBBBBBIBBBEBMbMBBFBb",
       "twDBBBBBBBBBBBBBBBBBBBBBBBBBBBBBBBBBBBBBBBBBBBBBTBBBBBBBBBBBBBBBBBBBBBBBBBBBfFBBBBBBBB",
       "BBBBBDBBBBBBBBBBBBBBBBBBBBBBBBBBBBBBBBBBBBBBBBBBBBBBBBBBBBBBBBBBBBBKBBBCBBBBBBBBBEBEBB",
       "CCBBBBBBBBBBBBBBBBBBBLBBBBBBBBBBBBBBBEBBBCBBBBBBBBBBBBBBBbABbhCBbCdCbeaIHMFboZbAbvHbOf",
       "GbKfZLBPBHBCcrBbZeVWegObGbgjWbGcHZbuiGbI"]),
    (["cwu", "changeswhenuppercased"],
      ["dTbAcGBbPYBIBBBBBBBBBBBBBBBBBBBBBBBBBBBBBBBBBBBBBBBBBBBBBBBBBBBBBBBBCBBBBBBBBBBBBBBCBB",
       "BBBBBBBBBBBBBBBBBBBBBBBBBBBBBBBBBBBBBBBBBBBBCBBBBDCBBBCBDBFBCBDDCBCBBBBBCBEBCBDBBBCBDB",
       "BBFCBCBCBBBBBBBBBBBBBBBCBBBBBBBBBBBBBBBBBCBCBBDBBBBBBBBBBBBBBBBBBBBBBBBBBBBBBBBBBBBBBB",
       "DBBBBBBBBBBBBBBBBBIBCCBBEBBBBBBBBGBCBBBCDCBEBFCBBCCBHBCBBCDGFBKCgKBbRBBBDBDDSBbBbJBCDD",
       "BBBBBBBBBBBBBBBBBBBBBBBFBBCBCBcAbWBBBBBBBBBBBBBBBBBBBBBBBBBBBBBBBBBBJBBBBBBBBBBBBBBBBB",
       "BBBBBBBBBBBBBBBBBBBBBBBBBBBBBBBBBBBBCBBBBBBBBBBBBCBBBBBBBBBBBBBBBBBBBBBBBBBBBBBBBBBBBB",
       "BBBBBBBBBBBBBBBBBBBBBBBBBBBBBBBBBBBBBBBBBBBBBBBBBBBBBBBBBBBBbXbNehCbRCDbdGGdfUJBBjEBDB",
       "QBeKBBBBBBBBBBBBBBBBBBBBBBBBBBBBBBBBBBBBBBBBBBBBBBBBBBBBBBBBBBBBBBBBBBBBBBBBBBBBBBBBBB",
       "BBBBBBBBBBBBBBBBBBBBBBBBBBBBBBBBBBBBBBBBBBBBBBBBBBBBBBBBBBBBBBBBBBHFBBBBBBBBBBBBBBBBBB",
       "BBBBBBBBBBBBBBBBBBBBBBBBBBBBBBBBBBBBBBBBBBBBBBBBBBBBBBBBBBBBBBBBBBBBBBBBBBBBJIGKIIIIGK",
       "IIIIOCcBBCEBBBDDBCEBDECCIIKDBCEBmZBbHQEBbgLbActQbWBBDCBBBBBBGBCBKBBBBBBBBBBBBBBBBBBBBB",
       "BBBBBBBBBBBBBBBBBBBBBBBBBBBBBBBBBBBBBBBBBBBBBBBBBBBBBBBBBBBBBBBBBBBBBBBBBBBBBBIBBBEBMb",
       "MBBFBbtwDBBBBBBBBBBBBBBBBBBBBBBBBBBBBBBBBBBBBBBBBBBBBBTBBBBBBBBBBBBBBBBBBBBBBBBBBBfFBB",
       "BBBBBBBBBBBDBBBBBBBBBBBBBBBBBBBBBBBBBBBBBBBBBBBBBBBBBBBBBBBBBBBBBBBBBBBBBKBBBCBBBBBBBB",
       "BEBEBBCCBBBBBBBBBBBBBBBBBBBLBBBBBBBBBBBBBBBEBBBCBBBBBBBBBBBBBBBbABbhCBbCdCbeaIHMFboZbA",
       "bvHbOfGbKfZLBPBHBCcrBbZeVWegObGbgjWbGcHZbuiGbI"]),
    (["dash"], ["bTBcaUBbZBfkJBbnPBdbDGcJBbNBPBpABeoIBCBbFCEBbCBrEBTBeHBczwACbLBKBgNBflOBmGB"]),
    (["di", "defaultignorablecodepoint"],
      ["gRBzXBbbOBegWCckHCdHFdaPFbAFbXQgkYBczmPQjFBgEBdBJctlNEhwXIbtkzLgbO"]),
    (["dep", "deprecated"], ["mRBbyVBdkTBBBdcJCdiJGbaVCbzryKB"]),
    (["dia", "diacritic"],
      ["dQBBBcTBGBEBCCtJgDBIFGRCEBJCjTFiBBcDbTBBBCBCBBfBIECfECECDDcPbBdNLcGLbICeWIbPKQbCcJBQBD",
       "EbCBcWBQBeGBQBeGBQBbVDcIBQBHBePBeGBQBeGBQBeFCQBeUBeHBMGBBeDBNFcXCbBBBBBBECcODBCcKBeIBB",
       "CbOCEFZHBBKCbbDDbkMCbEBfSLJBnJDlGBUICBbWPCLDPCMcUBPBbMJcCCcGBLCcOCcMGdEZEBGBCDbYcLbWbK",
       "FMbLLrDBBDLDNDNDNCexKDmFBtMGeBEdRBbsmKBMCBBbCCdECObIdYDdYBGCMBbLBfVBbBScFEbKBdRBMBbKBf",
       "TDcNEbZBdWFJDeYCbdzSBbdPQkKBBBbVBbTCcPBbdKBbtNGBbQBJyNDEBgJCvZGbMBbAFpGBCDcSLbXEhKBbPB",
       "cUCeQCcKBcYBJDeACgWCdCCQBYHDFdLDBCNCdRBDBeTCjRCeWBeOCeLBkJCjYCEBgABdFBSBdDBqFBjYBBCdDB",
       "cNBnVCXBhyAPqzPBdsAFcHHvSCvARdCCygCEBHBCltHbUCXuYDDGIICHbEEfmWcKhMHoLBcJEbdMCbcIHeFDBD"]),
    (["emoji"],
      ["bJBGBFKeHBEBlyRBMBiIBWBdMGPCoDCMBgKBZLEDhRBiXCKBJBcGEBFJBCBCCCBEBCBBCCBDBDCIDFBBBFMLCC",
       "BBCBBSBCCSGBBBCDCFBCCECLCFCCBFCBBBCUCFGBECBEBCBCGBBCBBBBBGBDBGBKCPBCBEBBBEDBBLCbWDJBOB",
       "OBoICrVDTCbZBEBbvUBMBxDBBBgmrQBhUBgECMCOBCKcXbABCXBUBCJVCgSbICeICCBDCdFCDBkDBcLLGBYHCC",
       "IMBCECBECNCCBICJBFDMDIDCBBBEBGBDBGdIbWcSFICEDKDBBCDBCKiTMEBkXbVBKBhDeINDLDcFBBEQCMEK"]),
    (["ecomp", "emojicomponent"], ["bJBGBFKmbJBiFBdftRBdoiWbAtNFceAEbsvuQdS"]),
    (["emod", "emojimodifier"], ["hhiXF"]),
    (["ebase", "emojimodifierbase"],
      ["olHBiLBQEgsjVBcIDCBCDeNCCLVTDBEDBDHBBBYBhTCEBVBECgSDDFdFBQDJBLBwDBCBIIGBJKCDcEBcJCBCBB",
       "RDBNiVDbQJ"]),
    (["epres", "emojipresentation"],
      ["nhQChXEDBCBuBCVCbYMbRBTBNBICRCFCIBFBVBHCBBEBCBHBECbCBbJBBBEDBBcJDYBOBbhBCbZBEBgplEBhUB",
       "hIBCKcXbABBYBUBCFBDVCgSbHMJBcSBWMbREFMRDBDcTBBBhFCcLNEBYSBbACNBdIdHbWcSGBDDCEDELCHJiTM",
       "EBkXbVBKBhDeINDLDcFBBEQCMEK"]),
    (["extpict", "extendedpictographic"],
      ["gNBEBlyRBMBiIBWBdMGPCoDCMBgKBZLEDhRBiXCKBJBcGEBFJBCBCCCBEBCBBCCBDBDCIDFBBBFMLCCBBCBBSB",
       "CCSGBBBCDCFBCCECLCFCCBFCBBBCUCFGBECBEBCBCGBBCBBBBBGBDBGBKCPBCBEBBBEDBBLCbWDJBOBOBoICrV",
       "DTCbZBEBbvUBMBxDBBBgmrQBbNEdWMPCPBOCbLKeICMCOBCKTcEbBPKBUBCJBEJXGhGCeICCBDCdFCDBEFjUBc",
       "LLGBYHCCIMBCECBECNCCBICJBFDMDIDCBBBEBGBDBGdIbWcSFICRDBBGCNiKbMMEcEIKGbOIbECMECOJbNMbVB",
       "KBhDdKIOfQjWbnI"]),
    (["ext", "extender"],
      ["hBBuQCbhUBqZByGBfHBdLBbcYBeXBdnFBcEBxNBpIBcQBhkJBbRFdZCdPDbqbUBcgSBblABWBfHBeEBVCbfzVB",
       "dbKCcfBBbBBEBbvBBlHBeMCtEDbvJBbgABbdiECbtKCBBOCbqxKCbuFBbgUD"]),
    (["grbase", "graphemebase"],
      ["bGdRbHNBwWeIICGEHBBBUBiQHgKBbMCbYCDbUBBBCBCBJbBEGRKLBBbUVQBdXIBGCCBEbGCBBbEbDdLLBObRJH",
       "DYEBJBDBHPBZFBBLFbGQbQcFcDBBBEIEBDHKCbDBCBICCCWBHBBDEDBBCGCCCBBNCBDEYFBBGECCWBHBCBCBCE",
       "DYEBBHKCDBBMBBJBDBWBHBCBFDEIBBCDBPCEMHBICBICCCWBHBCBFDBCBGCCCPCBDESLBBGDDBEDCBBBCDCDDD",
       "MFBBCDDBDDBVVGDBIBDBXBQDBDETDBCCCEKHKBLBDBXBKBFDCCBBCXDBCEKBDOLBDBbPCBBCFDBDBCEDBKEbAC",
       "CBSDYBJBBCHJCGHHKCDMbWBCLIINbLCBBBFBYBBBKBCJBCFBBJKCEbGYCbBBBBBBOBbKSBFBCFbXIBGBNbLbTE",
       "BGBCCCZCEDQENBCCGBPBbOBBFBCoNBECHBBBECbPBECbHBECHBBBECPBcFBECcPFbDDbAGdICGCzTDdLHSNTDC",
       "JSONBDPcACBHIBCLJDKGKGLFKGdLHFCbIBBFcSKbFEECDECBGHBDbQCFLbSEbAGLDcFCCDcEBBJBBCIGNKGKGO",
       "dIbWKEDIBbDJMCbGECGcEBBCDBBNbWICFPDcKFbRCLLBNBHEBGBDCBFhKcMkSCGCbMCGCIBBBBBBBbFCcBBPBO",
       "CGBTCDBJBLFYHbXQCCbBBNDbIcKfKEzQWLVcrSCoNDCFbTBBFBCcEHCPXJHBHBHBHBHBHBHBHbHdQbIbABdLMi",
       "GbAcGGQBdIEdXFbRBdQBdIJbWBbriRDcDJnKUbVEBKbGCdCCGIiNURBDBEBZCFEKGcEIcQKMYNBbMIZLBMbEGb",
       "WBCECCCBNBLEHBZBbPGCCCLDBIBBCKCbGBbZBBDCCFCBBBYRCILGCGCGJHBHBcIEeNBCBEDKGqnSMXEbXmnCoC",
       "CeCbMHMFFBBYBFBBBCBCBzAbGQQKWbJBTBEEFBfFEgBCbFDGCGCGCDDHBHNCCMBbABTBCBPCObIeTFDEbTDdKB",
       "NDBbVbTfBbDDbXQbBEbKJbEFbMKbEBbLEObQgCCKGbKEbKEbOIcALMBPBHBCBLBPBHBCDcAMlZJWKIYGBbQBJc",
       "RGCBBbSBCDBCXBcUIJbWTBCFbHDbBFbBbMcEEUCbVPEBDBbDKJHJHcMbGbLGMJcCDbDCbBFbAHEMHdCcVcDbZN",
       "bZHbQMKGbMIYICiAbFBbQDBCCQGIJbNbOIWLJWSEEbMbCUXJBBcCPHEbEBCCBMbXECCCBEOZHKJbKFBJSIbJBD",
       "LcAJBBIECBQBULSBbCDCEGBCcLHBBBEBPBLGbVBDNKICBICCCWBHBCBFDBBBBECCCCDBMHbCKBBCBBbMBBBCPB",
       "BCDBBDBCbNcEICDBBVBBBDbEbWBCGBBCBBCBCEIKgKbVBCGECBCbBbKbZICBBCELKGNTbRBBBCICGKGUbCbBDB",
       "BCEBJXhDbVJBCBdWdFMICBCIBCBYBFBCGEBDJKcSICbQIEBEbBBKbOGCEIJBGCDbUNBCJNcVHKdJBDBBBdKbIO",
       "KGJBbMOBBGKbDDbGZBHBCBcXHBCBbMVBJKGGBCBbLECBBBBHKGbSEKjMTCEJPBbKICDXdIBPbYNbjNdYeHBFLh",
       "OdxKdVNbpGRGZfxRFwLkdDbEMDDKcoSvXHbFBKEdDBKGbEHBKbWHPKKBHBVFTqQcGhQdNFZCZbScXFcELNcMEO",
       "FJkxYbPbGdTeLmwREBHBCBlFPBbDDCBOEIpGdkUeDFNDJHKCBCBfvKjTDqUGXPRdReMcIjMKbNCcIFDWCHbEEc",
       "JVcODBeSUMUMdJJZfFdHBcTBCCBCCCEBMBBBHBcNBECIBHBbCBEBFBBDHBnCClGCvQcDEbYIBOBHbrWbFGGkBc",
       "KfQbTKHCKECmIbESbSEKFBrWbCEKiGbECLEBhKbFBDBCBHCFJCiQHBEBCBPBhPCJbWcQHBEKECbeFcQcYcJhME",
       "BbBBCBBCBBKBEBBBBGBEBBBBBBDBCBBCBBBBBBBBBBCBBCEBHBEBEBBBKBRFDBFBRcACkKbSEdWMPCPBPBbLKg",
       "ScEbDNbSEJHCOGfYblXDRDNDiKGMEBPMEcEIKGbOIbECMECOJbNnGIOCNDLDcFBBEQCMEKHfRBdZbnPclfCbGg",
       "mOCioCClbLPxYdqWuWcfYhhZFmoO"]),
    (["grext", "graphemeextend"],
      ["bdOeIkPHkDbTBBBCBCBBcULbWVQBdXHCGCCBEbJBbEbBdNLcGJJBYEBJBDBFbRDcHJbQYBbGcDBBBEIEBDHKCb",
       "DBcGBBBCEIBJBKCbABCCcFBECECCDDBbECDBLCcFBEFBCEBUCWGBBcGBBCBEIBHDKCbEBcHBBBMBJBbOBDBcDB",
       "BDFDBEHCLCbDBcGBCCBBDDBEHCLCbCCcFCBBCEIBJBKCbDBcUBEBCDBBIBdDBCHMIdUBCJLHcVCbBBBBBBcDOB",
       "FBCFLBbKJBdYEBGBCCCZCEDQENBCCGBPBbbBDbkKEbCDbDCbECcMCBHIBCLJBbTDBBeNCbIBeODECJBGDiLCCB",
       "cGBBHBBBBCIGKCBbWbUCMUEbWKEDbMJMCbGECGcEBBCDBBFcEICCfWDBNBHEBGBDChQcMuEBhNbHeoCDfLBdSb",
       "GvIGeBCbsqEEBKbGCdCCkMBDBEBZCFBfVCbASNBbMIZLBBbSDbWBCECCCBbKBcPGCCCCMBIBbVBbZBBDCCFCBB",
       "bQCIBjEBCBEBbdzSBbcJQQQoCCxHBiSBfTFcmGDBCFEbODEBgJCwBEcNFmFCcZGcSLbXEeTBcCPbPBCCKDbXEC",
       "CHBcJDbKFBIcKBMCcAJBBIECBdRDCEGBCBgBBDIVCcFCBBBBMBJBOHDFcPBCGBBCBBDEDBBOCdHICDBBXBdDBC",
       "GBBCBBCBCjBBCEGCBCbBCdHICBBCeCBBBCIdXBBBCEBFjZJBCjLBKEEBfOECCEBbGKbOGCEIBJGCDbUNBChQBB",
       "DBBhTHBGBBdEWCHBCBCeSGDBBCBHBBcUCDBBBnJCLCcAFFDXBhxTBGPqyYMDDdsAFcHHboIBcLEdDBLCbdaXCg",
       "yZbUCXuWFDGIICHbEEfSDcyDcDEbYIBOBWFBPcaIHBRCHBCBFdWBgEHoLBcJEtOEjUCjJBCBHCFBsGHeFHbtca",
       "FdSeYjG"]),
    (["hex", "hexdigit"], ["bWKHGbAGdslLKHGbAG"]),
    (["idsb", "idsbinaryoperator"], ["seACCKtDB"]),
    (["idst", "idstrinaryoperator"], ["seCC"]),
    (["idc", "idcontinue"],
      ["bWKHbAEBBbAbVBKBBBCBFXBbFBrQEMOFHBBBReNBCCEBBGFBBBUBdFBfJBFCgKBbMCBGbPIbTBBBCBCBBIbBEE",
       "bDLFcWEdYBICKBTCBQcHCdXOcCEBCBCbUSbCELFYBHHcXBeZCKBTBICCCWBHBBDECJCCCEIBECBFCMKBBBCDBG",
       "ECCWBHBCBCBCCBBFECCDDBHEBBHQLDBJBDBWBHBCBFCKBDBDCBPECKJHBDBICCCWBHBCBFCJCCCDHDECBFCKBB",
       "QCBGDDBEDCBBBCDCDDDMEFDDBECBGBOKQNBDBXBQCJBDBEHCBDBCCECKQEBIBDBXBKBFCJBDBEHCFDBECKBDMN",
       "BDBbZBDBFFEHFCKKGBDBSDYBJBBCHDBEGBBBIGKCCNcGFPBKbNCBBBFBYBBBXCFBBBHBKCEbGBXCGKLBBBBBEK",
       "BbKEUBSBbKJBcFcWGdACbMBBFBCbRBmVBECHBBBECbPBECbHBECHBBBECPBcFBECcPCDJJOQQdICGDxWCRBbAF",
       "cXDLHWJWLUMNBDBCMdGDBECCKbHDBLGdLHbRFcSKbFBMEMKbOCFLbSEbAGLbLbCEcLBbDCLGKNBIOBbFCMUcZD",
       "KRJMeMMcEIKDbXCLFbRCDQDBbNFuOCGCbMCGCIBBBBBBBbFCcBBHBBDDBHDECGENFDBHPCbXCTBbCBNBQNbZNE",
       "BDMRBEBCKBBCGGBBBBBBQCEFFEBRbPdzBiVGJMbMBBFBCcEHBPYJHBHBHBHBHBHBHBHBbGtXDZPBFCFEdICHBd",
       "RFbRBdQRbGbWQtSjtOcMbguFcPbUCkJDbCUbWEKBeLbLJCdZCdEUcDEBTcAMcSKKGYDBBbXCbKMbDDcNOLGbFB",
       "cDJOCKGXDcVYDCQCFKGCGCGJHBHBbRBOGeTBCCKGqnSMXEbXmnCoCCeCbMHMFFMBNBFBBBCBCBeEbHnZScMCcC",
       "bOMEQQQDCYDbGFBfFTKHbAEBBbAKdMDGCGCGCDbJMBbABTBCBPCObIeTcRcBfGBfAbDDbXPBbFbGNbEFbRFbEC",
       "bKEIBFbQgCCKGbKEbKEbOIcAMLBPBHBCBLBPBHBCDcAMlZJWKIYGBbQBJcRGCBBbSBCDBCXKXJbFcNTBCKWKbA",
       "GbAbMcEGCcMEBCFIBDBbDCDEBbGbDDbDbJIBbEZcCKWKTNSeGcVcDbZNbZNbOIKGbMDFBXjQbQBCDCQGbYbJKB",
       "IbHbFWbQVbBXJcTbFQJcIHBNZHKGcBBKEEIbKCBJcREEBNBBbJSBbLGEcKHBBBEBPBKHcHFKGEBICCCWBHBCBF",
       "BKCCCDCBGBFHCHDFLKBBCBBbMBKBBCBBEBINCbDcXFKEEbEcSBBIKgKcCCJXGbIcNDBLKbMcFHKGUbCbBCPEKG",
       "HhDcHdXcWVICBCIBCBbEBCCJMKcSICbUCIBCbBcLIBIcWDBScVdZIdKbHPKGJBbTBJPKYbECWBOcVHBCBbSDBB",
       "CBJIKGGBCBbLBCBGHKGbSEKjMXJRBbPDFNLdHBdBbjMdYeHRhOdxKdTPbpGQWKfxRFwLkdDcGcoSvXHbFBKGdB",
       "BKGbECFLcDJEMKJVFTqQbTDKhQcMbGZCZbScXEcFHRcMCBCLHJkxYbPbGdTeLmwREBHBCBlFPBbDDCBOEIpGdk",
       "UeDFNDJHKDCgeRKtYbUCXuWFDGIICHbEEfSDrBdHBcTBCCBCCCEBMBBBHBcNBECIBHBbCBEBFBBDHBnCCZBZBb",
       "FBZBbFBZBbFBZBbFBZBICbYtScDEbYIBOBWFBPbqMbFGGiFHBRCHBCBFFcKbHBeIbTDOCKEBmJbFRcGsCbQiGb",
       "RhPbFBWICiQHBEBCBPBhPLHbPcYEKbtUEBbBBCBBCBBKBEBBBBGBEBBBBBBDBCBBCBBBBBBBBBBCBBCEBHBEBE",
       "BBBKBRFDBFBRfaAKbnQclfCbGgmOCioCClbLPxYdqWuWcfYhhZFmoObogxYjG"]),
    (["ids", "idstart"],
      ["cNbAGbAbVBKBEBFXBbFBrQEMOFHBBBeZFBCCEBBGBBDBBBUBdFBfJIgKBbMCBGbPcTbBEEbTbRbJCBdVBBPCHC",
       "KDCBQBBbEbDdLLBYbHJCEBFWEBJBDBXZHLFYBHQbQcGcCDBSBHKPQEICCCWBHBBDEDBQBNCBDOCKBIGECCWBHB",
       "CBCBCbFEBBTDQJBDBWBHBCBFDBSBPCXBLICCCWBHBCBFDBbECBDPBRBBGDDBEDCBBBCDCDDDMWBcAIBDBXBQDB",
       "bADBCCCbEBEIBDBXBKBFDBbEDBCPCRJBDBbPCBQBFDIDYGFSDYBJBBCHcGbWBCMHcGCBBBFBYBBBKBCJBCFBBV",
       "EbGBcLIBbKbBFeLbRUBQGEEDBDCHDENMBRbMBBFBCbRBmVBECHBBBECbPBECbHBECHBBBECPBcFBECcPbLQQdI",
       "CGDxWCRBbAFcXDLHSNTOSONBDPcAbJBEBcPdLHbPBBFcSKbFbXbECFLbSEbAcCXJcBdEBdPbVRIcCbENCKbSbA",
       "bKbPDKbKCLFbRCDbPEBGBCDBFhKcMkSCGCbMCGCIBBBBBBBbFCcBBHBBDDBHDECGENFDBHeMBNBQNdXBEBCKBB",
       "CGGBBBBBBQCEFFEBRbPdzBiVGEDCMbMBBFBCcEHBQXJHBHBHBHBHBHBHBHvEDZJHFCFEdIEFBdMBEFbRBdQRbG",
       "bWQtSjtOcMbguFcPbUCkJDQKCUbVQbFCdCbNJCdZCdEURBDBEBXbDcAObYcKGDBBCLbCKXZbDHbVbCBQFBKKFB",
       "bPXDBIUXDBDbYBBDCCFCBBBYDCLHDMGCGCGJHBHBbRBOGeLbDqnSMXEbXmnCoCCeCbMHMFFBBKBNBFBBBCBCBe",
       "EbHnZScMCcCbOMeMFBfFbKbAGbALdLDGCGCGCDbJMBbABTBCBPCObIeTcRcBkHbDDbXbVbGNbEFbMKbECbKEIB",
       "FbQgCSbKEbKEbOIcAMLBPBHBCBLBPBHBCDcAMlZJWKIYGBbQBJcRGCBBbSBCDBCXKXJbFcNTBCKWKbAGbAbMcE",
       "GCcMBPEBDBbDbQbDDbDbJIBbCbBcCKWKTNSeGcVcDbZNbZNbKbMbCJXjQbQGCQGcEbDKBIWbQSbUVbBXMcBcFC",
       "CBNbTbGZbAbKbDBCBIbJDBMbWOEVBBBbJSBZTCcLHBBBEBPBKHbVbMICCCWBHBCBFDBSBMFbEKBBCBBbMBBZBB",
       "BbScBSEUDbEbWUCBBhCbVbPEbKbWUBcHbRNBcTbBbLHhDbSeMcMbFICBCIBCBYPBBBdQICbNQBBBbCBKbOHBVB",
       "LbUTBScVhRbHbFJBbLRBbXbEeIHBCBbMVBZGBCBbGOBXbSkATPBBNBbIeUBdBbjMdYeHRhOdxKdTPbpGRGZfxR",
       "FwLkdDbEcpUvXHbFRdBRbESbWQEbFVFTqQbTiDcMbGZCZbScXFBcONcMCBBOFJkxYbPbGdTeLmwREBHBCBlFPB",
       "bDDCBOEIpGdkUeDFNDJHKiwKdHBcTBCCBCCCEBMBBBHBcNBECIBHBbCBEBFBBDHBnCCZBZBbFBZBbFBZBbFBZB",
       "bFBZBIcsYbFGGkBcKfQbTKHQBmJbESbSsQbCiUbECBhZbFBDBCBHCFJCiQHBEBCBPBhPcHcQHBbuIEBbBBCBBC",
       "BBKBEBBBBGBEBBBBBBDBCBBCBBBBBBBBBBCBBCEBHBEBEBBBKBRFDBFBRgoAclfCbGgmOCioCClbLPxYdqWuWc",
       "fYhhZFmoO"]),
    (["ideo", "ideographic"],
      ["seWCZJODblDjtOcMbfbKbhsIoCCeCbsiKBNFJkxYbPbGdTeLnlLpGbdeIclfCbGgmOCioCClbLPxYdqWuWcfYh",
       "hZFmoO"]),
    (["joinc", "joincontrol"], ["mdOC"]),
    (["loe", "logicalorderexception"], ["fkIFeTFedSDCBccxMCCBBC"]),
    (["lower", "lowercase"],
      ["dTbAbVBKBEBbKYBIBBBBBBBBBBBBBBBBBBBBBBBBBBBBBBBBBBBBBBBBBBBBBBBBBBBBBBBCBBBBBBBBBBBBBB",
       "BCBBBBBBBBBBBBBBBBBBBBBBBBBBBBBBBBBBBBBBBBBBBBBBCBBBBDCBBBCBDCEBCBDDCBCBBBBBCBBCBBCBDB",
       "BBCCCDGBCBCBBBBBBBBBBBBBBBBCBBBBBBBBBBBBBBBBBCCBBBDBBBBBBBBBBBBBBBBBBBBBBBBBBBBBBBBBBB",
       "BBBBBBBBBBBBBBBBBBBBBBBHCBCCBBEBBBBBBBBcRCbJHCbEFdSBbRBBBDBCESBbBbJBCDDBBBBBBBBBBBBBBB",
       "BBBBBBBBFBBCBCCbZbWBBBBBBBBBBBBBBBBBBBBBBBBBBBBBBBBBBJBBBBBBBBBBBBBBBBBBBBBBBBBBBBBBBB",
       "BBBBBBBBBBBBBBBBBBBBBCBBBBBBBBBBBBCBBBBBBBBBBBBBBBBBBBBBBBBBBBBBBBBBBBBBBBBBBBBBBBBBBB",
       "BBBBBBBBBBBBBBBBBBBBBBBBBBBBBBBBBBBBBBBBBBBBBbWbPehBbRBEbdGGdfUJBBeNhKcNBBBBBBBBBBBBBB",
       "BBBBBBBBBBBBBBBBBBBBBBBBBBBBBBBBBBBBBBBBBBBBBBBBBBBBBBBBBBBBBBBBBBBBBBBBBBBBBBBBBBBBBB",
       "BBBBBBBBBBBBBBBBBBBBBBBBBBBBBBBBBBBBBBBBBBBBBBBBJBBBBBBBBBBBBBBBBBBBBBBBBBBBBBBBBBBBBB",
       "BBBBBBBBBBBBBBBBBBBBBBBBBBBBBBBBBBBBBBBBBBBBBBBBBBBBBBBBBBBBJIGKIIIIGKIIIIOCIIIIIIFBCG",
       "BDDBCIECCIIKDBCeRBNBQNeFBDCDBbBBEBEBCCIEEBbHQEBbgLbActQbWBBDCBBBBBBEBBCBIDBBBBBBBBBBBB",
       "BBBBBBBBBBBBBBBBBBBBBBBBBBBBBBBBBBBBBBBBBBBBBBBBBBBBBBBBBBBBBBBBBBBBBBBBBBBBBBBBBBBBBB",
       "CHBBBEBMbMBBFBbtwDBBBBBBBBBBBBBBBBBBBBBBBBBBBBBBBBBBBBBBBBBBBBBTBBBBBBBBBBBBBBBBBBBBBB",
       "BBBBDfDBBBBBBBBBBBBDBBBBBBBBBBBBBBBBBBBBBBBBBBBBBBBBBBBBBBBBBBBBBBBBBBBBBBBBBBBBBKBBBB",
       "CBBBBBBBBBEBBBCBBDBBBBBBBBBBBBBBBBBBBBFBFBBBBBBBBBBBBBBBEBBBCBBBBBBBBBBBBBBBVEBBBDbfPb",
       "RBOGdCbeaIHMFboZbAbvHbOfGbKfZLBPBHBCrJBCDBbQBJbxLbZeVWegObGbgjWbGcHZbmjEbAbAHBSbAbAbAE",
       "BBBHBLbAbAbAbAbAbAbAbAbAbAbAbAbAbAbAbAbAbCbCZBGbAZBGbAZBGbAZBGbAZBGBBcsYKBUGGkBcKdhSbI"]),
    (["math"],
      ["bRBQDbFBbDBBBbTBEBbLBbFBbcADCBbACCDuHDjwNBbBDLBDBNBOEVFLFcNNEBDCEFSBEBCKBBCGGBDCCCBDBG",
       "DOBBcQYBGBCECEbGBBGCOkIIEUCdMBbEbBBBYBLHrDCMKEGECCCDFOBBBCGLIFCcFBBBbDEJDmYcMjWtSbWVCG",
       "dasQBbfRGBBgGBQDbDBBBbDBBBfBBGEfeFCcvgABbxVdHBcTBCCBCCCEBMBBBHBcNBECIBHBbCBEBFBBDHBnCC",
       "lGCbYiiQEBbBBCBBCBBKBEBBBBGBEBBBBBBDBCBBCBBBBBBBBBBCBBCEBHBEBEBBBKBRFDBFBRcACdtEJ"]),
    (["nchar", "noncharactercodepoint"],
      ["dsdCbGuGCdsyOCdsyOCdsyOCdsyOCdsyOCdsyOCdsyOCdsyOCdsyOCdsyOCdsyOCdsyOCdsyOCdsyOCdsyOCds",
       "yOC"]),
    (["patsyn", "patternsyntax"],
      ["bHPKHbAEBBbAEbIHBBBCBBBCEBEBDBXBbFBluEYIPCTBKlTbbSgEyGbEbrOtSeYoVDEZPBczqZCkBC"]),
    (["patws", "patternwhitespace"], ["JFSBdWBlyMCYC"]),
    (["qmark", "quotationmark"], ["bIBEBfBBPBlwUIZCfiDBrPENDdabPEhHBEBdMC"]),
    (["radical"], ["rpWbABdLMiG"]),
    (["ri", "regionalindicator"], ["hgoKbA"]),
    (["sterm", "sentenceterminal"],
      ["bHBMBQBcaBBfRDgYBbRDjMBcJBBBDClHCcpWCbeKBECbdTBhQCgBCbTBFBmCCnQEgGCKCCCbDDhFCcNCbjWBXC",
       "JDeuXDlUBNBWCqNBbshWBkKCiTBDBoSCdICdRBfWCfRDfOCjPBbfcWBCCcHBDCgNBMBQBcNBedWCbxDFbSEhHC",
       "eNEeXDeZCGBQCdKCBCeEBlMCeNCoJCFPeBCjPDtXBBBjRCdJCqECbaQCcWCbcmBCfDBcNCLBvHClKBbdoGBliM",
       "B"]),
    (["sd", "softdotted"],
      ["eBChOBkVBbEBcABUBmIBdUBBBjmNBbZBNBDBfCBgBBqFBiGCegGBgelHCbYCbYCbYCbYCbYCbYCbYCbYCbYCbY",
       "CbYCbYCdfYBlTCbAB"]),
    (["term", "terminalpunctuation"],
      ["bHBKBBBLCDBbfYBIBtTBcFBcUBOBBDgYBbRLBBjBCcCGBIbFBkBCbwUCgQBEGlZCbeJIbdTBeUDcTCgBDDBbNE",
       "CCmCCnQEgGCKCBDbDDhFFcKCbjWBXCJDeuXDlUBNBEBKBBCDCqMCbshVCkJDiTFoSCdICdRBfVDfRDeXBQCjPB",
       "bfcWBCCcFDBEgNBKBBBLCDBcNBCBbpQBbWBbsOBhRBlYCfWGcQGdLEbkQFbSEhHHeIEeXDeZCGBQCdKFeEBlMC",
       "eNDMCnUEDPeBCjPDtXBBBjRCdJCECpYDbTByVCcWCbyXFbamZCfDBcNDKBvHClJCbdoGBliLE"]),
    (["uideo", "unifiedideograph"],
      ["tsAjtOcMbfbKbicSCBBBCKBBBBCCDdveCclfCbGgmOCioCClbLPxYgrQhhZFmoO"]),
    (["upper", "uppercase"],
      ["cNbAdXXBHbHBBBBBBBBBBBBBBBBBBBBBBBBBBBBBBBBBBBBBBBBBBBBBBBBBBBBBBBCBBBBBBBBBBBBBBBCBBB",
       "BBBBBBBBBBBBBBBBBBBBBBBBBBBBBBBBBBBBBBBBBBBCBBBBDCBBBCBDCEBCBDDCBCBBBBBCBBCBBCBDBBBCDB",
       "HBCBCBCBBBBBBBBBBBBBBBCBBBBBBBBBBBBBBBBBCBCBBDBBBBBBBBBBBBBBBBBBBBBBBBBBBBBBBBBBBBBBBB",
       "BBBBBBBBBBBBBBBBBBHCBCCBBEBBBBBBBBlDBBBDBIBGBBDBBBCBRBJbJBCDDBBBBBBBBBBBBBBBBBBBBBBBFB",
       "CBBCCbZbWBBBBBBBBBBBBBBBBBBBBBBBBBBBBBBBBBJBBBBBBBBBBBBBBBBBBBBBBBBBBBBBBBBBBBBBBBBBBB",
       "BBBBBBBBBBBCBBBBBBBBBBBBCBBBBBBBBBBBBBBBBBBBBBBBBBBBBBBBBBBBBBBBBBBBBBBBBBBBBBBBBBBBBB",
       "BBBBBBBBBBBBBBBBBBBBBBBBBBBBBBBBBBCbMehDbMBBFBbbUdIdgLBGbRCDmIBBBBBBBBBBBBBBBBBBBBBBBB",
       "BBBBBBBBBBBBBBBBBBBBBBBBBBBBBBBBBBBBBBBBBBBBBBBBBBBBBBBBBBBBBBBBBBBBBBBBBBBBBBBBBBBBBB",
       "BBBBBBBBBBBBBBBBBBBBBBBBBBBBBBBBBBBBBBBJBBBBBBBBBBBBBBBBBBBBBBBBBBBBBBBBBBBBBBBBBBBBBB",
       "BBBBBBBBBBBBBBBBBBBBBBBBBBBBBBBBBBBBBBBBBBBBBBBBBBBJIIGKIIIIGLBBBBBBBIIcUEMEMEMFLEkCBE",
       "BDDCDCBDFGBBBBBBECEKCFBbAQTBbfMbAcsUbWbWBBDCBBBBBBEBBCBIDBBBBBBBBBBBBBBBBBBBBBBBBBBBBB",
       "BBBBBBBBBBBBBBBBBBBBBBBBBBBBBBBBBBBBBBBBBBBBBBBBBBBBBBBBBBBBBBBBBBBBBIBBBEBbtyJBBBBBBB",
       "BBBBBBBBBBBBBBBBBBBBBBBBBBBBBBBBBBBBBBTBBBBBBBBBBBBBBBBBBBBBBBBBBBfFBBBBBBBBBBBBBDBBBB",
       "BBBBBBBBBBBBBBBBBBBBBBBBBBBBBBBBBBBBBBBBBBBBBBBBBBBBBBBBBKBBBBCBBBBBBBBEBBBCBBBDBBBBBB",
       "BBBBBBBBBBBBBBFBFBBBBBBBBBBBBBBBEBBBCBBBBBBBBBBBBBBBBYBbhaHbAbuZbOfGbKgALBPBHBCcqCbZgB",
       "WegObGbgjWbGcMZbmjFbAbAbAbAbAbABBCCBCCCEBIbAbAbACBECIBHbBCBEBFBBDHbBbAbAbAbAbAbAbAbAbA",
       "bAbAbEZbHZbHZbHZbHZbHBgnLbIdbIbAGbAGbA"]),
    (["vs", "variationselector"], ["jcTDBBdjcAQbwnkYjG"]),
    (["space", "whitespace"], ["JFSBdWBbABihJBdpNLbDCFBbVBfxWB"]),
    (["xidc", "xidcontinue"],
      ["bWKHbAEBBbAbVBKBBBCBFXBbFBrQEMOFHBBBReNBCDDBBGFBBBUBdFBfJBFCgKBbMCBGbPIbTBBBCBCBBIbBEE",
       "bDLFcWEdYBICKBTCBQcHCdXOcCEBCBCbUSbCELFYBHHcXBeZCKBTBICCCWBHBBDECJCCCEIBECBFCMKBBBCDBG",
       "ECCWBHBCBCBCCBBFECCDDBHEBBHQLDBJBDBWBHBCBFCKBDBDCBPECKJHBDBICCCWBHBCBFCJCCCDHDECBFCKBB",
       "QCBGDDBEDCBBBCDCDDDMEFDDBECBGBOKQNBDBXBQCJBDBEHCBDBCCECKQEBIBDBXBKBFCJBDBEHCFDBECKBDMN",
       "BDBbZBDBFFEHFCKKGBDBSDYBJBBCHDBEGBBBIGKCCNcGFPBKbNCBBBFBYBBBXCFBBBHBKCEbGBXCGKLBBBBBEK",
       "BbKEUBSBbKJBcFcWGdACbMBBFBCbRBmVBECHBBBECbPBECbHBECHBBBECPBcFBECcPCDJJOQQdICGDxWCRBbAF",
       "cXDLHWJWLUMNBDBCMdGDBECCKbHDBLGdLHbRFcSKbFBMEMKbOCFLbSEbAGLbLbCEcLBbDCLGKNBIOBbFCMUcZD",
       "KRJMeMMcEIKDbXCLFbRCDQDBbNFuOCGCbMCGCIBBBBBBBbFCcBBHBBDDBHDECGENFDBHPCbXCTBbCBNBQNbZNE",
       "BDMRBEBCKBBCGGBBBBBBQCEFFEBRbPdzBiVGJMbMBBFBCcEHBPYJHBHBHBHBHBHBHBHBbGtXDZPBFCFEdICCCD",
       "BdRFbRBdQRbGbWQtSjtOcMbguFcPbUCkJDbCUbWEKBeLbLJCdZCdEUcDEBTcAMcSKKGYDBBbXCbKMbDDcNOLGb",
       "FBcDJOCKGXDcVYDCQCFKGCGCGJHBHBbRBOGeTBCCKGqnSMXEbXmnCoCCeCbMHMFFMBNBFBBBCBCBeEbHfJGiKS",
       "cMCcCbOKGQQQDCYDbHBBBDBBBBBBBBeWTKHbAEBBbAKdMDGCGCGCDbJMBbABTBCBPCObIeTcRcBfGBfAbDDbXP",
       "BbFbGNbEFbRFbECbKEIBFbQgCCKGbKEbKEbOIcAMLBPBHBCBLBPBHBCDcAMlZJWKIYGBbQBJcRGCBBbSBCDBCX",
       "KXJbFcNTBCKWKbAGbAbMcEGCcMEBCFIBDBbDCDEBbGbDDbDbJIBbEZcCKWKTNSeGcVcDbZNbZNbOIKGbMDFBXj",
       "QbQBCDCQGbYbJKBIbHbFWbQVbBXJcTbFQJcIHBNZHKGcBBKEEIbKCBJcREEBNBBbJSBbLGEcKHBBBEBPBKHcHF",
       "KGEBICCCWBHBCBFBKCCCDCBGBFHCHDFLKBBCBBbMBKBBCBBEBINCbDcXFKEEbEcSBBIKgKcCCJXGbIcNDBLKbM",
       "cFHKGUbCbBCPEKGHhDcHdXcWVICBCIBCBbEBCCJMKcSICbUCIBCbBcLIBIcWDBScVdZIdKbHPKGJBbTBJPKYbE",
       "CWBOcVHBCBbSDBBCBJIKGGBCBbLBCBGHKGbSEKjMXJRBbPDFNLdHBdBbjMdYeHRhOdxKdTPbpGQWKfxRFwLkdD",
       "cGcoSvXHbFBKGdBBKGbECFLcDJEMKJVFTqQbTDKhQcMbGZCZbScXEcFHRcMCBCLHJkxYbPbGdTeLmwREBHBCBl",
       "FPBbDDCBOEIpGdkUeDFNDJHKDCgeRKtYbUCXuWFDGIICHbEEfSDrBdHBcTBCCBCCCEBMBBBHBcNBECIBHBbCBE",
       "BFBBDHBnCCZBZBbFBZBbFBZBbFBZBbFBZBICbYtScDEbYIBOBWFBPbqMbFGGiFHBRCHBCBFFcKbHBeIbTDOCKE",
       "BmJbFRcGsCbQiGbRhPbFBWICiQHBEBCBPBhPLHbPcYEKbtUEBbBBCBBCBBKBEBBBBGBEBBBBBBDBCBBCBBBBBB",
       "BBBBCBBCEBHBEBEBBBKBRFDBFBRfaAKbnQclfCbGgmOCioCClbLPxYdqWuWcfYhhZFmoObogxYjG"]),
    (["xids", "xidstart"],
      ["cNbAGbAbVBKBEBFXBbFBrQEMOFHBBBeZFBCDDBBGBBDBBBUBdFBfJIgKBbMCBGbPcTbBEEbTbRbJCBdVBBPCHC",
       "KDCBQBBbEbDdLLBYbHJCEBFWEBJBDBXZHLFYBHQbQcGcCDBSBHKPQEICCCWBHBBDEDBQBNCBDOCKBIGECCWBHB",
       "CBCBCbFEBBTDQJBDBWBHBCBFDBSBPCXBLICCCWBHBCBFDBbECBDPBRBBGDDBEDCBBBCDCDDDMWBcAIBDBXBQDB",
       "bADBCCCbEBEIBDBXBKBFDBbEDBCPCRJBDBbPCBQBFDIDYGFSDYBJBBCHcGbWBBNHcGCBBBFBYBBBKBBKBCFBBV",
       "EbGBcLIBbKbBFeLbRUBQGEEDBDCHDENMBRbMBBFBCbRBmVBECHBBBECbPBECbHBECHBBBECPBcFBECcPbLQQdI",
       "CGDxWCRBbAFcXDLHSNTOSONBDPcAbJBEBcPdLHbPBBFcSKbFbXbECFLbSEbAcCXJcBdEBdPbVRIcCbENCKbSbA",
       "bKbPDKbKCLFbRCDbPEBGBCDBFhKcMkSCGCbMCGCIBBBBBBBbFCcBBHBBDDBHDECGENFDBHeMBNBQNdXBEBCKBB",
       "CGGBBBBBBQCEFFEBRbPdzBiVGEDCMbMBBFBCcEHBQXJHBHBHBHBHBHBHBHvEDZJHFCFEdIGDBdMBEFbRBdQRbG",
       "bWQtSjtOcMbguFcPbUCkJDQKCUbVQbFCdCbNJCdZCdEURBDBEBXbDcAObYcKGDBBCLbCKXZbDHbVbCBQFBKKFB",
       "bPXDBIUXDBDbYBBDCCFCBBBYDCLHDMGCGCGJHBHBbRBOGeLbDqnSMXEbXmnCoCCeCbMHMFFBBKBNBFBBBCBCBe",
       "EbHfJGiKScMCcCbOKePBBBDBBBBBBBBeWbKbAGbALcECbFDGCGCGCDbJMBbABTBCBPCObIeTcRcBkHbDDbXbVb",
       "GNbEFbMKbECbKEIBFbQgCSbKEbKEbOIcAMLBPBHBCBLBPBHBCDcAMlZJWKIYGBbQBJcRGCBBbSBCDBCXKXJbFc",
       "NTBCKWKbAGbAbMcEGCcMBPEBDBbDbQbDDbDbJIBbCbBcCKWKTNSeGcVcDbZNbZNbKbMbCJXjQbQGCQGcEbDKBI",
       "WbQSbUVbBXMcBcFCCBNbTbGZbAbKbDBCBIbJDBMbWOEVBBBbJSBZTCcLHBBBEBPBKHbVbMICCCWBHBCBFDBSBM",
       "FbEKBBCBBbMBBZBBBbScBSEUDbEbWUCBBhCbVbPEbKbWUBcHbRNBcTbBbLHhDbSeMcMbFICBCIBCBYPBBBdQIC",
       "bNQBBBbCBKbOHBVBLbUTBScVhRbHbFJBbLRBbXbEeIHBCBbMVBZGBCBbGOBXbSkATPBBNBbIeUBdBbjMdYeHRh",
       "OdxKdTPbpGRGZfxRFwLkdDbEcpUvXHbFRdBRbESbWQEbFVFTqQbTiDcMbGZCZbScXFBcONcMCBBOFJkxYbPbGd",
       "TeLmwREBHBCBlFPBbDDCBOEIpGdkUeDFNDJHKiwKdHBcTBCCBCCCEBMBBBHBcNBECIBHBbCBEBFBBDHBnCCZBZ",
       "BbFBZBbFBZBbFBZBbFBZBIcsYbFGGkBcKfQbTKHQBmJbESbSsQbCiUbECBhZbFBDBCBHCFJCiQHBEBCBPBhPcH",
       "cQHBbuIEBbBBCBBCBBKBEBBBBGBEBBBBBBDBCBBCBBBBBBBBBBCBBCEBHBEBEBBBKBRFDBFBRgoAclfCbGgmOC",
       "ioCClbLPxYdqWuWcfYhhZFmoO"]),
    (["bidim", "bidimirrored"],
      ["bOCSBBBbCBBBbDBBBbTBPBfmSEcuNCdqQCKCcCCOCgVBhKEDGDBDCDEBEBBBBEJFBBSFEJCBBBICbFCEFBJCCT",
       "FCJFCCEYCQIEUCHCbpTOcWBCEBCBDFEFDDOpNWCGBOIBHGDBEFBCCFEBBDCCKGCCMTBECBBBCBBEFCGDYCLCEE",
       "BCCCEbRCIBbOFBBBDFFDEBDFBBjWBtVEDCBCOCCKbRIqLKCIdacRGFCgGCSBBBbCBBBbDBBBBCBCddpNBcFBcF",
       "BcFBcFB"]),
    (["hyphen"], ["bTBeXBbvWBgzZBdbDCfiBBbcLBczuLBgNBdJB"]),
    (["pcm", "prependedconcatenationmark"], ["chCGiHBbXBoUCdCBdvxYBPB"])]

end FieldRules.Unicode
