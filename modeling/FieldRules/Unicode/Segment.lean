/-!
What characters are for the division of text into letters, words and sentences: for every value of
the three properties its names, folded to lower case without separators, and its characters as run
lengths.
-/

namespace FieldRules.Unicode

/-- What a character is to the letters of a text. -/
def letterParts : List (List String × List String) :=
  [(["cr"], ["NB"]),
    (["cn", "control"], ["AKBCBSdRbHNBcbMBguRBdaQBCCYHbXQdghJBjGMtuAQbzqUEhwXIbtkzLbGdSeYjGfiM"]),
    (["ex", "extend"],
      ["bdOeIkPHkDbTBBBCBCBBcULbWVQBdXHCGCCBEbJBbEbBdNLcGJJBYEBJBDBFbRDcIIbQYBbGcDBBBEIEBDHKCb",
       "DBcGBBBCEIBJBKCbABCCcFBECECCDDBbECDBLCcFBEFBCEBUCWGBBcGBBCBEIBHDKCbEBcHBBBMBJBbOBDBcDB",
       "BDFDBEHCLCbDBcGBCBCBDBFCHCLCbCCcFCBBCEIBJBKCbDBcUBEBCDBBIBdDBCHMIdUBCJLHcVCbBBBBBBcDOB",
       "FBCFLBbKJBdYEBGBCCCZCEDQENBCCGBPBbbBDbkKDbDCbECbECcMCBHIBCLJBbTDBBeNCbIBeODECJBGDiLCCB",
       "cGBBHBBBBCIGKCBbWbFbXEbWHBBFBbOJMCbGECCBDcEBBCDBBDcGICCfWDBNBHEBGBDChQcMuEBhNbHeoCDfLB",
       "dSbGvIGeBCbsqEEBKbGCdCCkMBDBEBZCFBfVCbASNBbMIZLbUDbWBCECCbNBcPGCCCCMBIBbVBbZBBDCCFCBBb",
       "QCIBjEBCBEBbdzSBbcJQQQoCCxHBiSBfTFcmGDBCFEbODEBgJCwBEoXCdCDcSLbXEeTBcCPbPBCCKDbXECCHBc",
       "JDbKFBIcKBMCcAJKECBdRDCBBCGBCBgBBDIVCcFCBBBBWBOHDFhNICDBBXBdDBCGBBCBBCBCjBBCEGCBCbBCdH",
       "ICBBCeCBBBCGBBdXDCEBFjZJBCjLBKCBBEBfOECCEBbGKbOGCEIBJGCDbUNBCpQHBGBBdEWCHBCBCeSGDBBCBH",
       "BBcUCDBBBnJCLCcAFFBBBhyRBGPurQFcHHboIBcLEdDBbdbKCgyZbUCXuWBBDEFIICHbEEfSDcyDcDEbYIBOBW",
       "FBPcaIHBRCHBCBFdWBgEHoLBcJEtOEbmEHeFHebGFbsxyUdSeYjG"]),
    (["l"], ["glKdScfoQbD"]),
    (["lf"], ["KB"]),
    (["lv"],
      ["cndOBbBBbBBbBBbBBbBBbBBbBBbBBbBBbBBbBBbBBbBBbBBbBBbBBbBBbBBbBBbBBbBBbBBbBBbBBbBBbBBbBB",
       "bBBbBBbBBbBBbBBbBBbBBbBBbBBbBBbBBbBBbBBbBBbBBbBBbBBbBBbBBbBBbBBbBBbBBbBBbBBbBBbBBbBBbB",
       "BbBBbBBbBBbBBbBBbBBbBBbBBbBBbBBbBBbBBbBBbBBbBBbBBbBBbBBbBBbBBbBBbBBbBBbBBbBBbBBbBBbBBb",
       "BBbBBbBBbBBbBBbBBbBBbBBbBBbBBbBBbBBbBBbBBbBBbBBbBBbBBbBBbBBbBBbBBbBBbBBbBBbBBbBBbBBbBB",
       "bBBbBBbBBbBBbBBbBBbBBbBBbBBbBBbBBbBBbBBbBBbBBbBBbBBbBBbBBbBBbBBbBBbBBbBBbBBbBBbBBbBBbB",
       "BbBBbBBbBBbBBbBBbBBbBBbBBbBBbBBbBBbBBbBBbBBbBBbBBbBBbBBbBBbBBbBBbBBbBBbBBbBBbBBbBBbBBb",
       "BBbBBbBBbBBbBBbBBbBBbBBbBBbBBbBBbBBbBBbBBbBBbBBbBBbBBbBBbBBbBBbBBbBBbBBbBBbBBbBBbBBbBB",
       "bBBbBBbBBbBBbBBbBBbBBbBBbBBbBBbBBbBBbBBbBBbBBbBBbBBbBBbBBbBBbBBbBBbBBbBBbBBbBBbBBbBBbB",
       "BbBBbBBbBBbBBbBBbBBbBBbBBbBBbBBbBBbBBbBBbBBbBBbBBbBBbBBbBBbBBbBBbBBbBBbBBbBBbBBbBBbBBb",
       "BBbBBbBBbBBbBBbBBbBBbBBbBBbBBbBBbBBbBBbBBbBBbBBbBBbBBbBBbBBbBBbBBbBBbBBbBBbBBbBBbBBbBB",
       "bBBbBBbBBbBBbBBbBBbBBbBBbBBbBBbBBbBBbBBbBBbBBbBBbBBbBBbBBbBBbBBbBBbBBbBBbBBbBBbBBbBBbB",
       "BbBBbBBbBBbBBbBBbBBbBBbBBbBBbBBbBBbBBbBBbBBbBBbBBbBBbBBbBBbBBbBBbBBbBBbBBbBBbBBbBBbBBb",
       "BBbBBbBBbBBbBBbBBbBBbBBbBBbBBbBBbBBbBBbBBbBBbBBbBBbBBbBBbBBbBBbBBbBBbBBbBBbBBbBBbBBbBB",
       "bBBbBBbBBbBBbBBbBBbBBbBBbBBbBBbBBbBBbBBbBBbBBbBBbBBbBBbBBbBBbBBbBBbBBbBBbBBbBBbBB"]),
    (["lvt"],
      ["cndPbBBbBBbBBbBBbBBbBBbBBbBBbBBbBBbBBbBBbBBbBBbBBbBBbBBbBBbBBbBBbBBbBBbBBbBBbBBbBBbBBb",
       "BBbBBbBBbBBbBBbBBbBBbBBbBBbBBbBBbBBbBBbBBbBBbBBbBBbBBbBBbBBbBBbBBbBBbBBbBBbBBbBBbBBbBB",
       "bBBbBBbBBbBBbBBbBBbBBbBBbBBbBBbBBbBBbBBbBBbBBbBBbBBbBBbBBbBBbBBbBBbBBbBBbBBbBBbBBbBBbB",
       "BbBBbBBbBBbBBbBBbBBbBBbBBbBBbBBbBBbBBbBBbBBbBBbBBbBBbBBbBBbBBbBBbBBbBBbBBbBBbBBbBBbBBb",
       "BBbBBbBBbBBbBBbBBbBBbBBbBBbBBbBBbBBbBBbBBbBBbBBbBBbBBbBBbBBbBBbBBbBBbBBbBBbBBbBBbBBbBB",
       "bBBbBBbBBbBBbBBbBBbBBbBBbBBbBBbBBbBBbBBbBBbBBbBBbBBbBBbBBbBBbBBbBBbBBbBBbBBbBBbBBbBBbB",
       "BbBBbBBbBBbBBbBBbBBbBBbBBbBBbBBbBBbBBbBBbBBbBBbBBbBBbBBbBBbBBbBBbBBbBBbBBbBBbBBbBBbBBb",
       "BBbBBbBBbBBbBBbBBbBBbBBbBBbBBbBBbBBbBBbBBbBBbBBbBBbBBbBBbBBbBBbBBbBBbBBbBBbBBbBBbBBbBB",
       "bBBbBBbBBbBBbBBbBBbBBbBBbBBbBBbBBbBBbBBbBBbBBbBBbBBbBBbBBbBBbBBbBBbBBbBBbBBbBBbBBbBBbB",
       "BbBBbBBbBBbBBbBBbBBbBBbBBbBBbBBbBBbBBbBBbBBbBBbBBbBBbBBbBBbBBbBBbBBbBBbBBbBBbBBbBBbBBb",
       "BBbBBbBBbBBbBBbBBbBBbBBbBBbBBbBBbBBbBBbBBbBBbBBbBBbBBbBBbBBbBBbBBbBBbBBbBBbBBbBBbBBbBB",
       "bBBbBBbBBbBBbBBbBBbBBbBBbBBbBBbBBbBBbBBbBBbBBbBBbBBbBBbBBbBBbBBbBBbBBbBBbBBbBBbBBbBBbB",
       "BbBBbBBbBBbBBbBBbBBbBBbBBbBBbBBbBBbBBbBBbBBbBBbBBbBBbBBbBBbBBbBBbBBbBBbBBbBBbBBbBBbBBb",
       "BBbBBbBBbBBbBBbBBbBBbBBbBBbBBbBBbBBbBBbBBbBBbBBbBBbBBbBBbBBbBBbBBbBBbBBbBBbBBbBBbB"]),
    (["pp", "prepend"], ["chCGiHBbXBoUCdCBbrNBdugKBPBjKCcvRBBBjOBcVGbaYBrBB"]),
    (["ri", "regionalindicator"], ["hgoKbA"]),
    (["sm", "spacingmark"],
      ["dkTBcDBCDIEBCbYCcHCGCCCcCBcGDcOBcGDIBBCcBCcIBGCCCeKBBCDDBDcADcJEcJCcGBBCBCCCBCbNBOCcHC",
       "FDBDcBCcYCGHTCcLBeXBfICcLBgVBJCZCbSBcmQBbEBeZBHIBCnIECDECBGiQCcGBBBVGfPBcCBBFBCcJBbEBE",
       "CCBcIBCDBBDCbWIICgPBVBcasHCCBdKCbYQfMCbVBbWCECCDeGCCCYBgBBCCFBjDCBCBCBBblxJBBBeXBbTDEC",
       "eLBYCcHBbWDJCNBdPDDCBBgODbFCcHBBECCCDUCiBDICDBeDCGBBCBBCBjECGECBeJDICBBeFBBCGBeHBkBDJB",
       "jOFBCEBCBBBfMDIEEBdGBbDCcKBpRBOBeCBHBCBiFFECBBnMCMBbWCICBBbeiHcDeACbkxOBGB"]),
    (["t"], ["grWdKcwxNbX"]),
    (["v"], ["gpCcUcwzWX"]),
    (["zwj"], ["mdPB"])]

/-- What a character is to the words of a text. -/
def wordParts : List (List String × List String) :=
  [(["le", "aletter"],
      ["cNbAGbAbVBKBEBFXBbFBsMGbIeIFBCCEBBGBBDBBBUBdFBfJIgKBbMCEBBBbPBBeABbSbRbJCBdVBBPCHCKDCB",
       "QBBbEbDdLLBYbHJCEBFWEBJBDBXZHLFYBGRbQcGcCDBSBHKPQEICCCWBHBBDEDBQBNCBDOCKBIGECCWBHBCBCB",
       "CbFEBBTDQJBDBWBHBCBFDBSBPCXBLICCCWBHBCBFDBbECBDPBRBBGDDBEDCBBBCDCDDDMWBcAIBDBXBQDBbADC",
       "BCCbEBEIBDBXBKBFDBbFCBCPCRJBDBbPCBQBFDIDYGFSDYBJBBCHmBBcLIBbKbBFkPbMBBFBCbRBmVBECHBBBE",
       "CbPBECbHBECHBBBECPBcFBECcPbLQQdICGDxWCRBbAFcXDLHSNTOSONBDgTdLHFCbIBBFcSKbFiRXjEbVRIcCb",
       "ENCKbSbAbKbPDKbKCJHbRCDbPEBGBCDBFhKcMkSCGCbMCGCIBBBBBBBbFCcBBHBBDDBHDECGENFDBHeMBNBQNd",
       "XBEBCKBBDFGBBBBBBEBLCEFFEBRbPbfHcAcrUiVGEDCMbMBBFBCcEHBQXJHBHBHBHBHBHBHBHdCBsBBcBChSbR",
       "BdQRbGbptObsVcPbUCkJDQKCUbVQbFCdCYhNFCBBBFYQBDBEBXbDcAObYcKGDBBCLbCKXZbDHbVbCBbWbPXDBI",
       "fSLHDMGCGCGJHBHBcGGeLbDqnSMXEbXngUHMFcEdUbHnZScMCcCbOMeMFBfFbKbAGbAcRbFDGCGCGCDbJMBbAB",
       "TBCBPCObIeTcRcBkHbDDbXbVbGNbEFbMKbECbKEIBFbQgCSbKEbKEbOIcAMLBPBHBCBLBPBHBCcPlZJWKIYGBb",
       "QBJcRGCBBbSBCDBCXKXJbFcNTBCKWKbAcScEGCcMBPEBDBbDbQbDDbDbJIBbCbBcCKWKTNSeGcVcDbZNbZNbKn",
       "KbQGCdAbDKBIWbQSbUVbBXMcBcFCCBNbTbGZbAbKbDBCBIbJDBMbWOEVBBBbJSBZTCcLHBBBEBPBKHbVbMICCC",
       "WBHBCBFDBSBMFgCcBSEUDbEbWUCBBhCbVbPEbKbWUBcHbRNBmPbSeMcMbFICBCIBCBYPBBBdQICbNQBBBbCBKb",
       "OHBVBLbUTBScVkDJBbLRBbXbEeIHBCBbMVBZGBCBbGOBmPTPBBNBbIeUBdBbjMdYeHRhOdxKdTPbpGRGfyVwLm",
       "uBvXHbFRdBRbESbWQEbFVFTbaMcMeYcXFBcONcMCBBbcvKeDFNDJHKiwKdHBcTBCCBCCCEBMBBBHBcNBECIBHB",
       "bCBEBFBBDHBnCCZBZBbFBZBbFBZBbFBZBbFBZBIcsYbFGGkBcKfQbTKHQBmJbESbSsQbCbdCHBEBCBPBhPcHcQ",
       "HBbuIEBbBBCBBCBBKBEBBBBGBEBBBBBBDBCBBCBBBBBBBBBBCBBCEBHBEBEBBBKBRFDBFBRyEbAGbAGbA"]),
    (["cr"], ["NB"]),
    (["dq", "doublequote"], ["bIB"]),
    (["extend"],
      ["bdOeIkPHkDbTBBBCBCBBcULbWVQBdXHCGCCBEbJBbEbBdNLcGJJBYEBJBDBFbRDcIIbQYBbHcCDBSBHKCbDDcE",
       "BBHCCCDJBKCbABCDcEBBFECCDDBbECDBLDcEBBIBDBDUCWGBDcEBBHCCCDHDKCbEBcHFDDBEJBbOFcDBBHBDBE",
       "HCLCbDDcEBBHBDBEHCLCPBMEcDCBHBDBEJBKCbDDcSBEGBBBISCcJBCHMIdUBCJLHcVCbBBBBBBECbXUBCFLBb",
       "KJBdWUXEEDBDCHDENMBBKEbbBDbkKEbCDbDCbECcMbGJBbTDBBeNCbIBeOMEMiLFcFKBbDCBbWbFbXFbVRbMJM",
       "DbENcEObWUfWDBVEBGBCDhQcMuEBhNbHeoCDfLBdSbGvIGeBCbsqEEBKbGCdCCkMBDBEBXFEBdFCbYSbASNBbM",
       "IZNbSEbVObKBcPOMBICbTDbYBBDCCFCBBbPFFCjCIBCbdzSBbcJQQQoCCxHBiSBfTFcmGDBCFEbODEBgJCwBEo",
       "XCdCDcSLbXEeSDcBPbPBCCKEbTLHBcJDbKOQCbSBMDbWOIEBCdOMGBCBgBMVEcDCBHCCCDJBKCCHDFhKSXBdDU",
       "jBHCJbBCdEReCNdXPjWPjLGBCCEBBBCfLHCHDBbCKbOHBEIBJLbUQpPIBIdEWBOeSGDBBCBHBBcOFBCBFnJEJC",
       "BBbWHDFhyRBGPurQFcHHboIBBcDHEdDBLCbdaXCgyZbUCXuWFDGIICHbEEfSDcyDcDEbYIBOBWFBPcaIHBRCHB",
       "CBFdWBgEHoLBcJEtOEbmEHeFHebGFbsxyUdSeYjG"]),
    (["ex", "extendnumlet"], ["dRBmbFBPCTBdgaOCYDjFB"]),
    (["fo", "format"],
      ["gRBcaKGWBhKBbXBoUCdCBftJBdaTCbAFbXFBKdghJBjPDgiZBPBnkKQbzqUEhwXIbtkzMB"]),
    (["hl", "hebrewletter"], ["cfGbBEEdovYBBKBNBFBBBCBCBK"]),
    (["ka", "katakana"], ["sgNFdXCDdNBEjGQiAbVBdKczhEcEcouCEBHBCBBlBDbYBOE"]),
    (["lf"], ["KB"]),
    (["ml", "midletter"], ["cGBeUBbbRBsDBfSBjxYBdgbBBcNBhOB"]),
    (["mn", "midnum"], ["bSBOBbgCBuCBfACdQBpFBjfFBdfzVBDBcHBDBhBBOB"]),
    (["mb", "midnumlet"], ["bUBmcFCKBdgdPBgYBGB"]),
    (["nl", "newline"], ["LCeQBlzMC"]),
    (["nu", "numeric"],
      ["bWKciOKBBfCKhQKpWKeOKeOKeOKeOKeOKeOKeOKeOKeOKdSKeOKcSKkSKcSKctQKbMKlOKeYKgKKGKhAKdIKfE",
       "KGKcaeOKbaCKbMKhQKWKdIKpQKbfmCKccKKdfYKbfGKeYKcIKfOKkSKnEKeOKoKKdYKdYKqGKdYKbdEKjMKcSK",
       "qGKbckSKdIKfEKbpbWbYdnCKqGKtIKbqSKhbAK"]),
    (["ri", "regionalindicator"], ["hgoKbA"]),
    (["sq", "singlequote"], ["bNB"]),
    (["zwj"], ["mdPB"]),
    (["wsegspace"], ["bGBimHBdpNHBDdGBfxWB"])]

/-- What a character is to the sentences of a text. -/
def sentenceParts : List (List String × List String) :=
  [(["at", "aterm"], ["bUBmcRBdgdPBhFB"]),
    (["cr"], ["NB"]),
    (["cl", "close"],
      ["bIBEDbXBBBbDBBBbTBPBfmSEcuNCdpJIZCKCcCCOCyJEbDCbpGGHOdBCbFKpNWcLEbGCbnMOOCCKYBSIqLKCIB",
       "DczrQCiHCbCQCCQGgNCbXBBBbDBBBBCBCdpoSD"]),
    (["ex", "extend"],
      ["bdOeIkPHkDbTBBBCBCBBcULbWVQBdXHCGCCBEbJBbEbBdNLcGJJBYEBJBDBFbRDcIIbQYBbHcCDBSBHKCbDDcE",
       "BBHCCCDJBKCbABCDcEBBFECCDDBbECDBLDcEBBIBDBDUCWGBDcEBBHCCCDHDKCbEBcHFDDBEJBbOFcDBBHBDBE",
       "HCLCbDDcEBBHBDBEHCLCPBMEcDCBHBDBEJBKCbDDcSBEGBBBISCcJBCHMIdUBCJLHcVCbBBBBBBECbXUBCFLBb",
       "KJBdWUXEEDBDCHDENMBBKEbbBDbkKEbCDbDCbECcMbGJBbTDBBeNCbIBeOMEMiLFcFKBbDCBbWbFbXFbVRbMJM",
       "DbENcEObWUfWDBVEBGBCDhQcMuEChMbHeoCDfLBdSbGvIGeBCbsqEEBKbGCdCCkMBDBEBXFEBdFCbYSbASNBbM",
       "IZNbSEbVObKBcPOMBICbTDbYBBDCCFCBBbPFFCjCIBCbdzSBbcJQQQoCCxHBiSBfTFcmGDBCFEbODEBgJCwBEo",
       "XCdCDcSLbXEeSDcBPbPBCCKEbTLHBcJDbKOQCbSBMDbWOIEBCdOMGBCBgBMVEcDCBHCCCDJBKCCHDFhKSXBdDU",
       "jBHCJbBCdEReCNdXPjWPjLGBCCEBBBCfLHCHDBbCKbOHBEIBJLbUQpPIBIdEWBOeSGDBBCBHBBcOFBCBFnJEJC",
       "BBbWHDFhyRBGPurQFcHHboIBBcDHEdDBLCbdaXCgyZbUCXuWFDGIICHbEEfSDcyDcDEbYIBOBWFBPcaIHBRCHB",
       "CBFdWBgEHoLBcJEtOEbmEHeFHbtcaFdSeYjG"]),
    (["fo", "format"],
      ["gRBcaKGWBhKBbXBoUCdCBftJBdaQBCCbAFbXFBKdghJBjPDgiZBPBnkKQbzqUEhwXIbtkzMB"]),
    (["lf"], ["KB"]),
    (["lo", "lower"],
      ["dTbAbVBKBEBbKYBIBBBBBBBBBBBBBBBBBBBBBBBBBBBBBBBBBBBBBBBBBBBBBBBBBBBBBBBCBBBBBBBBBBBBBB",
       "BCBBBBBBBBBBBBBBBBBBBBBBBBBBBBBBBBBBBBBBBBBBBBBBCBBBBDCBBBCBDCEBCBDDCBCBBBBBCBBCBBCBDB",
       "BBCCCDGBCBCBBBBBBBBBBBBBBBBCBBBBBBBBBBBBBBBBBCCBBBDBBBBBBBBBBBBBBBBBBBBBBBBBBBBBBBBBBB",
       "BBBBBBBBBBBBBBBBBBBBBBBHCBCCBBEBBBBBBBBcRBbKHCbEFfKBBBDBCESBbBbJBCDDBBBBBBBBBBBBBBBBBB",
       "BBBBBFBBCBCCbZbWBBBBBBBBBBBBBBBBBBBBBBBBBBBBBBBBBBJBBBBBBBBBBBBBBBBBBBBBBBBBBBBBBBBBBB",
       "BBBBBBBBBBBBBBBBBBCBBBBBBBBBBBBCBBBBBBBBBBBBBBBBBBBBBBBBBBBBBBBBBBBBBBBBBBBBBBBBBBBBBB",
       "BBBBBBBBBBBBBBBBBBBBBBBBBBBBBBBBBBBBBBBBBBbWbPeiTBbdJGdfUJePhKcNBBBBBBBBBBBBBBBBBBBBBB",
       "BBBBBBBBBBBBBBBBBBBBBBBBBBBBBBBBBBBBBBBBBBBBBBBBBBBBBBBBBBBBBBBBBBBBBBBBBBBBBBBBBBBBBB",
       "BBBBBBBBBBBBBBBBBBBBBBBBBBBBBBBBBBBBBBBBJBBBBBBBBBBBBBBBBBBBBBBBBBBBBBBBBBBBBBBBBBBBBB",
       "BBBBBBBBBBBBBBBBBBBBBBBBBBBBBBBBBBBBBBBBBBBBBBBBBBBBJIGKIIIIGKIIIIOCIIIIIIFBCGBDDBCIEC",
       "CIIKDBCeRBNBQNeFBDCDBbBBEBEBCCIEEBbHQEBbgLbActQbWBBDCBBBBBBEBBCBIDBBBBBBBBBBBBBBBBBBBB",
       "BBBBBBBBBBBBBBBBBBBBBBBBBBBBBBBBBBBBBBBBBBBBBBBBBBBBBBBBBBBBBBBBBBBBBBBBBBBBBBCHBBBEBM",
       "bMBBFBbtwDBBBBBBBBBBBBBBBBBBBBBBBBBBBBBBBBBBBBBBBBBBBBBTBBBBBBBBBBBBBBBBBBBBBBBBBBDfDB",
       "BBBBBBBBBBBDBBBBBBBBBBBBBBBBBBBBBBBBBBBBBBBBBBBBBBBBBBBBBBBBBBBBBBBBBBBBBKBBBBCBBBBBBB",
       "BBEBBBCBBDBBBBBBBBBBBBBBBBBBBBFBFBBBBBBBBBBBBBBBEBBBGBBBBBBBBBYDBBBDbfPbRBOGdCbeaIHMFb",
       "oZbAbvHbOfGbKfZLBPBHBCrJBCDBbQBJbxLbZemFbGbgjWbGbmmKbAbAHBSbAbAbAEBBBHBLbAbAbAbAbAbAbA",
       "bAbAbAbAbAbAbAbAbAbAbCbCZBGbAZBGbAZBGbAZBGbAZBGBBcsYKBUGGkBcKdhSbI"]),
    (["nu", "numeric"],
      ["bWKciOKBCfBKhQKpWKeOKeOKeOKeOKeOKeOKeOKeOKeOKdSKeOKcSKkSKcSKctQKbMKlOKeYKgKKGKhAKdIKfE",
       "KGKcaeOKbaCKbMKhQKWKdIKpQKbfmCKccKKdfYKbfGKeYKcIKfOKkSKnEKeOKoKKdYKdYKqGKdYKbdEKjMKcSK",
       "qGKbckSKdIKfEKbpbWbYdnCKqGKtIKbqSKhbAK"]),
    (["le", "oletter"],
      ["rBBEEiABbKHGMbABBBfDBsQBeObBEFbSbRbJCBdVBBPCHCKDCBQBBbEbDdLLBYbHJCEBFWEBJBDBXZHLFYBGRb",
       "QcGcCDBSBHKPQEICCCWBHBBDEDBQBNCBDOCKBIGECCWBHBCBCBCbFEBBTDQJBDBWBHBCBFDBSBPCXBLICCCWBH",
       "BCBFDBbECBDPBRBBGDDBEDCBBBCDCDDDMWBcAIBDBXBQDBbADCBCCbEBEIBDBXBKBFDBbFCBCPCRJBDBbPCBQB",
       "FDIDYGFSDYBJBBCHcGbWBCMHcGCBBBFBYBBBKBCJBCFBBVEbGBcLIBbKbBFeLbRUBQGEEDBDCHDENMBcNbRCmU",
       "BECHBBBECbPBECbHBECHBBBECPBcFBECcPbLQeJxWCRBbAFcXDLHSNTOSONBDPcAbJBEBcPdLHFCbIBBFcSKbF",
       "bXbECFLbSEbAcCXJcBdEBdPbVRIcCbENCKbSbAbKbPDKbKSbRCDbPEBGBCDBbpQEcTDCEekTcEHBQXJHBHBHBH",
       "BHBHBHBHdCBsBDZJHFCFEdIGDBdMBEFbRBdQRbGbWQtSjtOcMbguFcPbUCkJDQKCcOBQBbGdCbNJeABGBdZBDH",
       "BDBEBXbDcAObYcKGDBBCLbCKXZbDHbVbCBQFBKKFBbPXDBIUXDBDbYBBDCCFCBBBYDCLHDMGCGCGJHBHfPbJbD",
       "qnSMXEbXmnCoCCeCcPBBKBNBFBBBCBCBeEbHnZScMCcCbOMeMFBfFeBcECbFDGCGCGCDbJMBbABTBCBPCObIeT",
       "cRcBkHbDDbXbVbGNbEFbMKbECbKEIBFeSdAdUbOIcAgAlZJWKIZCeVGCBBbSBCDBCXKXJbFcNTBCKWKbAcScEG",
       "CcMBPEBDBbDbQbDDbDbJIBbCbBcCKWKTNSeGcVhBbKnKbQGCdAbDKBIWbQSbUVbBXMcBcFCCBNbTbGZbAbKbDB",
       "CBIbJDBMbWOEVBBBbJSBZTCcLHBBBEBPBKHbVbMICCCWBHBCBFDBSBMFgCcBSEUDbEbWUCBBhCbVbPEbKbWUBc",
       "HbRNBcTbBbLHhDbSiDICBCIBCBYPBBBdQICbNQBBBbCBKbOHBVBLbUTBScVkDJBbLRBbXbEeIHBCBbMVBZGBCB",
       "bGOBmPTPBBNBbIeUBdBbjMdYeHRhOdxKdTPbpGRGfyVwLmuBvXHbFRdBRbESbWQEbFVFTbhWcXFBcONcMCBBbC",
       "jcAIbvQbQJnfREBHBCBlFPBbDDCBOEIpGdkUeDFNDJHKnbCBtHbTKHQBmJbESbSsQbCbdCHBEBCBPBhPfEBbuI",
       "EBbBBCBBCBBKBEBBBBGBEBBBBBBDBCBBCBBBBBBBBBBCBBCEBHBEBEBBBKBRFDBFBRgoAclfCbGgdUGiOCinQO",
       "lbLepJuWcfYhhZFgfG"]),
    (["sc", "scontinue"], ["bSCMBbyOBgSCsWBgbXBFBdbECgaUBdaaWCBBbDCbDCDBCBKBgMCMBcVB"]),
    (["st", "sterm"],
      ["bHBbDBcaBBfRDgYBbRDjMBcJBBBDClHCcpWCbeKBECbdTBhQChWBFBmCCnQEgSCCCbDChGCcNCbkUCJDfgUBNB",
       "WCqNBbshWBkKCiTBDBoSCdICdRBfWCfRDfOCjPBbffMCgNBbDBcNBedWCbxDFbSEhHCeNEeXDeZCGBQCdKCBCe",
       "EBqBCoJCFPeBCjPDtXBBBjRCdJCqECbaQCcWCbcmBCfDBcNCLBbgTBbdoGBliMB"]),
    (["se", "sep"], ["fDBlzMC"]),
    (["sp"], ["JBBCTBeXBihJBdpNLbKBbVBfxWB"]),
    (["up", "upper"],
      ["cNbAdXXBHbHBBBBBBBBBBBBBBBBBBBBBBBBBBBBBBBBBBBBBBBBBBBBBBBBBBBBBBBCBBBBBBBBBBBBBBBCBBB",
       "BBBBBBBBBBBBBBBBBBBBBBBBBBBBBBBBBBBBBBBBBBBCBBBBDCBBBCBDCEBCBDDCBCBBBBBCBBCBBCBDBBBCDB",
       "HCBCBCBBBBBBBBBBBBBBBBCBBBBBBBBBBBBBBBBBCCBBBDBBBBBBBBBBBBBBBBBBBBBBBBBBBBBBBBBBBBBBBB",
       "BBBBBBBBBBBBBBBBBBHCBCCBBEBBBBBBBBlDBBBDBIBGBBDBBBCBRBJbJBCDDBBBBBBBBBBBBBBBBBBBBBBBFB",
       "CBBCCbZbWBBBBBBBBBBBBBBBBBBBBBBBBBBBBBBBBBJBBBBBBBBBBBBBBBBBBBBBBBBBBBBBBBBBBBBBBBBBBB",
       "BBBBBBBBBBBCBBBBBBBBBBBBCBBBBBBBBBBBBBBBBBBBBBBBBBBBBBBBBBBBBBBBBBBBBBBBBBBBBBBBBBBBBB",
       "BBBBBBBBBBBBBBBBBBBBBBBBBBBBBBBBBBCbMehDbMBBFBbbUdIduWBBBBBBBBBBBBBBBBBBBBBBBBBBBBBBBB",
       "BBBBBBBBBBBBBBBBBBBBBBBBBBBBBBBBBBBBBBBBBBBBBBBBBBBBBBBBBBBBBBBBBBBBBBBBBBBBBBBBBBBBBB",
       "BBBBBBBBBBBBBBBBBBBBBBBBBBBBBBBJBBBBBBBBBBBBBBBBBBBBBBBBBBBBBBBBBBBBBBBBBBBBBBBBBBBBBB",
       "BBBBBBBBBBBBBBBBBBBBBBBBBBBBBBBBBBBBBBBBBBBJIIGKIIIIGLBBBBBBBIIYIIIIIIFLFLEMFLFkBBEBDD",
       "CDCBDFGBBBBBBECEKCFBbAQTBbfMbAcsUbWbWBBDCBBBBBBEBBCBIDBBBBBBBBBBBBBBBBBBBBBBBBBBBBBBBB",
       "BBBBBBBBBBBBBBBBBBBBBBBBBBBBBBBBBBBBBBBBBBBBBBBBBBBBBBBBBBBBBBBBBBIBBBEBbtyJBBBBBBBBBB",
       "BBBBBBBBBBBBBBBBBBBBBBBBBBBBBBBBBBBTBBBBBBBBBBBBBBBBBBBBBBBBBBBfFBBBBBBBBBBBBBDBBBBBBB",
       "BBBBBBBBBBBBBBBBBBBBBBBBBBBBBBBBBBBBBBBBBBBBBBBBBBBBBBKBBBBCBBBBBBBBEBBBCBBBDBBBBBBBBB",
       "BBBBBBBBBBBFBFBBBBBBBBBBBBBBBEBBGBFBBBbCBbhaHbAbuZbOfGbKgALBPBHBCcqCbZenLbGbgjWbGbmmQb",
       "AbAbAbAbAbABBCCBCCCEBIbAbAbACBECIBHbBCBEBFBBDHbBbAbAbAbAbAbAbAbAbAbAbAbEZbHZbHZbHZbHZb",
       "HBgnLbIdbIbAGbAGbA"])]

end FieldRules.Unicode
