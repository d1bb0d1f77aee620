/-!
Ages: for every version of the character set, in order, its names and the characters that it added,
as run lengths.
-/

namespace FieldRules.Unicode

/-- The characters that each version added. -/
def ages : List (List String × List String) :=
  [(["1.1", "v11"],
      ["AtIEbEcEdLHbVBKWcSbACSCEBDBFHBBBUBbSBHDBBBBBBBBSNMBcOBMBbPJcBCCCCDbCCICCcDbMCHBbNBBbMK",
       "BJMbBFFXBOBDBBbAFTNOCcUCFBPBbECKtZDBcBCSCFDZQDBICCCWBHBBDECBBHCCCDJBECBFCVHBCGECCWBHBC",
       "BCBCCBBFECCDLEBBHPMDBHBBBDBWBHBCBFCKBDBDCBPBFKRDBICCCWBHBCCECIDCCDICECBDELRCBGDDBEDCBB",
       "BCDCDDDIBDEFDDBEJBPMODBIBDBXBKBFEHBDBEHCJCEKSCBIBDBXBKBFEHBDBEHCHBBCEKSCBIBDBXBQEGCDBE",
       "JBICEKfPcGEbDbLCBBCCBBCBGEBHBDBBBBCCBNBDCFBBBGCKCCrIbMKbNEBEdMFcQFdEeoKfZFdMGWCGCbMCGC",
       "IBBBBBBBbFCcBBPBOCGBTCDBJBbVBXbJHDbBRLbLSbEcFbAbWNdNVjIOBBeRfDbLbBLVfJVfUKdCQUGdIfPEBE",
       "CbCBbJBBBEDBBHCHObFDYBOddHcEHBBdGEGCdQGbOEdQBQdSbDDbKbCbCDbYPMEbVBePEdVCbFjwBbexYyjQjx",
       "UiCHMFGZBFBBBCBCBeEbHoBQcMCcCbOMbKEMVEKBTBEEDBBBfFCBBdQCdQDGCGCGCDDHBHOD"]),
    (["2.0", "v20"],
      ["ccVRBNUBdmXcUBbHHbBEGBBBVDHBBfqNBuHBcatWqnSeifYCdsyOCdsyOCdsyOCdsyOCdsyOCdsyOCdsyOCdsy",
       "OCdsyOCdsyOCdsyOCdsyOCdsyOhlxI"]),
    (["2.1", "v21"], ["mjSBdgoTB"]),
    (["3.0", "v30"],
      ["tIEbEICSeNFbXBKFdJJTBeMBDBBBBBBBbEBMBcOBMBbQCCEdOCgABhSDdUCFBPBbQFBOBbEDbBcBbXcfHCBSDY",
       "BJBBCHDBEGBBBISDoJBbRBXDHBBDBPCBbWbIBFBCBHDEGbAqGHBcLBBBECHBBBECbNBBBECbFBBBECHBBBECHB",
       "HBXBbFBBBECHBbNBTGbCbJdHMyGJbDDdDfNdPDKWPBKGdKIbQcwBBYGdRDbYCdHCcUBdZJkJBeRBBbEfICrPIb",
       "HBdICpIjWccEbABdLMiGbAMcIDDBnPYwMjtEbfeGbsVDSCQBMBDBBbgsCBbvVD"]),
    (["3.1", "v31"],
      ["bmYCdqqCbGbxWbFBEMbBgZbMCbMczdQjMKbNDgYvAdHBcTBCCBCCCEBMBBBEBCBcNBECIBHBbCBEBFBBDHBnAE",
       "lEEbYpdWcleTbetDuWbpcqTBbEdS"]),
    (["3.2", "v32"],
      ["uYBlQBTNeACbCBfRCcFCCCCCbXQnMCmJBdnHCchJNBHLXJUMNBDBCdiXBGFEBHFNBcKCbYHdEPgMMjIOeUBbEc",
       "AkYUfVKdKIWCdMMCKiOOdMbCEQjWtSbzNDdJCICdQBjGQdDPdDPbrdICQBMBDBbgjAcHbjDBDQcBCbSBjBC"]),
    (["4.0", "v40"],
      ["uZBSDePCcLRdCIFDfVFtWEJJcMDfTCPBbTDbDDqUBhCBcPBBBfGBdGDNBcPBcHBeZIhLCefNBSKkCbDDMEMEBD",
       "bQCFeDbGbdOeEbcPCiWBzJClQBkQCeMIOCbrAOcrNCbXBbRCdAEgLEdVCbFBjtOcMcoqVBcVCqXMBbABTBCBPC",
       "ObIeTFDEbTDJwEbEBBfECbMdCCKbgWGCBBbSBCDBCBcyuIdJnYBbtkdAjG"]),
    (["4.1", "v41"],
      ["vVLkSFgDEjMCgOBbIDcPBSBcGGjHbEuHBdCBsTBbVBbmNClJCBBkGBcLBcLBbNBbFBbFBbFBPBbNBXCbFbAcgC",
       "bQGbAGKECbGbCCCbgMdKzHCBHbXFbDEcBBdCBPByULwABdXCSLFQkKHbgHGjCbVBbVbHeDObTKcCJBQXJHBHBH",
       "BHBHBHBHBHbHYECbjUQgSBbpiTWctOXiZbSbfeAeCbfQKbfAcXuNbKEOciSEBCFIBDBbBEDEJIJcxpVcSbrAC"]),
    (["5.0", "v50"],
      ["wGOlNDmZBbQGQEgKBtXcHoUCBCbhICNCfiJcYEbTwLHbZCbcUEdPCcBBxBMbbMBkQEbgJHFEmENHEbulJEFClA",
       "cEbkoMbAFBirGbhVfPdVNEcogISbqUC"]),
    (["5.1", "v51"],
      ["bhWECCdJBhBBfKQiSFLFbGFlQStDCiOBbJBhYBbDCeEBeEBbACICUIhHBGBbDCMGDHsXCdTBDDcZBFBCBHDEGb",
       "AcMECdbEBbbXbRDMcScEDPDbZmTbCgZEdMGnSBfJBdQBcBEbyABVKDEkEBbFEbfFFEbPDFkUDBDEGnQbGYECTb",
       "dKBgGUbppOIbzOlOUbGCSIbCfBFCeDeGFeYcRJMbMdGLBgEcDJOCKCEbfsUDbhPMcAbUfAbDDbXckDbAFBcxsJ",
       "BlrQbSEdW"]),
    (["5.2", "v52"],
      ["byQCbcCbUCPhLBcZBGBbJCeYBcfPEhLEhGFcQFdEGtSByGJvOcSgYCbUBcRcLBbDCLGKGOvAbJkGBbaUDfVDcC",
       "BxIBbaRCbDDEKBTBBEYdJBbnHFkSBNCeDHmHBboCMbplSIbxKbWqAdKmAKgKbCdWbDDdABLECeYbCEcPYFiQbU",
       "CKqoKXEbXnbBDfgCWBJhECmMbGeYcCDbDCbBFIeYcVuPbFtTcOlvQbpFctnDLFbFCBLBBBCBDBDFIBHBZBBCCB",
       "KECBeHBPbIOJcqlJgdP"]),
    (["6.0", "v60"],
      ["bySCjOBcKBsMbCCBiLCTBGCbBFtMGqRBQBTBwBEcVCbiOCdeNcAIEtOBzOIbCBbfJLbcCBTBBEbDBECbCBbJBB",
       "BEDJCcADYBOBOCcdKBOBbpODbseNClNCBCOKdCBbdUGCGCGJHBHbemTQhrIdAEbEbheEvXbalBCymGPCOCPBPd",
       "CBBLBBBCBDBDFIBHBKGJBBCCBKECBKcXbABCbVJVCgSbHPGBcSDUMbLBFVRPcLBBBhABEDcKSYfRFBQBDBBBBB",
       "BBDBGCEBBCEBMELbWcScGeMcuqMiO"]),
    (["6.1", "v61"],
      ["ccTBeMBzRBBLcDbBtDBbmRCsTBFBbVDebBDMGjWIbREecQBBBbyQCbZBFBcEChUKbraEBcnNIbJBjICWBcZCbc",
       "OXbdzZCfuUcEGCcrOZHKGcBBOcIcVHKbtUcEIKbhkOcRLbVQRbvwIEBbBBCBBCBBKBEBBBBGBEBBBBBBDBCBBC",
       "BBBBBBBBBBCBBCEBHBEBEBBBKBRFDBFBRcACyICblSEhGBQBDBBBBBBBDBGCEBBCEB"]),
    (["6.2", "v62"], ["mkGB"]),
    (["6.3", "v63"], ["ciEBjyVE"]),
    (["7.0", "v70"],
      ["biLBqIIdPCeOBzRBLGcYBeQBHByPBbZBcYBeXBiUKdkRIvCCpLPvXCjDPbbHDbfQHbdTBbqIDKbACbGCbIDMBI",
       "xUHbtoVGjMMLDCCcRBsUbFeVEgUbWECbfiVHbhDCTBmHbCbJBbWbRoZbOIcALBfOlZJWKIjOcLIJrWbGbGbNEM",
       "fHSHEMHbvJBiAbNdIBMBGULSBbReKcHFKHDBICCCWBHBCBFCJCCCDJBFHCHDFkHcUIKgKcCCScCcRLKwKdFMBr",
       "GcFdfIbQhUMFBbalFbFBKECdSbECGKcSKKBHBVFTbemAeDFNDJHKCIqkYhPCQczWBbGWVCuMMJBcSBWMbLBFEF",
       "MRHcTBBBhABECcLCEHbDSBbPBdIcSCNbWcSKQNDEfKdHbRMEcEIKGbOIbE"]),
    (["8.0", "v80"],
      ["dhRCbUBuNBnOBkABcmVBCGevOBhVCdyEEbrwVJcoUBjGBbIGmMCxMEMdCbffQCebGTBCFFhGCCQCbUyQbZNbZH",
       "GbvDEOFgEHBBBEBPBLdIBdBByJUlEbADPEQerPBiWhOlqQwLcawLLchZzCPFBPjhDDdACdBFbKIjVBcXFjJCfJ",
       "BwDJdZFcHBcucLinQ"]),
    (["9.0", "v90"],
      ["dhUIWPbjPBhYBEDBHXDfrZJoGBchBEdxCCbtzLBkSBbhqDCbeVbKEbKfaOBrHdMBBBBtUNccXJBbTBOKbDDbGC",
       "WBObfmVBbFjbPTbdBbgfLHBRCHBCBFdiZcXFKECddBSfMBbfYBbPBlOCbHDvAGBIIBCMBMEPbMN"]),
    (["10.0", "v100"],
      ["deMLpLCjSGtSBcGCfyWBjUEbbHBbfZBczAByCFbcMBbpxNVblpIDiqQcUIcACXBFxHHBCBbSDBBCBJIKbfgPBy",
       "hKkZdDpGyaEGbrPCbICtZMTBIIBCZBSNbMGcEXdcpDlbL"]),
    (["11.0", "v110"],
      ["caYBbNBdYBuFDiDBlMBePBpHBeXBenRBboHbRCDfrMDWZEPwPFbcIBbpyHFcyHBICmMCbkvCCSBbaTbOIKrMbO",
       "IbQoHBeODtGBlEBbaXBiVcIxLBbbEGBCBbLBCBGHKlYZbeaPdNjpIFbcjUUeWHjlWcQbsCBceZBiLEoIDbCFCE",
       "DBBEYLNKHCbKZdSO"]),
    (["12.0", "v120"],
      ["esTBuGBCBCBBGEBHBHCCBNBfkHBfpUBcBBwTBbtzMGCFbjRCbmbGXbrKBxCBbcPICbUCLgDCbzMbYNBhqUJwjK",
       "GEBbVJdMCjcWGprCDREsaQbTDOCKECoEcGFBcjZBbkNcJbpEBcbGBbKBiVMlDDbVBbXBJBbPGDCKGDICDbWdGb",
       "CEEDFDNG"]),
    (["12.1", "v121"], ["tiDB"]),
    (["13.0", "v130"],
      ["diCKzDBqOBeUBfaJCgjUBbaUDbhOFkpIKbfdGNcySEbQCcBBbfVEbgqQBewXbQBDCCjUbCoPBfECzABFCbtMHC",
       "BCIBCBbEBCCMJKckKBbejRBLCkfXsPbQJblwUDdPDcJBbyUCbJCqTCdMBdXBECbQCGDbDBgMBOEPTHHJDNHbPf",
       "RBcDbLKcmsJHbhtQhhZ"]),
    (["14.0", "v140"],
      ["ciFBwWbFBCGIVBSLbhPBbGBeXBdwHBHBJBjFBbaNOeVBbWCyLBbbHBeiOBbVBtFLbraTDcyICOCBBBFYDbftDB",
       "oRQeXBbUCcvGLBPBHBCBLBPBHBCrJGBbQBJcxXbAiWGcYBcgSBfEHbhPQhwYdVwdXdBBKbaeWEBHBClCEliBbU",
       "CXJeMvDCeyVbFbhXbFbzDHBEBCBPfqKDkMBpCBdEBgSCbSEKEIDRDGIIHcncPCgeVE"]),
    (["15.0", "v150"],
      ["exNBsGBdtaKDbfZDdiCKbnARBbPDbChxDBJbDbvhKBbIBmrAUerHGkBcKbHBbpWbQguCBfVDEFdLBzRDPCbKDL",
       "DBBOCKCMBOCcthOBbiwSgfG"]),
    (["15.1", "v151"], ["seMEtBBkeiQxY"]),
    (["16.0", "v160"],
      ["dgHBHBblCBeXBfhIPCMdUCbVBkFCbpMBbhLDcvCBckBCbsqVFCBBBFDUBbftHQrDCcCHdaFcAbgMbAbmKbMDbD",
       "IClUGIJbHDbsLKBBCBBbMBKBBCBBEBKBCICbcVUbsEIdKbIOKqWbSEKoEBhyZfxRkzTcGeoKcGlIZCZlAFjcJI",
       "bxFBJWdTeLxmZjTDqUGXPRirFbREBhKbFBWICgaABgCElZKECOJoPEbXCDCbUBHBBBEBOBCBJCEBiLbLKBcsxR",
       "GiwGMbgfAgjI"])]

end FieldRules.Unicode
