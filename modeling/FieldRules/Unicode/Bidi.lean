import FieldRules.Unicode.Runs
/-!
The direction in which characters of domain names are written.
-/

namespace FieldRules.Unicode

/-- What a character says about the direction of its text. -/
inductive Direction where
  | leftToRight
  | rightToLeft
  | europeanNumber
  | arabicNumber
  | neutral
  | nonspacing
  deriving DecidableEq

/-- Letters written from right to left. -/
def rightToLeftRuns : List String :=
  ["ceOBBBCBCBJbBEGTBCBBBNBBbUbIDBEEdPPCHCKUCBBbEbDdLLBObRJCEBDYEBJBDBHPBZFBBLFbGQbQdnzSRbaMBd",
   "qAGCBBbSBCDBCXBcUIJbWTBCFbHEbAFbBbMcEEUCbVPEBDBbDKJHJHcMbGbLGMJcCKWCbBFbAHEMHdCcVePbZHbQbC",
   "QbFXICjGbQDBCCQGIBbVbOIWLJWSEEbMbCUXddvDhPCJdEbIHBEKECbeFcQcYcJ"]

/-- European digits. -/
def europeanNumberRuns : List String :=
  ["bWKcoCKdrkHbB"]

/-- Arabic digits. -/
def arabicNumberRuns : List String :=
  ["ckUKBCdvnFKlIbF"]

/-- Separators, signs and symbols without a direction. -/
def neutralRuns : List String :=
  ["AJFOFPKHbAGbAFbHHBBBCBBBCECDBDBXBbFBrHCHOCGGCFJBReNBeYBpNBCDeOCBCBBBCdMBeLBKBkIEtKCHBjLBjX",
   "IeVHrGBjQEbqOKdYBzQCmGBUKGLlXBDCfWbIchOCCBBFBMDBIDCBCEBBBIDNBHcNIBZcOBDBLBCCFCDBBBBBBBEBLB",
   "GEFEcICEgACBCjOCLcRbABfSWLgErHBnBjWkIBdZDdXBfVCfIiVGOHjWdQbIbABEBdFkKBBCDZPBGBFDdSBdMBhObM",
   "koGcMbguIcDmODdVBKCeYbIdYBgDEMCcGEbdACbelBQnZScMCcCIbTDcRCbaWBcKcZDNDBcvUBuRHvMBnQIoNUcgWN",
   "doQbDbehCBbiwZiGbKDDqUGXPRbdGCVcODBhEdJfyEBenOCkKbSEdWMPCPBPBbLVFbFBcJDcJBgWGfYblXDRDNDiKG",
   "MEBPMEcEIKGbOIbECMECOJbNnGIOCNDLDcFBBEQCMEKHfRBdOKB"]

/-- Marks that take no space of their own. -/
def nonspacingRuns : List String :=
  ["bdOcMCBDJBbGkPHkDbTBBBCBCBBcULbWVQBdXHCGCCBEbJBbEbBdNLcGJJBYEBJBDBFbRDcHJbQYBbGcDBBBEIEBDH",
   "KCbDBcGBEEIBUCbABCCcFBECECCDDBbECDBLCcFBEFBCEBUCWGBBcGBCBBEIBHCLCbEBcJBMBbYBDBcDBBDFDBEHCL",
   "CbDBcGBPCUCbCCcFCEEIBUCbDBcUBHDBBdMBCHMIdUBCJLHcVCbBBBBBBcDCBBFFBBBDBCFGBEBEBEBEBEBMBDJBdY",
   "EBGBCCCZCEDQENBCCGBPBbbBDbkKDbDCbECbECcPHIBCLJBgLCbIBeODECJBGDiLCCBcGBBHBBBBCIGKCBbWbUCMUE",
   "bWBBFBBFBbOJMCbGECCBDcEBBCDBBDcGICCfWDBNBHEBGBDChQcMbbSbHeoCDfLBdSbGvIEeDCbsqEEBKbGCdCCkMB",
   "DBEBZCFBfVCbASNBbMIZLbUDbWBCECCbNBcPGCCCCMBIBbVBbZBBDCCFCBBbQCIBjEBCBEBbdzSBbdPQblLBiSBfTF",
   "cmGDBCFEbODEBgJCwBEcNFmFCcZGcSLbXEeTBcCPbPBCCKDbXECCHBcJDbKFBIcKBMCcAJKECBdRDCBBCGBCBgBBDI",
   "VCcFCDBbLHDFcSGNBBBBBOCdHICDBBXBdGGBBECBCjEEGCBCbBCdHICBBCeCBBBCGBBdXDCEBFjZJBCjWCBBEBfOEC",
   "CEBbGGCCbOGCEIBJGCDbUNBChQBBDBBhTHBGdGWCHBCBCeSGDBBCBHBBcUCDBBBnJCLCcAFFBBBXBhxTBGPqyYMDDd",
   "sAFcHHboIBcLEdDBbdbKCgyZbUCXuYDRICHbEEfSDcyDcDEbYIBOBWFBPcaIHBRCHBCBFdWBgEHoLBcJEtOEjUCjJB",
   "CBHCFBsGHeFH"]

/-- The ranges of every direction but from left to right. -/
def directions : List (Direction × List (Nat × Nat)) :=
  [(.europeanNumber, ranges europeanNumberRuns), (.rightToLeft, ranges rightToLeftRuns),
    (.arabicNumber, ranges arabicNumberRuns), (.nonspacing, ranges nonspacingRuns),
    (.neutral, ranges neutralRuns)]

/-- Characters in no other set go from left to right. -/
def direction (c : Char) : Direction :=
  match directions.find? fun d => within d.2 c.toNat with
  | some d => d.1
  | none => .leftToRight

end FieldRules.Unicode
