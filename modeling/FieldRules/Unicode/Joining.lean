import FieldRules.Unicode.Runs
/-!
How letters of joined scripts connect to their neighbours.
-/

namespace FieldRules.Unicode

/-- The sides on which a character joins; marks are transparent. -/
inductive Joining where
  | none
  | left
  | right
  | both
  | transparent
  deriving DecidableEq

/-- Letters that join on their left side. -/
def leftJoiningRuns : List String :=
  ["cluOBblgKBJBvGBbbMB"]

/-- Letters that join on their right side. -/
def rightJoiningRuns : List String :=
  ["ciKEBBBBFEVBbODBDQSbMBCJBBBBCCBBYCbGBEFEBJBBBBBCBbDBLDPCEBBCDChQBFCBBKBBDOBBCFTLBbBDBBCCGB",
   "dtsTBBBBCDFKBDBCBKBfPBBDDBCBBCBBXEoJBpZBeIBbGBbFCcKDCCCBECFB"]

/-- Letters that join on both sides. -/
def bothJoiningRuns : List String :=
  ["ciIBFBBBBFENBHBCbJCIQSbMBCJBBBBCbODCBSDFEBJBBBBBCbFLDPCEBBCDCGcWbHdIFCBBKBBKBBECBbDBCFBBQK",
   "FCCGBPfuCBYdLObIBBccjTbYblfYFOEBFBDKEfPBBBDDBCBBCBbCCnAbHBBpZCBCeADBRMDbCECMbUBBCEBCCBCBBC",
   "BFBdegRcQ"]

/-- Marks, across which letters join. -/
def transparentRuns : List String :=
  ["gRBwWeIkPHkDbTBBBCBCBBcULBBbUVQBdXHCGCCBEbHBBBbEbBdNLcGJJBYEBJBDBFbRDcHJbQYBbGcDBBBEIEBDHK",
   "CbDBcGBEEIBUCbABCCcFBECECCDDBbECDBLCcFBEFBCEBUCWGBBcGBCBBEIBHCLCbEBcJBMBbYBDBcDBBDFDBEHCLC",
   "bDBcGBCBGBFCUCbCCcFCEEIBUCbDBcUBHDBBdMBCHMIdUBCJLHcVCbBBBBBBcDOBFBCFLBbKJBdYEBGBCCCZCEDQEN",
   "BCCGBPBbbBDbkKDbDCbECbECcMCBHIBCLJBbTDBBeNCbIBeODECJBGDiLCCBcGBBHBBBBCIGKCBbWbUCMUEbWBBFBB",
   "FBbOJMCbGECCBDcEBBCDBBDcGICCfWDBNBHEBGBDChQcMuDBCCbAFbXFFGdSbHeoCDfLBdSbGvIEeDCbsqEEBKbGCd",
   "CCkMBDBEBZCFBfVCbASNBbMIZLbUDbWBCECCbNBcPGCCCCMBIBbVBbZBBDCCFCBBbQCIBjEBCBEBbdzSBbcJQQQhZB",
   "jPDtTBiSBfTFcmGDBCFEbODEBgJCwBEcNFmFCcZGcSLbXEeTBcCPbPBCCKDbXECCHBcJDbKFBIcKBMCcAJKECBdRDC",
   "BBCGBCBgBBDIVCcFCDBbLHDFcSGNBBBBBOCdHICDBBXBdGGBBECBCjEEGCBCbBCdHICBBCeCBBBCGBBdXBBBCEBFjZ",
   "JBCjWCBBEBfOECCEBbGKbOGCEIBJGCDbUNBChQBBDBBhTHBGBBdEWCHBCBCeSGDBBCBHBBcUCDBBBnJCLCcAFFBBBX",
   "BhxDRGPqyYMDDdsAFcHHboIBcLEdDBbdbKCBEgyUbUCXuYDJQCHbEEfSDcyDcDEbYIBOBWFBPcaIHBRCHBCBFdWBgE",
   "HoLBcJEtOEjUCjJBCBHCFBsGHeFIbtbyZBbEdSeYjG"]

/-- The ranges of every way to join. -/
def joinings : List (Joining × List (Nat × Nat)) :=
  [(.both, ranges bothJoiningRuns), (.right, ranges rightJoiningRuns),
    (.left, ranges leftJoiningRuns), (.transparent, ranges transparentRuns)]

/-- Characters in no set do not join. -/
def joining (c : Char) : Joining :=
  match joinings.find? fun j => within j.2 c.toNat with
  | some j => j.1
  | none => .none

end FieldRules.Unicode
