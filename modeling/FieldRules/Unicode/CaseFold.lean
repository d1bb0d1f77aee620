/-!
Simple case folding: the pairs of characters that differ in case alone. A pair is written as the
distance of its smaller character from that of the pair before, and the distance between the two.
-/

namespace FieldRules.Unicode

/-- Every pair of characters that fold to the same one. -/
def foldPairs : List String :=
  ["cNbGBbGBbGBbGBbGBbGBbGBbGBbGBbGBbGAmlRBbGBbGBbGBbGBbGBbGBbGBbGAlOBbGBbGBbGBbGBbGBbGBbGRmkL",
   "IkIcObcPAbdVLbGBbGBbGBbGBbGBbGAmhABbGBbGBbGBbGBbGBbGBbGBbGBbGBbGBbGBbGBbGBbGBbGBbGBbGCbGBb",
   "GBbGBbGBbGBbGBbGBlgXGmfUbAeRBBCBCBCBCBCBCBCBCBCBCBCBCBCBCBCBCBCBCBCBCBCBCBCBEBCBCBDBCBCBCB",
   "CBCBCBCBDBCBCBCBCBCBCBCBCBCBCBCBCBCBCBCBCBCBCBCBCBCBCBDBCBCBDhNBiCBBCBChYBBChXBhXBBDdBBhUB",
   "hVBBChXBhZBdTBiDBiBBBCgHBckyZBiDBiFBfABiGBBCBCBCiKBBCiKDBCiKBBCiJBiJBBCBCiLBBEBDcEFBACBBCB",
   "ACBBCBACBBCBCBCBCBCBCBCBCBDBCBCBCBCBCBCBCBCBDBACBBCBEBCBCBCBCBCBCBCBCBCBCBCBCBCBCBCBCBCBCB",
   "CBEBCBCBCBCBCBCBCBCBIpzFBBDpzCBpzZBpzZBBDcRBcTBBCBCBCBCBCpyTBpyQBpySKckpRFckpNDckqPBckoEBc",
   "kpGEckpGBpxFBckpDFpxLMpwPFckpFFckoGWcknLBcknIgLdGAeMAkuJbRBCBEBFfABfABfACeMHbMCbLBbLBbLCcM",
   "CcLBcLBksHBbGBbGAcKBbGBbGBbGAdSBbGBbGBbGAcFAdOBbGAkrDBbGAdIBbGBbGBbGBbGBbGBbGAcCBbGAdCCbFA",
   "bGBbGBbGBbGAbVBbGBbGBbGAleJBbGBbGFkrRCbEDcMDZAcIBkpXBcCGWBbWBBEPDldDGICbJHBCBCBCBCBCBCBCBC",
   "BCBCBCBEHFBDBGdCBdCBdCBdCBdCBdCBdCBdCBdCBdCBdCBdCBdCBdCBdCBdCBbGBbGBbGAjgOBbGBbGAjgNBbGBbG",
   "BbGBbGBbGBbGBbGBbGBbGBbGAjgEBbGBbGBbGAjgCBbGAjgCAjgDBbGBbGBbGBbGBbGBbGBbGBbGAjfWBbGBbGBbGB",
   "bGBbGDjfICjfHKjeYDjeWBjeWAjeXIjeQWBCBAjdTBjdSBBCBCBCBCBCBCBCBCBCBCBCBCBCBCBKBCBCBCBCBCBCBC",
   "BCBCBCBCBCBCBCBCBCBCBCBCBCBCBCBCBCBCBCBCPBBCBCBCBCBCBCBDBCBCBCBCBCBCBCBCBCBCBCBCBCBCBCBCBC",
   "BCBCBCBCBCBCBCBCBCBCBCBCBCBCBCBCBCBCBCBCBCBCBCBCBCBCBCBCBCBCBDbWBbWBbWBbWBbWBbWBbWBbWBbWBb",
   "WBbWBbWBbWBbWBbWBbWBbWBbWBbWBbWBbWBbWBbWBbWBbWBbWBbWBbWBbWBbWBbWBbWBbWBbWBbWBbWBbWBbWehEkt",
   "KBktKBktKBktKBktKBktKBktKBktKBktKBktKBktKBktKBktKBktKBktKBktKBktKBktKBktKBktKBktKBktKBktKB",
   "ktKBktKBktKBktKBktKBktKBktKBktKBktKBktKBktKBktKBktKBktKBktKCktKGktKDelSBelSBelSBelSBelSBel",
   "SBelSBelSBelSBelSBelSBelSBelSBelSBelSBelSBelSBelSBelSBelSBelSBelSBelSBelSBelSBelSBelSBelSB",
   "elSBelSBelSBelSBelSBelSBelSBelSBelSBelSBelSBelSBelSBelSBelSDelSBelSBelSzXcfmUBcfmUBcfmUBcf",
   "mUBcfmUBcfmUBcfmUBcfmUBcfmUBcfmUBcfmUBcfmUBcfmUBcfmUBcfmUBcfmUBcfmUBcfmUBcfmUBcfmUBcfmUBcf",
   "mUBcfmUBcfmUBcfmUBcfmUBcfmUBcfmUBcfmUBcfmUBcfmUBcfmUBcfmUBcfmUBcfmUBcfmUBcfmUBcfmUBcfmUBcf",
   "mUBcfmUBcfmUBcfmUBcfmUBcfmUBcfmUBcfmUBcfmUBcfmUBcfmUBcfmUBcfmUBcfmUBcfmUBcfmUBcfmUBcfmUBcf",
   "mUBcfmUBcfmUBcfmUBcfmUBcfmUBcfmUBcfmUBcfmUBcfmUBcfmUBcfmUBcfmUBcfmUBcfmUBcfmUBcfmUBcfmUBcf",
   "mUBcfmUBcfmUBcfmUBcfmUBIBIBIBIBIBIdgHBEcaeKAcaeLBBjGcagYEfqSRcaiYeKBCBCBCBCBCBCBCBCBCBCBCB",
   "CBCBCBCBCBCBCBCBCBCBCBCBCBCBCBCBCBCBCBCBCBCBCBCBCBCBCBCBCBCBCBCBCBCBCBCBCBAcHBcGBBCBCBCBCB",
   "CBCBCBCBCBCBCBCBCBCBCBCBCBCBCBCBCBCBCBCBCBMBCBCBCBCBCBCBCBCBCBCBCBCBCBCBCBCBCBCBCBCBCBCBCB",
   "CBCBCBCBCBCBCBCBCBCBCBCBCBCBCBCBCBCBCBCBCBCBCBCBCIBIBIBIBIBIBIBIJIBIBIBIBIBILIBIBIBIBIBIBI",
   "BIJIBIBIBIBIBIBIBIJIBIBIBIBIBIMICICICIJIBIBIBIBIBIBIBIJcWBcWBdIBdIBdIBdIBdWBdWBeYBeYBeIBeI",
   "BeWBeWDIBIBIBIBIBIBIBIJIBIBIBIBIBIBIBIJIBIBIBIBIBIBIBIJIBICJQJNIBIPIBIEHOJmHbCbUQBQBQBQBQB",
   "QBQBQBQBQBQBQBQBQBQBQUBbfNbABbABbABbABbABbABbABbABbABbABbABbABbABbABbABbABbABbABbABbABbABb",
   "ABbABbABbABbAcsVbWBbWBbWBbWBbWBbWBbWBbWBbWBbWBbWBbWBbWBbWBbWBbWBbWBbWBbWBbWBbWBbWBbWBbWBbW",
   "BbWBbWBbWBbWBbWBbWBbWBbWBbWBbWBbWBbWBbWBbWBbWBbWBbWBbWBbWBbWBbWBbWBbWbXBHBCBCBHBDBLBCBCBCB",
   "CBCBCBCBCBCBCBCBCBCBCBCBCBCBCBCBCBCBCBCBCBCBCBCBCBCBCBCBCBCBCBCBCBCBCBCBCBCBCBCBCBCBCBCBCB",
   "CBJBCBFBbtyKBCBCBCBCBCBCBCBCBCBCBCBCBCBCBCBCBCBCBCBCBCBCBUBCBCBCBCBCBCBCBCBCBCBCBCBCBfGBCB",
   "CBCBCBCBCBEBCBCBCBCBCBCBCBCBCBCBCBCBCBCBCBCBCBCBCBCBCBCBCBCBCBCBCBCBCBCBLBCBDBCBCBCBCBFBFB",
   "CBCbWCBCBCBCBCBCBCBCBCBCBLbjSBBCBCBCBCBCBCBCBFBCBDBCBCBCBCBCBCBCBbBBbflWBboMbGBbGBbGBbGBbG",
   "BbGBbGBbGBbGBbGBbGBbGBbGBbGBbGBbGBbGBbGBbGBbGBbGBbGBbGBbGBbGBbGbvAbOBbOBbOBbOBbOBbOBbOBbOB",
   "bOBbOBbOBbOBbOBbOBbOBbOBbOBbOBbOBbOBbOBbOBbOBbOBbOBbOBbOBbOBbOBbOBbOBbOBbOBbOBbOBbOBbOBbOB",
   "bOBbOfHbOBbOBbOBbOBbOBbOBbOBbOBbOBbOBbOBbOBbOBbOBbOBbOBbOBbOBbOBbOBbOBbOBbOBbOBbOBbOBbOBbO",
   "BbOBbOBbOBbOBbOBbOBbOBbOgBbNBbNBbNBbNBbNBbNBbNBbNBbNBbNBbNCbNBbNBbNBbNBbNBbNBbNBbNBbNBbNBb",
   "NBbNBbNBbNBbNCbNBbNBbNBbNBbNBbNBbNCbNBbNcqDcMBcMBcMBcMBcMBcMBcMBcMBcMBcMBcMBcMBcMBcMBcMBcM",
   "BcMBcMBcMBcMBcMBcMBcMBcMBcMBcMBcMBcMBcMBcMBcMBcMBcMBcMBcMBcMBcMBcMBcMBcMBcMBcMBcMBcMBcMBcM",
   "BcMBcMBcMBcMBcMgCbGBbGBbGBbGBbGBbGBbGBbGBbGBbGBbGBbGBbGBbGBbGBbGBbGBbGBbGBbGBbGBbGegPbGBbG",
   "BbGBbGBbGBbGBbGBbGBbGBbGBbGBbGBbGBbGBbGBbGBbGBbGBbGBbGBbGBbGBbGBbGBbGBbGBbGBbGBbGBbGBbGBbG",
   "bgjXbGBbGBbGBbGBbGBbGBbGBbGBbGBbGBbGBbGBbGBbGBbGBbGBbGBbGBbGBbGBbGBbGBbGBbGBbGBbGBbGBbGBbG",
   "BbGBbGBbGcNbBBbBBbBBbBBbBBbBBbBBbBBbBBbBBbBBbBBbBBbBBbBBbBBbBBbBBbBBbBBbBBbBBbBBbBBbBbuiAb",
   "IBbIBbIBbIBbIBbIBbIBbIBbIBbIBbIBbIBbIBbIBbIBbIBbIBbIBbIBbIBbIBbIBbIBbIBbIBbIBbIBbIBbIBbIBb",
   "IBbIBbIBbI"]

end FieldRules.Unicode
