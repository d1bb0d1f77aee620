/-!
How the characters of a domain name are read: those that stand for themselves, those that are left
out, and those that others stand for. All other characters have no place in a domain name.
-/

namespace FieldRules.Unicode

/-- The characters that stand for themselves, as run lengths. -/
def domainValid : List String :=
  ["AcNbAbLbHHBBBCBBBCECDBDBXBHbHBBBBBBBBBBBBBBBBBBBBBBBBBBBBBBBBBBBBBBBBBBBBBBBBBBDBBCBBBBBBD",
   "BBBBBBBCBBBBBBBBBBBBBBBBBBBBBBBBBBBBBBBBBBBBBBBBBBBBBCBBBBBBBCBBBCBDCEBCBDDCBCBBBBBCBBCBBC",
   "BDBBBCDBHKBBBBBBBBBBBBBBCBBBBBBBBBBBBBBBBBCEBDBBBBBBBBBBBBBBBBBBBBBBBBBBBBBBBBBBBBBBBBBBBB",
   "BBBBBBBBBBBBBBHCBCCBBEBBBBBBBBdTJbFGCFdNCBDJBbGBBBBBBBBDDSBbBbJIBBBBBBBBBBBBBBBBBBBBBBBBBD",
   "BCBBBCCbZbWBBBBBBBBBBBBBBBBBBBBBBBBBBBBBBBBBJBBBBBBBBBBBBBBBBBBBBBBBBBBBBBBBBBBBBBBBBBBBBB",
   "BBBBBBBBBCBBBBBBBBBBBBCBBBBBBBBBBBBBBBBBBBBBBBBBBBBBBBBBBBBBBBBBBBBBBBBBBBBBBBBBBBBBBBBBBB",
   "BBBBBBBBBBBBBBBBBBBBBBBBBBBBBbPbUBDCDBcDIbBEGRWBdKEdWBbWCcHCdXOcHCbXCPBbCCBBLFbGHcXBeNIbKB",
   "ICCCWBHBBDECJCCCEIBIECZCDBGECCWBHBBCBCCCBBFECCDDBKBJRKDBJBDBWBHBCBFCKBDBDCBPECMHHBDBICCCWB",
   "HBCBFCJCCCDHDHFCSKCBGDDBEDCBBBCDCDDDMEFDDBECBGBOVFNBDBXBQCJBDBEHCBDBCCECKHWBDBXBKBFCJBDBEH",
   "CFDBECKBDMNBDBbZBDBGEQCbABDBSDYBJBBCHDBEGBBBIGKCDMbYBHEbDbLCBBBFBYBBBMBKCFBBBHBKECbGMBcCBE",
   "BEBEBEBEBMBDECBBFHBRBEBEBEBEBEBMBDBPBNbLgEbWbSBdUCiYBECHBBBECbPBECbHBECHBBBECPBcFBECcPCbGD",
   "bAGdIKyQBbCDdLHWJYJUMNBDBCMcACbOCKGKGLFKGdLHbRFcSKbFBMEMEBDbQCFLbSEbAGLDcKCcNBbDCLGKGOCbUC",
   "MUcZBgKIcIDPDbZKBcBIIbRFbSDBLBSBbCNBbIbLcMBBBBBBBBBBBBBBBBBBBBBBBBBBBBBBBBBBBBBBBBBBBBBBBB",
   "BBBBBBBBBBBBBBBBBBBBBBBBBBBBBBBBBBBBBBBBBBBBBBBBBBBBBBBBBBBBBBBBBBBBBBBBBBBBBBBBBBBBBBBBBB",
   "BBBBBBBBBBBFCCBBBBBBBBBBBBBBBBBBBBBBBBBBBBBBBBBBBBBBBBBBBBBBBBBBBBBBBBBBBBBBBBBBBBBBBBBBBB",
   "BBBBBBBBBBBBBBBBBBBBBJIGKIIIIGKIIIIBBBBBBBBBBBBBbZCEBPBJDDCIDBEOBVCCBBFBMDBIDCBCEBBBIDNBHc",
   "NIBZObHTBDBLBCCFCDBBBBBBBEBLBGEFGbWDBFBCEgACBCjOCjVWLgEbyNBdZDdXBfVCfIbWbWBBDCBBBBBBEBBCBG",
   "FBBBBBBBBBBBBBBBBBBBBBBBBBBBBBBBBBBBBBBBBBBBBBBBBBBBBBBBBBBBBBBBBBBBBBBBBBBBBBBBBBBBBBBBBB",
   "BBBBBBBBBIBBBEBBFbTBBFBCcEIBOYJHBHBHBHBHBHBHBHBeWbIbABEBdFkKBBbZBBDFBdICCCCBdRGbRdSCOcSKQc",
   "UIbVBoUbqqFDcDJnKVBBBBBBBBBBBBBBBBBBBBBBBBBBBBBBBBBBBBBBBBBBBBTBBBBBBBBBBBBBBBBBBBBBBBBBBB",
   "BCdMIbIBBBBBBBBBBBBBDBBBBBBBBBBBBBBBBBBBBBBBBBBBBBBBBBBBBBBBBBBBBBBBBBBBBBBBBBBBBBBBIBBBBC",
   "BBBBBBBBEBBBCBBBDBBBBBBBBBBBBBBBBBBBBFBFBBBBBBBBBBBBBBBEBBBCBBBBBBBBBBBBBBBbACCbZDKGcEIcSI",
   "MGeMLbEDdABLEbHBcDJOCKCdZYbCKGCGCGJHBHBbSEJBCdGbUCKGqnSMXEbXmxMCBBBCKBBBBCCDjKBfRbHnZScMCc",
   "CIbTDbGQVCbSBpGMBbABTBCBPCObIeTFDEbTDdKBNDBbVbUfAbDDbXPbCEbKJbEFbRFbEBbLEOdEeOCKbUbKEbOIcA",
   "LBbNLBPBHBCDcAMlZJWKIYBeXGCBBbSBCDBCXBcUIJbWTBCFbHDbBFbBbMcEEUCbYBCFIBDBbDCDEKHJHcMbGbNEMJ",
   "cCDbDCbBFbAHEMHdCcVePbZHbUIKGQZbDICiAbFBbQBDCCQGIJbHbUIbQWbAbMbCUXJdAEbKJcKBFNZHKGcBBSIbNJ",
   "dSBULSBbVcKHBBBEBPBLGcHFKGEBICCCWBHBCBFBKCCCDCBGBFHCHDFLKBBCBBbMBKBBCBBEBKBCICbDdOBFbEcUIK",
   "gKcCCbMbIcRLKGNTcGGKGUbCbBCPEXhDcIfCbZMICBCIBCBbEBCCMJKcSICbUCLbBcUIdFNcVHKdIIdKbIOKGJBbTB",
   "OKbDDbGCWBOcVHBCBbSDBBCBJIKGGBCBbLBCBGHKGbSEKjMZHRBbPDbDdHBPbYNbjNdYeHBFLhOdxKdVNbpGQWKfxR",
   "FwLkdDcGcoSvXHbFBKEdDBKGbECGKcSKKBHBVFTqQcGiWcHbGZbScXEcFHRcMFLHJkxYbPbGdTeLmwREBHBCBlFPBb",
   "DDCBOEIpGdkUeDFNDJHKCEfvKiGbKDDqUGXPRPbUCXJeMcIjMKbNCcBHOIcMGbQVcSeSUMUMdJJZbsPzCPFBPbqMbF",
   "GGiFHBRCHBCBFdWBeIbTDOCKECmIbFRcGFBrWbQiGbREBhKbFBWICiQHBEBCBPBhPCQcXbQEKECbeFcQcYcJqSCkKb",
   "SEdWMPCPBPBbLVFbFBbGbADbJBbDcEbAdSGfYblXDRDNDiKGMEBPMEcEIKGbOIbECMECOJbNnGIOCNDLDcFBBEQCME",
   "KHfRBdOKBbnPclfCbGgmOCioCClbLPxYgrQhhZFmoO"]

/-- The characters that are left out, as run lengths. -/
def domainIgnored : List String :=
  ["gRBzXBfiLCckHCdHFdaPBdGFFGgkYBczmPQjFBgEBctoXEhwXIbtljHjG"]

/-- Runs of characters that others stand for: the distance from the end of the run before, the
length of the run, and how many characters stand for its first, with their numbers. In a run of
more than one, a single character stands for each, and these follow one another too. -/
def domainMapped : List String :=
  ["cNbABdTcRBBbGHBCbGbdWBBBdTEBCbGbdSCCBbYABCbGbdPABBbkUCBCbGbfBABBbXABBeHBBDbXmfScAABDbXmfSb",
   "YABDbZmfScABXBiQBHBjObHBBjXBBBjZBBBkBBBBkDBBBkFBBBkHBBBkJBBBkLBBBkNBBBkPBBBkRBBBkTBBBkVBBB",
   "kXBBBkZBBBlBBBBlDBBBlFBBBlHBBBlJBBBlLBBBlNBBBlPBBBlRBBCeBbdVBBCeBeCABCeBeCABBlXBBBlZCBBmCB",
   "BBmEBBBmGBBCeEhBABCeEhBABBmKBBBmMBBBmOBBBmQBBCbaYeGABBmTBBBmVBBBmXBBBmZBBBnBBBBnDBBBnFBBBn",
   "HBBBnJBBBnLBBBnNBBBnPBBBnRBBBnTBBBnVBBBnXBBBnZBBBoBBBBoDBBBoFBBBoHBBBoJBBBoLBBBjVABBoOBBBo",
   "QBBBoSBBBeLBBBwXABBoXBBBoZBBBwYABBpCBCBxAABBpGCBBsJABBxDABBxFABBpMBBBxKABBxNBBBxTABBxSABBp",
   "TDBBxZABByCBBByFABBqBBBBqDBBBqFBBByQABBqIBBByTCBBqNBBByYABBqQBCBzAABBqUBBBqWBBBzIABBqZDBBr",
   "DHBCdWoSABCdWoSABCdWoSABCeEeCABCeEeCABCeEeCABCeGeCABCeGeCABCeGeCABBrUBBBrWBBBrYBBBsABBBsCB",
   "BBsEBBBsGBBBsICBBsLBBBsNBBBsPBBBsRBBBsTBBBsVBBBsXBBBsZBBBtBCBCdWeSABCdWeSABCdWeSABBtHBBBpP",
   "ABBrFABBtLBBBtNBBBtPBBBtRBBBtTBBBtVBBBtXBBBtZBBBuBBBBuDBBBuFBBBuHBBBuJBBBuLBBBuNBBBuPBBBuR",
   "BBBuTBBBuVBBBuXBBBpYBBBvBBBBvDBBBvFBBBvHBBBvJBBBvLBBBvNBBBvPBBBvRHBBqvDABBwABBBpUABBqvECBB",
   "wGBBBoUABByZABBzCABBwLBBBwNBBBwPBBBwRBBBwTdTBBeAABBxQABBeCABBeKABByJABByLABByRABBePABBeRbF",
   "BCbGbdUABCbGbdVABCbGbdYABCbGbfCABCbGbdRABCbGbdZCBBxNABBeEABBeLABBeQABBzLdNCBbdOBBBbeHABCbd",
   "WbdPABBbkRbQBBbhXBBBbhZBBBbaVBBBbiDDBCbGbkRDBBcHABBbmXEBCbGbdPABDbGbdWbdPABBbkEABBhBADBbkF",
   "BBBblKBCBblLBRBbkJBJBblBbJBBblVABBbkKABBbkQABBblDABBblLABBblJABBblEABBbkYBBBblXBBBblZBBBbm",
   "BBBBbmDBBBbmFBBBbmHBBBbmJBBBbmLBBBbmNBBBbmPBBBbmRBBBbmTBBBbkSABBbkZABBblBBBBbkQABBbkNBBBbn",
   "CBBBblBABBbnFCDBbiHAQBbqMAbGBbpGbWBBbrDBBBbrFBBBbrHBBBbrJBBBbrLBBBbrNBBBbrPBBBbrRBBBbrTBBB",
   "brVBBBbrXBBBbrZBBBbsBBBBbsDBBBbsFBBBbsHBBBbsJJBBbsTBBBbsVBBBbsXBBBbsZBBBbtBBBBbtDBBBbtFBBB",
   "btHBBBbtJBBBbtLBBBbtNBBBbtPBBBbtRBBBbtTBBBbtVBBBbtXBBBbtZBBBbuBBBBbuDBBBbuFBBBbuHBBBbuJBBB",
   "buLBBBbuNBBBbuPBBBbuRBBBbuTBBBbvJABBbuWBBBbuYBBBbvABBBbvCBBBbvEBBBbvGBBBbvICBBbvLBBBbvNBBB",
   "bvPBBBbvRBBBbvTBBBbvVBBBbvXBBBbvZBBBbwBBBBbwDBBBbwFBBBbwHBBBbwJBBBbwLBBBbwNBBBbwPBBBbwRBBB",
   "bwTBBBbwVBBBbwXBBBbwZBBBbxBBBBbxDBBBbxFBBBbxHBBBbxJBBBbxLBBBbxNBBBbxPBBBbxRBBBbxTBBBbxVBBB",
   "bxXBBBbxZBBBbyBBBBbyDBBBbyFBBBbyHBBBbyJBBBbyLBBBbyNBBBbyPBBBbyRBBBbyTBBBbyVBBBbyXBBBbyZBBB",
   "bzBCbMBcaZbWBCcbDccGjDBCciPclOABCcjWclOABCcoTclOABCcjYclObcHBCdlLdmYABCdlMdmYABCdlNdmYABCd",
   "lSdmYABCdlXdmYABCdlYdmYABCdmHdmYABCdmLdmYeUBCdqVdrWABCdqWdrWBBCdrJdrWdFBCdwKdwUCBCdwQdwUbI",
   "BCdvIdwUABCdvJdwUABCdvOdwUCBCdwDdwUjTBCefPegQABCefQegQbbXBCfkVfjUeXBCfpTfoSbOBCfoLfnTABCfo",
   "LfoBbUBBfsDcCBCfuGfyTJBCfuQfyTEBCfuVfyTEBCfvAfyTEBCfvFfyTMBCfuEfyRJBCfwBfwCBBCfwBfwEABCfyO",
   "fwQABDfyOfwBfwQABCfyPfwQABDfyPfwBfwQHBCfwBfwQRBCfxIfyTJBCfxSfyTEBCfxXfyTEBCfyCfyTEBCfyHfyT",
   "MBCfxGfyRiWbMBrbCBBBrcPFBBrcVbUBBgkAbdJGBhoIdfUBBbpIABBbpKABBbpUACBbpXABBbpYABBbqGABBbrFAB",
   "BckzJABBkvAGbRBgjOCDBglHeEBBdTABBiWABBdUBCBdWABBsJAIBdZBBBeHABBvBABBeIABBeKACBeMABBePABBdT",
   "ACBwUABBkzQABBdUACBdWABBxDACBxFABBdZBBBeDABBeFABBmTABBeHABBwYACBlaKABBeIACBeMABBlaRABBxZAB",
   "BeOABBlaZADBbkKACBblEABBeBABBeKACBeNACBbkKABBbkZACBblENBBbpTbIBBwWABBdVABBwZABBjGABBxGABBd",
   "YABBxJABBxLABBxPADBxSABBleHABBzTABBxXABBleRABBzVABByBABByAAEByCABByIACBySABBqLACByZABBlaQA",
   "CBzBABBeSADBzGABBbkQcMBBljLBBBljNBBBljPBBBljRBBBljTBBBljVBBBljXBBBljZBBBlkBBBBlkDBBBlkFBBB",
   "lkHBBBlkJBBBlkLBBBlkNBBBlkPBBBlkRBBBlkTBBBlkVBBBlkXBBBlkZBBBllBBBBllDBBBllFBBBllHBBBllJBBB",
   "llLBBBllNBBBllPBBBllRBBBllTBBBllVBBBllXBBBllZBBBlmBBBBlmDBBBlmFBBBlmHBBBlmJBBBlmLBBBlmNBBB",
   "lmPBBBlmRBBBlmTBBBlmVBBBlmXBBBlmZBBBlnBBBBlnDBBBlnFBBBlnHBBBlnJBBBlnLBBBlnNBBBlnPBBBlnRBBB",
   "lnTBBBlnVBBBlnXBBBlnZBBBloBBBBloDBBBloFBBBloHBBBloJBBBloLBBBloNBBBloPBBBloRBBBloTBBBloVBBB",
   "loXBBBloZBBBlpBBBBlpDFBCdTbbAABBlnDCBBiPBBBlpPBBBlpRBBBlpTBBBlpVBBBlpXBBBlpZBBBlqBBBBlqDBB",
   "BlqFBBBlqHBBBlqJBBBlqLBBBlqNBBBlqPBBBlqRBBBlqTBBBlqVBBBlqXBBBlqZBBBlrBBBBlrDBBBlrFBBBlrHBB",
   "BlrJBBBlrLBBBlrNBBBlrPBBBlrRBBBlrTBBBlrVBBBlrXBBBlrZBBBlsBBBBlsDBBBlsFBBBlsHBBBlsJBBBlsLBB",
   "BlsNBBBlsPBBBlsRBBBlsTBBBlsVBBBlsXBBBlsZBBBltBBBBltDBBBltFJIBltGIGBltWKIBluMIIBlvCIGBlvSLB",
   "BlwJBBBlwLBBBlwNBBBlwPIIBlwYBBBbkEBBBbkFBBBbkGBBBbkHBBBblKBBBblLBBBblMCBCltGbkRABCltHbkRAB",
   "CltIbkRABCltJbkRABCltKbkRABCltLbkRABCltMbkRABCltNbkRABCltGbkRABCltHbkRABCltIbkRABCltJbkRAB",
   "CltKbkRABCltLbkRABCltMbkRABCltNbkRABCluMbkRABCluNbkRABCluObkRABCluPbkRABCluQbkRABCluRbkRAB",
   "CluSbkRABCluTbkRABCluMbkRABCluNbkRABCluObkRABCluPbkRABCluQbkRABCluRbkRABCluSbkRABCluTbkRAB",
   "ClwYbkRABClwZbkRABClxAbkRABClxBbkRABClxCbkRABClxDbkRABClxEbkRABClxFbkRABClwYbkRABClwZbkRAB",
   "ClxAbkRABClxBbkRABClxCbkRABClxDbkRABClxEbkRABClxFbkRCBClxObkRABCbkJbkRABCbkEbkRCBCmaGbkRAC",
   "BmaAABBlxOABBbkEABCbkJbkRABCbGbeHABBbkRABCbGbeHABCbGbgCABDbGbdWbgCABClxSbkRABCbkPbkRABCbkG",
   "bkRCBCmaWbkRABBlxQABBbkFABBlxSABBbkGABCbkPbkRABDbGbeHbdOABDbGbeHbdPABDbGbeHbgCDBBbjCECBmbG",
   "ABBlxUABBbkHBBDbGbeIbdOABDbGbeIbdPABDbGbeIbgCDBBbkIECBmbWABBlxYABBblLABBmcBABDbGbdWbdOABDb",
   "GbdWbdPABBdSCBClyAbkRABCblHbkRABCblMbkRCBCmcSbkRABBlxWABBblKABBlyAABBblMABCblHbkRABCbGbdPA",
   "BCbGbeIBBBbGABBbGABBbGABBbGABBbGABBbGABBbGABBbGABBbGABBbGABBbGGBBmdSFBCbGbfNXBBbGDBCmfAmfA",
   "ABDmfAmfAmfABBCmfDmfDABDmfDmfDmfDEBCbHbHBBCbGbdTIBCcLcLABCcLbHABCbHcLNBEmfAmfAmfAmfAHBBbGQ",
   "BBbWABBeBCGBcAABBbRABBmxMABBcJACBbOABBeGAKBbWABBbRABBmxMABBcJACBbOBBBdTABBdXABBeHABBeQABBx",
   "DABBeAAEBeDABBeIACBeLLBCeKeLdJBDdTbVdVABDdTbVeLABBdVABCgUdVBBDdVbVeHABDdVbVeNABBxFBBCgUdYA",
   "CBdZABBeAABBeAABBeAABBlJABBeBABBeBABBeEABBeEBBBeGABCeGeHCDBeIABBeKABBeKCBCeLeFABDeMdXeEABC",
   "eMeFBBBeSBBBblHBBBeSBBBeDABBiVACBdUBBBdXACBdXABBmpYABBeFABBeHAEBcfGABBeBBBDdYdTeQABBbkYABB",
   "bkLABBbkLABBbkYABBmxLEBBdWACBdWACBeBGBDbXmfScDABDbXmfScFABEbXmfSbXbWABDbXmfSbZABDbYmfSbZAB",
   "DbXmfScBABDbYmfScBABDbZmfScBABDcAmfScBABDbXmfScCABDcBmfScCABDbXmfScEABDbZmfScEABDcBmfScEAB",
   "DcDmfScEABCbXmfSABBeBABCeBeBABDeBeBeBABCeBeOABBeOABCeOeBABDeOeBeBABEeOeBeBeBABCeBeQABBeQAB",
   "CeQeBABDeQeBeBABBeEACBdVABBeFABBeBABCeBeBABDeBeBeBABCeBeOABBeOABCeOeBABDeOeBeBABEeOeBeBeBA",
   "BCeBeQABBeQABCeQeBABDeQeBeBABBeEACBdVABBeFDBBmsAFBDbWmfSbZgGBCmyLmyLABDmyLmyLmyLBBCmyOmyOA",
   "BDmyOmyOmyOjOCBseYlXJBbXABCbXbWABCbXbXABCbXbYABCbXbZABCbXcAABCbXcBABCbXcCABCbXcDABCbXcEABC",
   "bXcFABCbYbWABDbObXbPABDbObYbPABDbObZbPABDbOcAbPABDbOcBbPABDbOcCbPABDbOcDbPABDbOcEbPABDbOcF",
   "bPABEbObXbWbPABEbObXbXbPABEbObXbYbPABEbObXbZbPABEbObXcAbPABEbObXcBbPABEbObXcCbPABEbObXcDbP",
   "ABEbObXcEbPABEbObXcFbPABEbObYbWbPUBDbOdTbPABDbOdUbPABDbOdVbPABDbOdWbPABDbOdXbPABDbOdYbPABD",
   "bOdZbPABDbOeAbPABDbOeBbPABDbOeCbPABDbOeDbPABDbOeEbPABDbOeFbPABDbOeGbPABDbOeHbPABDbOeIbPABD",
   "bOeJbPABDbOeKbPABDbOeLbPABDbOeMbPABDbOeNbPABDbOeObPABDbOePbPABDbOeQbPABDbOeRbPABDbOeSbPAbA",
   "BdTAbABdTABBbWbyNBEmyLmyLmyLmyLdZBDcGcGcJABCcJcJABDcJcJcJdXBCqgBbfSlFbWBqtCbWBBquZBBBxVABB",
   "leJABByNCBBqvGBBBqvIBBBqvKBBBwVABByBABBwUABBwWBBBqvRCBBqvUGBBeCABBeOACBwDABBqwFBBBqwHBBBqw",
   "JBBBqwLBBBqwNBBBqwPBBBqwRBBBqwTBBBqwVBBBqwXBBBqwZBBBqxBBBBqxDBBBqxFBBBqxHBBBqxJBBBqxLBBBqx",
   "NBBBqxPBBBqxRBBBqxTBBBqxVBBBqxXBBBqxZBBBqyBBBBqyDBBBqyFBBBqyHBBBqyJBBBqyLBBBqyNBBBqyPBBBqy",
   "RBBBqyTBBBqyVBBBqyXBBBqyZBBBqzBBBBqzDBBBqzFBBBqzHBBBqzJBBBqzLBBBqzNBBBqzPBBBqzRBBBqzTBBBqz",
   "VBBBqzXBBBqzZIBBraIBBBraKEBBraPeUBBreVlRBBbovLdFBBcilRMBBbdoAABBbdpOABBbdqCABBbdqLABBbdrLA",
   "BBbdtDABBbdtKABBbduEABBbdvEABBbetZABBbevLABBbevRABBbewOABBbexIABBbeyDABBbfaEABBbfaZABBbfbK",
   "ABBbfhJABBbfkZABBbfmBABBbfmGABBbfnKABBbfnTABBbfoUABBbfpHABBbfqGABBbfsGABBbfsYABBbftZABBbgx",
   "BABBbgzVABBbhrNABBbhsKABBbhsSABBbhtDABBbhtVABBbhwTABBbipCABBbiqYABBbivOABBbiwLABBbixEABBbi",
   "yAABBbjaCABBbjaFABBbjoDABBbjoNABBbjoZABBbjpMABBbjtYABBbjuGABBbjuLABBbjyYABBbjzIABBbjzVABBb",
   "kaDABBbkcMABBbkdDABBbkdVABBbkgXABBbldGABBblfAABBblfVABBbmiHABBbmiMABBbmlRABBbmmHABBbmmUABB",
   "bmnPABBbmpCABBbmpHABBbmzOABBbnaMABBbnbSABBbooUABBborIABBbosFABBbouLABBbovJABBbovSABBbovZAB",
   "BboxZABBboyEABBbozKABBbqoXABBbrgCABBbrgOABBbrgTABBbrgXABBbrhFABBbrhXABBbrhZABBbrlCABBbrtKA",
   "BBbrtPABBbsgQABBbshAABBbsiYABBbsjFABBbsjOABBbsjWABBbsnJABBbsnQABBbswKABBbswRABBbsyOABBbszF",
   "ABBbtbAABBbtkDABBbtkKABBbtlBABBbtxQABBbucMABBbucSABBbujSABBbunBABBbuoVABBbvdJABBbviMABBbwe",
   "OABBbwfPABBbwhUABBbwjTABBbwmJABBbwmUABBbwnAABBbwoHABBbwrFABBbwrPABBbxeXABBbxfEABBbxfNABBbx",
   "fWABBbxgMABBbxhBABBbxhFABBbxkGABBbxkKABBbxkQABBbywJABBbyxNABBbzpOABBbzqAABBbzqXABBcabUABBc",
   "acHABBcafAABBcagUABBcbcPABBcbdEABBcbdTABBcbfCABBcbgNABBcboEABBcboQABBcbrFABBccaTABBccbYABB",
   "ccjZABBcckUABBcckZABBcctLABBcdaNABBcdfIABBcdfOABBcdfTABBcepRABBceqAABBcewAABBcfbYABBcfcBAB",
   "BcfdWABBcfhXABBcfiKABBcfiOABBcfiVABBcfmPABBcfnXABBcfoDABBcfoRABBcfvCABBcfxBABBcfxFABBcgeGA",
   "BBcgeJABBcgfCABBcgoUABBcgqQABBcgqXABBcgtPABBcgtZABBcguCABBcguMABBcgvQABBchkVABBciaFABBciaP",
   "ABBcicBABBcicXABBcidFABBcidPABBcidTABBcifHABBcifLABBcigCABBcigHABBcigUABBcihVABBciiKABBcii",
   "SABBcikZABBcilOABBcilSbQBBbGBBBbUbZBBsfIBBBbfnTACBbfnWdSBCbGskNABCbGskOCBCsjWsjYdRBCslNsmI",
   "bXCBglKABBgrYABBglMACBgsAADBglNAGBgsEABBgmKADBglQABBgmRAKBglTAVBgpDBCBgmEACBgtBABBgtGABBgt",
   "IABBgtNABBgtRABBgtTABBgmMABBgtXABBgtZACBgmNABBgmQACBgmSABBgmXABBgmZAFBgnBABBgnIABBgnMABBgn",
   "WABBgoDABBgoIACBguRADBgoTACBgqMABBgqQACBgqZABBgrCABBgrMABBgrPDBBbdoAABBbdtKABBbdoJABBbgxFA",
   "BBbdoKABBbdpTABBbdoLABBbsjYABBbdrLABBbdoZABBbdoBABBbhtXABBbhaMABBbdvEdSBDbOglKbPABDbOglMbP",
   "ABDbOglNbPABDbOglPbPABDbOglQbPABDbOglRbPABDbOglTbPABDbOglVbPABDbOglWbPABDbOglYbPABDbOglZbP",
   "ABDbOgmAbPABDbOgmBbPABDbOgmCbPABDbOcndObPABDbOcowUbPABDbOcptKbPABDbOcrmQbPABDbOcsjGbPABDbO",
   "ctfWbPABDbOcuzCbPABDbOcwsIbPABDbOcxoYbPABDbOcziEbPABDbOdaeUbPABDbOdbbKbPABDbOdbyAbPABDbOdc",
   "uQbPABDbOcycYbPABEbOcxaYcxtKbPABEbOcxaYddiQbPBBDbObdoAbPABDbObdtKbPABDbObdoJbPABDbObgxFbPA",
   "BDbObdtSbPABDbObevTbPABDbObdoDbPABDbObevRbPABDbObdrPbPABDbObfnTbPABDbObnaMbPABDbObqoXbPABD",
   "bObozKbPABDbObnbSbPABDbOcdfTbPABDbObgzVbPABDbObmpHbPABDbObnlQbPABDbObnaNbPABDbObtxUbPABDbO",
   "bfvPbPABDbObrjDbPABDbOcbgRbPABDbObtyZbPABDbObfiIbPABDbObdwTbPABDbObfzWbPABDbObipYbPABDbObt",
   "aPbPABDbObdxXbPABDbOcbiDbPABDbObfoMbPABDbObtzPbPABDbObdyNbPABDbObxfEbPABDbObxfNbPABBbghZAB",
   "BbjuIABBbmlRABBbuuPIBDeIeMdXABCbYbXABCbYbYABCbYbZABCbYcAABCbYcBABCbYcCABCbYcDABCbYcEABCbYc",
   "FABCbZbWABCbZbXABCbZbYABCbZbZABCbZcAABCbZcBABBglKACBglMADBglPABBglTACBglVAFBglYABBcndOABBc",
   "owUABBcptKABBcrmQABBcsjGABBctfWABBcuzCABBcwsIABBcxoYABBcziEABBdaeUABBdbbKABBdbyAABBdcuQABC",
   "cziUcnmEABCcycYcxmUABBcxgIBBBbdoAABBbdtKABBbdoJABBbgxFABBbdtSABBbevTABBbdoDABBbevRABBbdrPA",
   "BBbfnTABBbnaMABBbqoXABBbozKABBbnbSABBcdfTABBbgzVABBbmpHABBbnlQABBbnaNABBbtxUABBbfvPABBbrjD",
   "ABBcbgRABBbtyZABBbfiIABBbudSABBbskDABBbhwTABBccrXABBbetEABBbfpOABBbpgIABBcfoVABBbdyNABBbex",
   "LABBborJABBbdoKABBbdpTABBbdoLABBbjoOABBbfuPABBbfnNABBbirVABBbipYABBbtaPABBbdxXABBcbiDABBbf",
   "oMABBbhtKABCbZcCABCbZcDABCbZcEABCbZcFABCcAbWABCcAbXABCcAbYABCcAbZABCcAcAABCcAcBABCcAcCABCc",
   "AcDABCcAcEABCcAcFABCcBbWABCbXbnaMABCbYbnaMABCbZbnaMABCcAbnaMABCcBbnaMABCcCbnaMABCcDbnaMABC",
   "cEbnaMABCcFbnaMABDbXbWbnaMABDbXbXbnaMABDbXbYbnaMABCeAdZABDdXeKdZABCdXeOABDeEeMdWABBskWABBs",
   "kYABBslAABBslCACBslEABBslHABBslJABBslLABBslNABBslPABBslRABBslTABBslVABBslXABBslZABBsmBABBs",
   "mEABBsmGABBsmIAGBsmKABBsmSABBsmVABBsmYABBsnBAFBsnEABBsnKABBsnMAGBsnOAEBsnVABCbdwUbgaMABEsk",
   "WsmRsoIsmIABEskWsnRsmVskVABEskWsnZsnAskWABDskWsoIsnRABEskYsmLsnZslKABDskYsnZsmBABDslAslDsn",
   "ZABFslCslTslJsoIsmJABEslCsoIslFsoIABDslEsnZslTABDslEsoIsnGABDslFskYsnQABEslFsnPsmDsmIABEsl",
   "FsnTsnQsoIABDslGsnTsnZABDslGsnZsnEABCslIslGABDslIsmLsoIABEslHsnLsnQsoIABEslIsnRsmAsoIABCsl",
   "HsnTABFslHsnTslKsnPsnGABGslHsnTsnHsoIsmIsnRABFslHsnTsnVsmDsmIABDslKsnPsnGABFslKsnPsnGsmIsn",
   "ZABFslJsnRslWskYsnTABEslJsnTsoIsmNABDslLsoIslTABDslNsnRsmKABDslNsoIsnDABEslPskYslJsnRABFsl",
   "PsnZsmBsoIsnGABEslRsnQsnZslKABDslVsnZsmBABDslVsnZsmIABDsmAsoIslTABCsmHslRABCsmJsnRABCsmIsn",
   "ZABCsmKsmOABDsmOsmDsmIABDsmPskYsmEABFsmRsoIslVsnZsmIABDsmRsoIsmEABEsmQsoIsnSsnRABFsmUskWsl",
   "TsmIsnRABDsmUslJsnRABCsmUslNABCsmTsnRABFsmVskVsnPsmDsmJABEsmVskXsoIsmIABFsmWsmDslRslBsnRAB",
   "DsmVsnPsnZABFsmYslJslZsoIsnRABCsnAslXABDsnAsmLsmSABDsmYsnRsmEABDsnAsnZslTABDsnAsoIslSABDsm",
   "ZsoIslZABEsnDskYsnZsmIABDsnCsnRsmIABCsnBsnZABDsnDsnZsmJABDsnBsoIsnRABDsnBsoIsnZABEsnEskYsl",
   "JsnTABDsnEskYsnRABDsnEsmDsmPABDsnEsnRslJABFsnEsnZslRsnNsnZABEsnFslJsnTsnZABCsnFsnQABFsnFsn",
   "QsmQsoIsnRABCsnHslGABEsnHslGsmIsnZABEsnHsoIsmIsnRABDsnKsoIsmJABDsnKsoIsnRABDsnMskWsnZABEsn",
   "QsmDsmIsnRABCsnQsnPABDsnRsmUsoIABEsnRsoIsmWsnRABCsnSsnGABFsnSsnZsmIslMsnZABDsnVsmDsmIABCbW",
   "bqrXABCbXbqrXABCbYbqrXABCbZbqrXABCcAbqrXABCcBbqrXABCcCbqrXABCcDbqrXABCcEbqrXABCcFbqrXABDbX",
   "bWbqrXABDbXbXbqrXABDbXbYbqrXABDbXbZbqrXABDbXcAbqrXABDbXcBbqrXABDbXcCbqrXABDbXcDbqrXABDbXcE",
   "bqrXABDbXcFbqrXABDbYbWbqrXABDbYbXbqrXABDbYbYbqrXABDbYbZbqrXABDbYcAbqrXABDeAeIdTABCdWdTABCd",
   "TeNABDdUdTeKABCeHeOABCeIdVABCdWeFABDdWeFbYABDdWeFbZABCeBeNABCbjtZbldOABCbmsBbgaMABCbhtVbor",
   "JABCbmqWbpePABEbnlQbjzZbdyWbtxUABCeIdTABCeGdTABCbkUdTABCeFdTABCeDdTABCeDdUABCeFdUABCdZdUAB",
   "DdVdTeEABEeDdVdTeEABCeIdYABCeGdYABCbkUdYABCbkUdZABCeFdZABCeDdZABCeAeSABDeDeAeSABDeFeAeSABD",
   "dZeAeSABDeMeAeSABCbkUeEABCeFeEABCdWeEABCeDeEABCdYeFABCeGeFABCbkUeFABCeFeFABCdVeFABCeDeFABD",
   "eFeFbYABDdVeFbYABCeFbYABDeDeFbYABDeFeFbZABDdVeFbZABCeFbZABDeDeFbZABDeFmxPeLABEeFmxPeLbYABC",
   "eIdTABDeDeIdTABDeFeIdTABDdZeIdTABDeKdTdWABFeKdTdWmxPeLABGeKdTdWmxPeLbYABCeIeLABCeGeLABCbkU",
   "eLABCeFeLABCeIeOABCeGeOABCbkUeOABCeFeOABCeDeOABCeFeOABCeIePABCeGePABCbkUePABCeFePABCeDePAB",
   "CeFePABCeDblHABCeFblHBBCdUeJABCdVdVABCdVdWABEdVmxPeDdZBBCdWdUABCdZeRABCeAdTABCeAeIABCeBeGA",
   "BCeDeDABCeDeFABCeDeMABCeEeFABCeEeGABDeEeHdZABCeEeQABCeFdUABDeFeBeEABDeFeHeEABCeIeABBDeIeIe",
   "FABCeIeKABCeLeKABCeLeOABCePdUABDeOmxPeFABDdTmxPeFABCbXbmpHABCbYbmpHABCbZbmpHABCcAbmpHABCcB",
   "bmpHABCcCbmpHABCcDbmpHABCcEbmpHABCcFbmpHABDbXbWbmpHABDbXbXbmpHABDbXbYbmpHABDbXbZbmpHABDbXc",
   "AbmpHABDbXcBbmpHABDbXcCbmpHABDbXcDbmpHABDbXcEbmpHABDbXcFbmpHABDbYbWbmpHABDbYbXbmpHABDbYbYb",
   "mpHABDbYbZbmpHABDbYcAbmpHABDbYcBbmpHABDbYcCbmpHABDbYcDbmpHABDbYcEbmpHABDbYcFbmpHABDbZbWbmp",
   "HABDbZbXbmpHABDdZdTeEbrgYBBckyZBBBckzBBBBckzDBBBckzFBBBckzHBBBckzJBBBckzLBBBckzNBBBckzPBBB",
   "ckzRBBBckzTBBBckzVBBBckzXBBBckzZBBBclaBBBBclaDBBBclaFBBBclaHBBBclaJBBBclaLBBBclaNBBBclaPBB",
   "BclaRTBBclbLBBBclbNBBBclbPBBBclbRBBBclbTBBBclbVBBBclbXBBBclbZBBBclcBBBBclcDBBBclcFBBBclcHB",
   "BBclcJBBBclcLBBBbqGABBbqIfCBBclhRBBBclhTBBBclhVBBBclhXBBBclhZBBBcliBBBBcliDDBBcliHBBBcliJB",
   "BBcliLBBBcliNBBBcliPBBBcliRBBBcliTBBBcliVBBBcliXBBBcliZBBBcljBBBBcljDBBBcljFBBBcljHBBBcljJ",
   "BBBcljLBBBcljNBBBcljPBBBcljRBBBcljTBBBcljVBBBcljXBBBcljZBBBclkBBBBclkDBBBclkFBBBclkHBBBclk",
   "JBBBclkLBBBclkNBBBclkPBBBclkPIBBcllABBBcllCBBBleFABBcllFBBBcllHBBBcllJBBBcllLBBBcllNEBBcll",
   "SBBBxPCBBcllXBBBcllZDBBclmDBBBclmFBBBclmHBBBclmJBBBclmLBBBclmNBBBclmPBBBclmRBBBclmTBBBclmV",
   "BBBxQABBxGABBxLABBxWABBxUBBBzUABByXABBzTABBcmwXABBclnHBBBclnJBBBclnLBBBclnNBBBclnPBBBclnRB",
   "BBclnTBBBclnVBBBclmAABBySABBlfAABBcloABBBcloCBBBxOABBcloFBBBcloHBBBcloJBBBcloLBBBcloNBBBcl",
   "oPBBBcloRBBBcloTBBBpVUBBeLABBdVABBdYABBeJABBclpUCBBlJABBnBbhIBBclhVABBcmvVABBxVABBcmwWJBBz",
   "DGdCBhlGbdgQBBcbdGABBbmzSABBccbYABBcbiEABBbpzDABBbdpYABBbfuBABBcilOABBcilOABBbhvLABBcdfTAB",
   "BbgkDABBbhvCABBblcOABBbsvXABBbwhPABBbyvVABBbzkKABBbzwQABBcctJABBbodUABBbpiHABBbqtDABBbrwWA",
   "BBbycBABBcdbUABBcghTABBbdtAABBbfpTABBbonSABBbrfNABBbyvDABBchwWABBbjiUABBbqjZABBbyrLABBcaaU",
   "ABBblkRABBbxeMABBbzoHABBbjxIABBbnbBABBbplIABBbroEABBccvUABBbedAABBbeyPABBbfjYABBbmeEABBbol",
   "VABBbrfCABBbtaTABBbwmJABBbytQABBbywYABBcbtNABBcfgSABBcgwLABBchvMABBbtqYABBbuaHABBbvoYABBbx",
   "xPABBcdrOABBciaPABBcapAABBbhrBABBbjzOABBbvcQABBbwrEABBbriGABBbttIABBcbhYABBcfeLABBbhqUABBb",
   "izQABBboeLABBbppQABBbqbNABBbvkPABBbvuTABBcexVABBbfjMABBbwrRABBbfaAABBbezKABBbugIABBbvqCABB",
   "bxzDABBcezLABBcavOABBblkXABBbodUABBcaqOABBbdqFABBbiuXABBbkjYABBbrtNABBbsmIABBbfmDABBbtvFAB",
   "BbefFABBbkfXABBbdoNABBbpfGABBbmlCABBbvkCABBbfsTABBbhmCABBbtbTABBbycNABBcanIABBbouSABBcckUA",
   "BBbpcQABBblmSABBbxoVABBblsYABBbslXABBbduSABBbevPABBbezHABBbnoZABBbvhVABBbxkHABBcaoWABBcdfR",
   "ABBbfkVABBbfxQABBbhwTABBbjyQABBbmoBABBbqkSABBbtxAABBcerTABBcgmKABBcibNABBcidQABBbfhJABBbmx",
   "YABBbosDABBcchUABBbjuAABBbkyQABBblcYABBbmcOABBbqcHABBbqxLABBbsdLABBbudEABBbvsEABBbwqPABBcc",
   "fMABBbyiWABBccpFABBcduGABBbfcHABBbfhRABBbgcJABBbqsMABBbzuOABBcanIABBbjxHABBbkiVABBblrNABBb",
   "ouGABBbvbIABBbrsVABBbdwUABBbgyJABBbiuXABBbjmWABBbkkIABBbrvEABBbscFABBbwiKABBbwpAABBcdjOABB",
   "cfeKABBcfhOABBcfpOABBbedFABBbucCABBcdeQABBcfcAABBbkrXABBbdtEABBbeqCABBbivEABBbiyHABBbmmJAB",
   "BbodUABBbrcOABBbsuKABBbyjKABBccsQABBcikZABBbmvOABBcewSABBbfgRABBbneXABBbnjNABBbpjTABBbpxCA",
   "BBbryNABBbslLABBbtpRABBbvjKABBcfsGABBbevTABBbleSABBcezOABBbejJABBbjgRABBbpqGABBccfQABBbkeT",
   "ABBbkvSABBbnkXABBbrtNABBcfaCABBbfcZABBbfvRABBbizTABBbmrBABBbndEABBbnqMABBbpgFABBbryKABBbsq",
   "SABBbwhDABBbzvBABBbzvTABBcdfOABBcfdQABBbfnRABBbpyGABBbfwFABBbrcQABBbseAABBbytEABBcfbFABBch",
   "fJABBcibVABBbnfZABBbppBABBbxfCABBbunBABBbuqIABBbveOABBbrlWABBbqqRABBcauAABBbdvKABBbxrYABBb",
   "fdQABBbfbRABBbjvYABBbllBABBbvhEABBbirDABBbpiKABBbmxGABBccgHABBbzqAABBcexXABBcacHABBbjxRABB",
   "beuAABBbgmICBBbhlYBBBbmuUCBBbfaCABBbrpYABBbszQABBbtxSABBbtzAABBbtzHABBbuaXABBcfiCABBbvgGAB",
   "BbwjTBBBbyuCBBBcaqICBBccqAABBccxPDBBcfxVABBcfyIABBcgaAABBchsUABBccwKABBcfbZABBbeeOABBbeqPA",
   "BBbeuNABBbfjDABBbfkEABBbfoJABBbgkZABBbgpAABBbgsUABBbhkYABBbhoYABBbizSABBbjaCABBbkoYABBbkxC",
   "ABBbkyOABBblcKABBbmjNABBbmpEABBbmvXABBbnpDABBbplVABBbpsCABBbqcGABBbqyWABBbrgDABBbrzMABBbtr",
   "DABBbtxUABBbtyFABBbtyEABBbtyMABBbtySABBbtyZACBbuaVABBbuhSABBbukFABBbuwMABBbvsEABBbvsZABBbv",
   "vDABBbwgWABBbwmNABBbxfHABBbxkRABBbxkRABBbydBABBbzxOABBcacSABBcaqRABBcasVABBcbiPABBcbkQABBc",
   "clAABBccqAABBcfdRABBcfoPABBcfqXABBbknTABBilgGABBbxgYCBBbdpMABBbeyNABBbevOABBbecUABBbeuFABB",
   "bewMABBbfjBABBbflAABBbgkZABBbgiFABBbgkVABBbgnQABBbhlYABBbhpJABBbhuYABBbhvOABBbifYABBbinOAB",
   "BbjxQABBbjxXABBbkdLABBbkgBABBbkrOABBbkwCABBbktKABBbkyOABBbkwUABBblcKABBbleYABBbluIABBblxSA",
   "BBblzUABBbmjUABBbmuUABBbnbBABBbnbFABBbndMABBbosFABBbouSABBbpjTABBbpzNABBbpyXABBbqcGABBbqlY",
   "ABBbqyWABBbtiDABBbrgNABBbrlFABBbrpYABBbscNABBbsiGABBbskHABBbssZABBbstBABBbszQABBbtaHABBbtb",
   "GABBbteOABBbteEABBbttKABBbumBABBbuwMABBbvdRABBbvmHABBbvsEABBbweWABBbwmNABBbxtAABBbxzBABBbz",
   "hXABBbzzLABBcacCABBcacSABBcaoDABBcaqIABBcaoPABBcaqRABBcaqOABBcapXABBcasVABBcavYABBcbkQABBc",
   "cgEABBccsGABBcddPABBcdmCABBcezSABBcfdRABBcfiCABBcfnFABBcfoPABBcfpBABBcfqXABBcgsWABBcilOABB",
   "ibdYABBibdSABBifnPABBwoZABByhCABByiJABBirbLABBivbCABBjhxZABBciiDABBcilAbMBCdYdYABCdYeBABCd",
   "YeEABDdYdYeBABDdYdYeEABCeLeMABCeLeMMBCcbScbUABCcbScbDABCcbScbJABCccCcbUABCcbScbLFBCcfPceEB",
   "BCcgOceHABBcfYABBcfGACBcfJADBcfRABBcgEABBcgGABBbRABCcgFceRABCcgFceSABDcgFceMceRABDcgFceMce",
   "SABCcfGceHABCcfGceIABCcfGceMABCcfHceMABCcfIceMABCcfJceMABCcfKceMABCcfLceMABCcfMceMBBCcfOce",
   "MABCcfPceMABCcfQceMABCcfRceMABCcfSceMBBCcfUceMBBCcfWceMABCcfXceMBBCcfZceMABCcgAceMBBCcgCce",
   "MABCcgDceMABCcgEceMABCcgFceMABCcgGceMABCcfLceJABCcfHcePABCcfRcePABCcgAcePABCcfGcfSABBclLAB",
   "BclLABBclVABBclVABBclVABBclVABBclYABBclYABBclYABBclYABBcmAABBcmAABBcmAABBcmAABBclUABBclUAB",
   "BclUABBclUABBclZABBclZABBclZABBclZABBclTABBclTABBclTABBclTABBcnKABBcnKABBcnKABBcnKABBcnMAB",
   "BcnMABBcnMABBcnMABBcmEABBcmEABBcmEABBcmEABBcmDABBcmDABBcmDABBcmDABBcmGABBcmGABBcmGACBcmGAB",
   "BcmHABBcmHABBcmHABBcmNABBcmNABBcmMABBcmMABBcmOABBcmOABBcmIABBcmIABBcmYABBcmYABBcmRABBcmRAB",
   "BcnPABBcnPABBcnPABBcnPABBcnVABBcnVABBcnVABBcnVABBcnZABBcnZABBcnZABBcnZABBcnXABBcnXABBcnXAB",
   "BcnXABBcoGACBcoGABBcoHABBcoHABBcoHABBcoMACBcoMABBcoNABBcoNABBcoNABBcoKABBcoKABBcoKABBcoKAB",
   "BcpEACBcpEABBcpFbHBBcnTABBcnTABBcnTABBcnTABBcoTABBcoTABBcoSABBcoSABBcoUABBcoUABCcoTclOABBc",
   "oXABBcoXABBcoRABBcoRABBcoVABBcoVABBcpCABBcpCABBcpCABBcpCABBcjXABBcjXABCciOciPABCciOciPABCc",
   "iOcpHABCciOcpHABCciOcjWABCciOcjWABCciOcoTABCciOcoTABCciOcoSABCciOcoSABCciOcoUABCciOcoUABCc",
   "iOcpCABCciOcpCABCciOcpCABCciOcjXABCciOcjXABCciOcjXABBcoYABBcoYABBcoYABBcoYABCciOciUABCciOc",
   "iVABCciOcjTABCciOcjXABCciOcjYABCciQciUABCciQciVABCciQciWABCciQcjTABCciQcjXABCciQcjYABCciSc",
   "iUABCciSciVABCciSciWABCciScjTABCciScjXABCciScjYABCciTciUABCciTcjTABCciTcjXABCciTcjYABCciUc",
   "iVABCciUcjTABCciVciUABCciVcjTABCciWciUABCciWciVABCciWcjTABCcjBciUABCcjBciVABCcjBciWABCcjBc",
   "jTABCcjDciVABCcjDcjTABCcjEciUABCcjEciVABCcjEciWABCcjEcjTABCcjFciVABCcjFcjTABCcjGcjTABCcjHc",
   "iUABCcjHcjTABCcjIciUABCcjIcjTABCcjPciUABCcjPciVABCcjPciWABCcjPcjTABCcjPcjXABCcjPcjYABCcjQc",
   "iVABCcjQcjTABCcjQcjXABCcjQcjYABCcjRciPABCcjRciUABCcjRciVABCcjRciWABCcjRcjSABCcjRcjTABCcjRc",
   "jXABCcjRcjYABCcjSciUABCcjSciVABCcjSciWABCcjScjTABCcjScjXABCcjScjYABCcjTciUABCcjTciVABCcjTc",
   "iWABCcjTcjTABCcjTcjXABCcjTcjYABCcjUciUABCcjUciVABCcjUciWABCcjUcjTABCcjUcjXABCcjUcjYABCcjVc",
   "iUABCcjVcjTABCcjVcjXABCcjVcjYABCcjYciUABCcjYciVABCcjYciWABCcjYcjTABCcjYcjXABCcjYcjYABCciYc",
   "lKABCciZclKABCcjXclKABDbGckAckFABDbGckBckFABDbGckCckFABDbGckDckFABDbGckEckFABDbGckFclKABCc",
   "iOciZABCciOcjAABCciOcjTABCciOcjUABCciOcjXABCciOcjYABCciQciZABCciQcjAABCciQcjTABCciQcjUABCc",
   "iQcjXABCciQcjYABCciSciZABCciScjAABCciScjTABCciScjUABCciScjXABCciScjYABCciTciZABCciTcjAABCc",
   "iTcjTABCciTcjUABCciTcjXABCciTcjYABCcjPcjXABCcjPcjYABCcjQcjXABCcjQcjYABCcjRciPABCcjRcjSABCc",
   "jRcjTABCcjRcjXABCcjRcjYABCcjScjTABCcjScjXABCcjScjYABCcjTciPABCcjTcjTABCcjUciZABCcjUcjAABCc",
   "jUcjTABCcjUcjUABCcjUcjXABCcjUcjYABCcjXclKABCcjYciZABCcjYcjAABCcjYcjTABCcjYcjUABCcjYcjXABCc",
   "jYcjYABCciOciUABCciOciVABCciOciWABCciOcjTABCciOcjVABCciQciUABCciQciVABCciQciWABCciQcjTABCc",
   "iQcjVABCciSciUABCciSciVABCciSciWABCciScjTABCciScjVABCciTcjTABCciUciVABCciUcjTABCciVciUABCc",
   "iVcjTABCciWciUABCciWcjTABCcjBciUABCcjBciVABCcjBciWABCcjBcjTABCcjDciVABCcjDciWABCcjDcjTABCc",
   "jEciUABCcjEciVABCcjEciWABCcjEcjTABCcjFciVABCcjGcjTABCcjHciUABCcjHcjTABCcjIciUABCcjIcjTABCc",
   "jPciUABCcjPciVABCcjPciWABCcjPcjTABCcjQciVABCcjQcjTABCcjRciUABCcjRciVABCcjRciWABCcjRcjSABCc",
   "jRcjTABCcjSciUABCcjSciVABCcjSciWABCcjScjTABCcjScjVABCcjTciUABCcjTciVABCcjTciWABCcjTcjTABCc",
   "jUciUABCcjUciVABCcjUciWABCcjUcjTABCcjUcjVABCcjVciUABCcjVcjTABCcjVclKABCcjYciUABCcjYciVABCc",
   "jYciWABCcjYcjTABCcjYcjVABCciOcjTABCciOcjVABCciQcjTABCciQcjVABCciScjTABCciScjVABCciTcjTABCc",
   "iTcjVABCcjBcjTABCcjBcjVABCcjCcjTABCcjCcjVABCcjRcjSABCcjRcjTABCcjScjTABCcjUcjTABCcjUcjVABCc",
   "jYcjTABCcjYcjVABDcjOckCckFABDcjOckDckFABDcjOckEckFABCcjFcjXABCcjFcjYABCcjHcjXABCcjHcjYABCc",
   "jIcjXABCcjIcjYABCcjBcjXABCcjBcjYABCcjCcjXABCcjCcjYABCciVcjXABCciVcjYABCciUcjXABCciUcjYABCc",
   "iWcjXABCciWcjYABCcjDcjXABCcjDcjYABCcjEcjXABCcjEcjYABCcjCciUABCcjCciVABCcjCciWABCcjCcjTABCc",
   "jCciZABCcjBciZABCcjDciZABCcjEciZABCcjFcjXABCcjFcjYABCcjHcjXABCcjHcjYABCcjIcjXABCcjIcjYABCc",
   "jBcjXABCcjBcjYABCcjCcjXABCcjCcjYABCciVcjXABCciVcjYABCciUcjXABCciUcjYABCciWcjXABCciWcjYABCc",
   "jDcjXABCcjDcjYABCcjEcjXABCcjEcjYABCcjCciUABCcjCciVABCcjCciWABCcjCcjTABCcjCciZABCcjBciZABCc",
   "jDciZABCcjEciZABCcjCciUABCcjCciVABCcjCciWABCcjCcjTABCcjBcjVABCcjCcjVABCcjFcjTABCcjBciUABCc",
   "jBciVABCcjBciWABCcjCciUABCcjCciVABCcjCciWABCcjFcjTABCcjGcjTABCciPcjZABCciPcjZSBDciSciUcjTA",
   "BDciSciVciUABDciSciVciUABDciSciVcjTABDciSciWcjTABDciScjTciUABDciScjTciVABDciScjTciWABDciUc",
   "jTciVABDciUcjTciVABDciVcjTcjYABDciVcjTcjXABDcjBciVciUABDcjBciUciVABDcjBciUcjXABDcjBcjTciVA",
   "BDcjBcjTciVABDcjBcjTciUABDcjBcjTcjTABDcjBcjTcjTABDcjDciVciVABDcjDciVciVABDcjDcjTcjTABDcjCc",
   "iVcjTABDcjCciVcjTABDcjCciUcjYABDcjCcjTciWABDcjCcjTciWABDcjCcjTcjTABDcjCcjTcjTABDcjEciVcjXA",
   "BDcjEciWcjTABDcjEciWcjTABDcjFcjTciVABDcjFcjTciVABDcjFcjTcjTABDcjFcjTcjYABDcjHciUcjTABDcjHc",
   "jTcjTABDcjHcjTcjTABDcjHcjTcjXABDcjIcjTcjTABDcjIcjTcjYABDcjIcjTcjXABDcjPciWcjTABDcjPciWcjTA",
   "BDcjQcjTciVABDcjQcjTcjTABDcjSciVcjTABDcjSciVcjYABDcjSciVcjXABDcjSciUciUABDcjSciUciUABDcjSc",
   "iWcjTABDcjSciWcjTABDcjScjTciVABDcjScjTciVABDcjTciVciUABDcjTciVcjTABDcjTciVcjYABDcjTciUciVA",
   "BDcjTciUcjTABDcjTciWciUABDcjTciWcjTCBDcjTciUciWABDcjVcjTciUABDcjVcjTcjTABDcjUciVcjTABDcjUc",
   "iVcjXABDcjUciUcjTABDcjUciUcjTABDcjUciUcjXABDcjUcjTcjYABDcjUcjTcjXABDcjYcjTcjTABDcjYcjTcjTA",
   "BDciQciWcjYABDciSciUcjYABDciSciUcjXABDciSciWcjYABDciSciWcjXABDciScjTcjYABDciScjTcjXABDciUc",
   "jTcjYABDciUciVcjXABDciUcjTcjXABDcjBciWcjXABDcjDciVcjYABDcjCciVcjYABDcjEciVcjYABDcjSciUcjYA",
   "BDcjScjTcjYABDcjYciVcjYABDcjYciUcjYABDcjYcjTcjYABDcjTcjTcjYABDcjQcjTcjYABDcjUciVcjYABDcjQc",
   "jTciVABDcjSciVcjTABDcjHcjTcjYABDcjRcjTcjYABDcjUciUciVABDcjTciWcjYABDcjSciUcjTABDcjRcjTcjTA",
   "BDcjSciUcjTABDcjUciUciVABDciUciVcjYABDciVciUcjYABDcjTciUcjYABDcjPcjTcjYABDciQciVcjYABDcjRc",
   "jTcjTABDcjHciUcjTABDcjDcjTcjTABDcjBciWcjYABDcjUciUcjYbOBDcjDcjScpEABDcjQcjScpEABEciPcjScjS",
   "cjVABEciPcjRciQciZABEcjTciVcjTciXABEcjDcjScjHcjTABEciZcjBcjWcjSABEcjHcjScjYcjVABEcjWcjBcjS",
   "cjTABDcjDcjScjXABScjDcjScjXbGciPcjScjScjVbGcjHcjScjYcjVbGcjWcjBcjScjTABIciUcjSbGciUcjSciPc",
   "jScjVABEciZcoYciPcjSTBBbSABBseRBCBcGABBbHABBcLACBsfMYBBmdWABBmdVABBdRABBdRACBbOABBeTABBeVA",
   "CBsfKACBsfGACBsfAACBseYAEBsfCCBBdNABBdPABCbGbdTABCbGbdTABCbGbdTABCbGbdTABBdRABBdRABBdRABBb",
   "SABBseRCBBcHABBcGABBcLABBbHABBmdWACBbOABBeTABBeVACBsfKABBbJABBbMACBbQABBbTABBcIABBcKABBcJB",
   "BBdOACBbKABBcMEBCbGcjZABCcjOcjZABCbGckABBCbGckBBBCbGckCABCcjOckCABCbGckDABCcjOckDABCbGckEA",
   "BCcjOckEABCbGckFABCcjOckFABCbGckGABCcjOckGACBciJACBciKACBciLACBciMACBciNABBciOABBciOACBciO",
   "ACBciPABBciQABBciQACBciQACBciRABBciSABBciSACBciSABBciTABBciTACBciTABBciUABBciUACBciUABBciV",
   "ABBciVACBciVABBciWABBciWACBciWACBciXACBciYACBciZACBcjAABBcjBABBcjBACBcjBABBcjCABBcjCACBcjC",
   "ABBcjDABBcjDACBcjDABBcjEABBcjEACBcjEABBcjFABBcjFACBcjFABBcjGABBcjGACBcjGABBcjHABBcjHACBcjH",
   "ABBcjIABBcjIABBcjIABBcjPABBcjPABBcjPACBcjPABBcjQABBcjQACBcjQABBcjRABBcjRACBcjRABBcjSABBcjS",
   "ACBcjSABBcjTABBcjTACBcjTABBcjUABBcjUACBcjUABBcjVABBcjVACBcjVACBcjWACBcjXABBcjYABBcjYABBcjY",
   "ABCcjSciKABCcjSciKABCcjSciLABCcjSciLABCcjSciNABCcjSciNABCcjSciPABCcjSciPEbGBbHAbABdTAbKBdN",
   "ACBpsVABBbUACBsfCABBseRABBsoHABBsnYABBskVABBskXABBskZABBslBABBslDABBsnJABBsnLABBsnNABBsmDA",
   "BBsoIABBskWABBskYABBslAABBslCACBslEABBslHABBslJABBslLABBslNABBslPABBslRABBslTABBslVABBslXA",
   "BBslZABBsmBABBsmEABBsmGABBsmIAGBsmKABBsmSABBsmVABBsmYABBsnBAFBsnEABBsnKABBsnMAGBsnOABBsnVA",
   "BBsnZACBskNBCBglKABBgrYABBglMACBgsAADBglNAGBgsEABBgmKADBglQABBgmRAKBglTDGBgpDCGBgpJCGBgpPC",
   "DBgpVDCBgGABBgQABCbGbdSABBgKABBgJABBmjPBBBoaKAEBmsMABBogMABBoiDboBbOBdunOfGbKBduuIgALBdvbR",
   "BPBdvcDBHBdvcTBCBdvdBsXCBbbSABBiWABBzPABBwXBBBzZABBcmxQABBbaBABBbaAACBxAABBlfDABBxCABBxIAB",
   "BbaFABBxOABBxMABBxKABBzRABBlJABBzSABBxRABByUACBbaGABBxWABBgzkMABBcllUABBxYABBgzkNABBzEABBg",
   "zkOABBjOACByGABBeJABByKABBgzkQACByNABByQABBbaEABBbaCABBcmxRABBbaDABByYABBqvPBBBzFACBzXABBz",
   "OADBrGABBgzkSABBgzlMbuZbZBdxuEgBWBdyaYegObGBeciIbgjWbGBfitKcMZBfiwXbjqRbABdTAKBbWbrGBCgufV",
   "gugJABCgufWgugJABDgufWgugJgugSABDgufWgugJgugTABDgufWgugJgugUABDgufWgugJgugVABDgufWgugJgugW",
   "dIBCgujPgugJABCgujQgugJABDgujPgugJgugSABDgujQgugJgugSABDgujPgugJgugTABDgujQgugJgugTwDbABdT",
   "AbABdTAbABdTAHBdTBSBeBAbABdTAbABdTABBdTBCBdVCBBdZCCBeCCEBeGBIBeLAEBdTBBBdYBHBeABLBeIAbABdT",
   "AbABdTACBdTBEBdWCIBeCBHBeLBbABdTACBdTBEBdWBFBeBBBBeHDHBeLBbABdTAbABdTAbABdTAbABdTAbABdTAbA",
   "BdTAbABdTAbABdTAbABdTAbABdTAbABdTAbABdTAbABdTABBlTABBvVCRBbkJABBbkQAHBblBABBmxBARBbkJABBbl",
   "BAHBblBABBmwWABBbkNABBbkQABBbkSABBblEABBbkZABBbkYARBbkJABBbkQAHBblBABBmxBARBbkJABBblBAHBbl",
   "BABBmwWABBbkNABBbkQABBbkSABBblEABBbkZABBbkYARBbkJABBbkQAHBblBABBmxBARBbkJABBblBAHBblBABBmw",
   "WABBbkNABBbkQABBbkSABBblEABBbkZABBbkYARBbkJABBbkQAHBblBABBmxBARBbkJABBblBAHBblBABBmwWABBbk",
   "NABBbkQABBbkSABBblEABBbkZABBbkYARBbkJABBbkQAHBblBABBmxBARBbkJABBblBAHBblBABBmwWABBbkNABBbk",
   "QABBbkSABBblEABBbkZABBbkYABBbmBABBbmBCKBbWAKBbWAKBbWAKBbWAKBbWdcQJBbpGADBbpQALBbpUABBbqHAC",
   "BbqJABBclbTABBbvTABBbqSABBbqUABBbwJABBbuDABBbvJAJBbpGACBbpQACBbpUABBbpXAGBbpZACBbqGABBbsZA",
   "BBbqSABBbqRABBbrBABBbtZABBckzPABBbuFdgKbIBhdgCbvYCBciPABBciUABBciXBBBcjWABBcjAABBciVABBcjF",
   "ABBcjYAEBcjRABBcjBABBcjHABBcjPABBcjDABBcjQABBciZABBcjCACBciSABBciWABBciYABBcjEABBcjGABBcjI",
   "ABBclIABBcoGABBcnHABBclJBBBciQABBciUBBBcjVCBBciVBBBcjYAEBcjRABBcjBABBcjHABBcjPABBcjDABBcjQ",
   "BBBcjCACBciSABBciWBBBcjEBBBcjIGBBciUEBBciVBBBcjYBBBcjSBBBcjUABBcjBABBcjHBBBcjDABBcjQBBBcjC",
   "CBBciWBBBcjEBBBcjIBBBcoGBBBclJBBBciQABBciUBBBcjVCBBciVABBcjFABBcjYABBcjRBCBcjTABBcjBABBcjH",
   "ABBcjPABBcjDABBcjQBBBcjCACBciSABBciWBBBcjEABBcjGABBcjIABBclIBBBcnHBCBciPABBciUABBciXACBcjV",
   "ABBcjAABBciVABBcjFABBcjYBDBcjSABBcjBABBcjHABBcjPABBcjDABBcjQABBciZABBcjCACBciSABBciWABBciY",
   "ABBcjEABBcjGABBcjIFBBciQABBciUABBciXBBBcjWABBcjAABBciVABBcjFABBcjYBDBcjSABBcjBABBcjHABBcjP",
   "ABBcjDABBcjQABBciZABBcjCACBciSABBciWABBciYABBcjEABBcjGABBcjIwJBCbWbSABCbXbSABCbYbSABCbZbSA",
   "BCcAbSABCcBbSABCcCbSABCcDbSABCcEbSABCcFbSFBDbOdTbPABDbOdUbPABDbOdVbPABDbOdWbPABDbOdXbPABDb",
   "OdYbPABDbOdZbPABDbOeAbPABDbOeBbPABDbOeCbPABDbOeDbPABDbOeEbPABDbOeFbPABDbOeGbPABDbOeHbPABDb",
   "OeIbPABDbOeJbPABDbOeKbPABDbOeLbPABDbOeMbPABDbOeNbPABDbOeObPABDbOePbPABDbOeQbPABDbOeRbPABDb",
   "OeSbPABDsfKeLsfLABBdVABBeKABCdVdWABCePeSBbABdTABCeAeOABCeFeOABCeLdWABCeLeLABDeIeIeOABCePdV",
   "bABCeFdVABCeFdWABCeFeKbJBCdWeCeHBCsjJshNABCslNslNABBslPNBBblfVABBbipJABBbftCABBsmHABBbdtKA",
   "BBbhtIABBcafRABBbhtXABBbduIABBbmrOABBbqvXABBbmmJABBbfeJABBbkeUABBbewZABBbmnGABBbfcNABBbvlI",
   "ABBbsjFABBcbgZABBbhrSABBbfxHABBbqbSABBbliRABBblqBABBbdoAABBbdoJABBccqSABBbjoOABBbdpTABBbfu",
   "PABBblnBABBcboQABBblgDABBbuaJABBbujYABBbfvKABBbpwAABBbnaNABBbnaMABBbsjZABBbffUABBbglYABBcd",
   "aREBDsfKbnbWsfLABDsfKbdoJsfLABDsfKbdtKsfLABDsfKbirHsfLABDsfKbqrXsfLABDsfKblgDsfLABDsfKbtaD",
   "sfLABDsfKbfjXsfLABDsfKbmjVsfLHBBbkfFABBbfuLdqSKBbWdrlMBBbdqJABBbdqEABBbdqNABBhmiKABBbebOAB",
   "BbeeOABBbefBABBbehUABBbemKABBbenPABBbeqPABBbepRABBtyCABBhogOABBbeuNABBbeuUABBbevKABBbewDAB",
   "BhnvOABBtzDABBbevNABBbewZABBhnxJABBbexJABBbexWABBbdvWABBbeyEABBbeyNABBjpdNABBbfaZABBbfbNAB",
   "BuaPABBbfdRABBbfeCABBbffUABBbffZABBucRABBbfjBABBbfjDABBbfkEABBbflAACBbflLABBbfmDABBbfoBABB",
   "bfoJABBbfoSABBbfpRABBbfqBABBbfqDABBbfqDABBbfqDABBhptKABBbqpCABBbftAABBbftVABBhqfJABBbfuHAB",
   "BbfuNABBbfvIABBbgbEABBbfxGABBbfxWABBbfzCABBbgbIABBbgeOABBbgfOABBbgiDABBbgiTABBbgkAABBbgkAA",
   "BBbgkVABBbglNABBbglVABBbgmKABBbgzMABBbgpAABBbgzNABBbgrXABBbgtGABBbfbRABBbhrQABBbhgOABBbhiA",
   "ABBbhiZABBbhdZABBbhkKABBbhkJABBbhpCABBhtuYABBbhrUABBbhrZABBbhsOABBbhtIABBbhtQABBbhwCABBhum",
   "IABBhuoWABBbibKABBbidFABBbidRABBbiaQABBbigCABBuuWABBuvKABBbimIABBbioKABBbioKABBhvrCABBbitN",
   "ABBbiuIABBbiuXABBbivJABBhweAABBbivVABBbiwCABBbkcPABBbixEABBvaNABBbizOABBbjaCABBbjdGABBbjbH",
   "ABBhxfOABBbjiHABBhxfQABBbjjYABBbjjVABBbjkMACBbjoJABBvhFABBbjpLABBbjrCABBbjrXABBbjtPABBvjEA",
   "BBhypFABBvkEABBbjwIABBbjwLABBbjwOABBbjxIABBjvvUABBbjzIABBhzfTABBhzfTABBbxgBABBbkaSABBbkaSA",
   "BBvnBABBifcQABBiwySABBbkdEABBbkdNABBvoDABBbkfIABBbkhHABBbkhRABBbkiZABBbkoFABBvrMABBvqIABBb",
   "koYABBiapOABBbkqXABBbkvWABBbkwAABBbkwCABBbkwAABBbkxUABBbkyOABBbkzYABBbkzKABBbkzVABBblbQABB",
   "blcKABBblcOABBbldOABBbldZABBblgNABBbljTABBbllCABBblpWABBicfCABBblpDABBblmQABBblqUABBblrVAB",
   "BblvOABBicnXABBblxYABBbluJABBbltHABBwaWABBbmaRABBbmbMABBbmcRABBbmbFABBwdGABBbmjNABBbmkQABB",
   "iecGABBbmpFABBbmzWABBbmtDABBwjXABBbmvXABBwjGABBwhWABBbexEABBbexHABBbnaEABBbmwIABBbwsZABBzs",
   "BABBbnbBABBbnbFABBbnbLABBbndUABBbndJABBifmXABBwlTABBbnjUABBbnfHABBbnnEABBbnpDABBiftLABBbnp",
   "MABBbnlFABBbnuQABBwoZABBbnwKABBboaDABBbocWABBbokEABBigpFABBbomDABBwtSABBbooVABBihjBABBboqU",
   "ABBwvUABBborYABBbotRACBbouSABBiibTABBhwxFABBiifYABBbpaKABBiixGABBbpeTABBbpfHABBbpbJABBbpiC",
   "ABBbpjQABBbplVABBbpjTABBbplHABBbplWABBbpmJABBijbAABBbpjGABBbpsXABBbpvIABBxePABBbpyXABBbpyT",
   "ABBijrTABBbpqVABBbqfEABBijxEABBijzAABBbqiOABBbqmZABBbqlYABBbqlVABBxiKABBbqnQABBbqpPABBbqpJ",
   "ABBbqrLABBhnvXABBbqxHABBilaXABBbraQABBilnNABBbrgAABBbrgNABBbrhOABBimkUABBbrjKABBbrkFABBimw",
   "JABBineYABBbrtAABBbrtRABBxtCABBbruRABBxtOABBxtOABBbsaXABBbsbSABBbscNABBbsdHABBbsfYABBxxJAB",
   "BbsjKABBiotQABBbskKABBioxEABBbsmIABBhyqHABBbssMABBiqbHABBiqcEABBiqhOABBygAABBygMABBbtbGABB",
   "iqoHABBiqoGABBiqpTABBiqqTACBbtcWABBbtcXABBbteOABByiJABBbthBABByiWABBylYABBirtLABBbtoOABBbt",
   "qYABBbttKABByoXABBisnMABBbtySABBisrYABBistPABBbuaXABBbueLABByrVABBbuhSABBbuiCABBbuiHABBitu",
   "IABBiufVABBiufVABBbuoKABByzYABBiupVABBbuwSABBbuwVABBzbJABBiuyAABBbvhAABBzgAABBbvhWABBbvhRA",
   "BBbviUABBiwbUABBbvmPABBzjTABBbvqLABBbvsSABBbvvHABBzlSABBixbSABBixcXABBznDABBixiNABBbwhEABB",
   "ixmKABBbwiFABBbwmCABBbwmNABBiycGABBiyfBABBbwqAABBiykEABBbwqQABBifjBABBzrXABBbwtEABBbwwHABB",
   "ztZABBbwyOABBbijDABBizdVABBizeJABBiflBABBiflKABBbxgBABBbxgEABBcckCABBzxRABBbxlPABBbxlJABBb",
   "xmBABBbfiHABBbxmVABBbxmXABBbxnHABBbxoWABBjanCABBbxoVABBbxqZABBbxtRABBbxwNABBbxrFABBbxxDABB",
   "bxyTABBbydBABBbxtBABBbxxQABBbxxSABBbxyIABBjawSABBjbiPABBjbcVABBbafBABBbyiZABBbyjBABBbykKAB",
   "BjdtIABBbynKABBjbzWABBbagZABBbahDABBjceZABBjcqCABBbahNABBbywMABBbywYABBbyxJABBbyxLABBbyzXA",
   "BBbyyQABBbzdUABBbzcCABBbzhXABBbzeUABBbzhJABBbziKABBbalRABBbzlXABBbznDABBbamZABBbzqUABBbzqX",
   "ABBjetBABBbzvJABBbzvQABBbapHABBbzwSABBtzFABBjfpMABBjfwOABBbauOABBbauXABBcamYABBcapXABBcavY",
   "ABBcbdTABBjhcQABBcbhBABBcbhXABBcblJABBcboXABBjibNABBhoyEABBcbsDABBcbrOABBcbtOABBhpgOABBccc",
   "IABBccgEABBjkoWABBjkpXABBcctOABBccxDABBccyJABBjlcGABBccyTABBcdjSACBcdpVABBcdmIABBceaZABBce",
   "cBABBjmxMABBceqLABBbbwNABBcesDABBjnmDABBbbzQABBcfcLABBbjmOABBcfgDABBjoxPABBjpfUABBbceWABBb",
   "cfEABBcfnKABBjpyWABBbchMABBjqeGABBcfpBABBcfpBABBcfqFABBjqpIABBcfxIABBbcmLABBcgaBABBcgeXABB",
   "cgfYABBcgiGABBbcsKABBjsrGABBcgsWABBcheMABBchlTABBbdcGABBbddLABBchpVABBjuuOABBbddWABBjuwRAB",
   "BjvgWABBjvlXABBcicXABBbdhMABBcifHABBcifMABBcifTABBcigDABBcigKABBcihVABBjwtS"]

end FieldRules.Unicode
