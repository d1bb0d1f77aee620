/-!
The order of combining marks, and the characters that a letter and a mark compose to.
-/

namespace FieldRules.Unicode

/-- The combining classes of marks, except for the class zero. -/
def combiningRuns : List (Nat × List String) :=
  [(1, ["bfOFjsDBNHbmNCEDKCDCdkjDBbkqGFbeyBBhwQD"]),
    (6, ["fjiUC"]),
    (7,
      ["dmYBeXBeXBeXBeXBjVBeXBbiGBeeEBgVBdCBcbpBBbnaKBhCBdIBeDBgWBdDCkFBeUBjSBjMBoWBkEBbnIBcz",
       "gXB"]),
    (8, ["skNC"]),
    (9,
      ["dnPBeXBeXBeXBeXBeXBeXBeXBeFCQBeUBeHBeXBhTBgYCcpLCbEBgBBzDBiTBdXCcSCgqTBbukKBbLBfVBfMB",
       "eEBlXBjMBbjsRBchIBbPBOBcFBeRCfJBeMBgYBdUBeYDeJBeXBjSBeXBeOBeMBkJBjZCgFBdFBSBdDBqFBkAC",
       "dDBqJCyzCB"]),
    (10, ["ceAB"]),
    (11, ["ceBB"]),
    (12, ["ceCB"]),
    (13, ["ceDB"]),
    (14, ["ceEB"]),
    (15, ["ceFB"]),
    (16, ["ceGB"]),
    (17, ["ceHB"]),
    (18, ["ceIBOB"]),
    (19, ["ceJC"]),
    (20, ["ceLB"]),
    (21, ["ceMB"]),
    (22, ["ceNB"]),
    (23, ["cePB"]),
    (24, ["ceRB"]),
    (25, ["ceSB"]),
    (26, ["drcOB"]),
    (27, ["cjZBbaAB"]),
    (28, ["ckABbaAB"]),
    (29, ["ckBBbaAB"]),
    (30, ["ciABcBB"]),
    (31, ["ciBBcBB"]),
    (32, ["ciCBcBB"]),
    (33, ["ckFB"]),
    (34, ["ckGB"]),
    (35, ["clKB"]),
    (36, ["crPB"]),
    (84, ["erLB"]),
    (91, ["erMB"]),
    (103, ["fkAC"]),
    (107, ["fkQE"]),
    (118, ["foYC"]),
    (122, ["fpOE"]),
    (129, ["fwBB"]),
    (130, ["fwCBHECB"]),
    (132, ["fwEB"]),
    (202, ["beVCECkcLB"]),
    (214, ["lhMB"]),
    (216, ["bePBepHBgomLCHF"]),
    (218, ["ljEBgxBB"]),
    (220,
      ["beKECFCECLFEKDDCEECCvUBEBEBGGCBbABfNCFBCBfBBGBCBcPBCBCDBCBBDBBBBBBBgNBKBdNDcJDbZFPBCB",
       "CBDDGBCCdJBceVCbBBBBfMBhQBdhLBiMBdYBcBGCBBCCCFBSBIBfDBnWFCENBiEBHBEBbPBDBBBbcQBDEbzpJ",
       "DpABbfpQHblNBiSBcsQBbSBgPBboDCBDcSCDBBEbYBBBcvlTIHChiWBjWBbcIH"]),
    (222, ["cdEBSBhkLBirZB"]),
    (224, ["sgKC"]),
    (226, ["gugRB"]),
    (228, ["cdYBheWBcaFCgxEB"]),
    (230,
      ["bdOVbODCBDBDDDDEBDBHNkPFkGEBDCGGCBCCBUBcXIcHCCFBCePHCEBBCCCCcPBBCBCDBCBBDBBBBBBBCgEHB",
       "BbIEBJBDBFeBCDEbQFFOCCBCBDGDBCCFdDBBCgNBccHCCCblTDbsFBnKBiMBdPIbZFGCECCFBSDGBEeYBBHnK",
       "DHCEBTBDChQCBHBCEbLFBCBbbTCCEDCEBFBBBGBeoCDjEbGbtpVBEKbGCdCCtASrEBBCDCFCBBbfoWHHCbzYF",
       "cmUBbOBgQBwCEcNFmFCfZDBBcBBBBoPDxNHDFiZBbgwVHbmtIFbGEfSDffFHBRCHBCBFdWBgEHoLBcJEtRBjU",
       "BjKBCBHCFBwSG"]),
    (232, ["beJBEBcJBkcBBgxHBgjkHC"]),
    (233, ["bhCBCBCBkbXB"]),
    (234, ["bhDCBCixTBbcJB"]),
    (240, ["bgFB"])]

/-- Characters that are composed of two others: the distance from the one before, and the two
others. -/
def compositionLines : List String :=
  ["hKcNbdOBcNbdPBcNbdQBcNbdRBcNbdWBcNbdYCcPbfBBcRbdOBcRbdPBcRbdQBcRbdWBcVbdOBcVbdPBcVbdQBcVbd",
   "WCdAbdRBdBbdOBdBbdPBdBbdQBdBbdRBdBbdWDdHbdOBdHbdPBdHbdQBdHbdWBdLbdPDdTbdOBdTbdPBdTbdQBdTbd",
   "RBdTbdWBdTbdYCdVbfBBdXbdOBdXbdPBdXbdQBdXbdWBeBbdOBeBbdPBeBbdQBeBbdWCeGbdRBeHbdOBeHbdPBeHbd",
   "QBeHbdRBeHbdWDeNbdOBeNbdPBeNbdQBeNbdWBeRbdPCeRbdWBcNbdSBdTbdSBcNbdUBdTbdUBcNbfCBdTbfCBcPbd",
   "PBdVbdPBcPbdQBdVbdQBcPbdVBdVbdVBcPbeABdVbeABcQbeABdWbeADcRbdSBdXbdSBcRbdUBdXbdUBcRbdVBdXbd",
   "VBcRbfCBdXbfCBcRbeABdXbeABcTbdQBdZbdQBcTbdUBdZbdUBcTbdVBdZbdVBcTbfBBdZbfBBcUbdQBeAbdQDcVbd",
   "RBeBbdRBcVbdSBeBbdSBcVbdUBeBbdUBcVbfCBeBbfCBcVbdVEcWbdQBeCbdQBcXbfBBeDbfBCcYbdPBeEbdPBcYbf",
   "BBeEbfBBcYbeABeEbeAFdAbdPBeGbdPBdAbfBBeGbfBBdAbeABeGbeAEdBbdSBeHbdSBdBbdUBeHbdUBdBbdZBeHbd",
   "ZDdEbdPBeKbdPBdEbfBBeKbfBBdEbeABeKbeABdFbdPBeLbdPBdFbdQBeLbdQBdFbfBBeLbfBBdFbeABeLbeABdGbf",
   "BBeMbfBBdGbeABeMbeADdHbdRBeNbdRBdHbdSBeNbdSBdHbdUBeNbdUBdHbdYBeNbdYBdHbdZBeNbdZBdHbfCBeNbf",
   "CBdJbdQBePbdQBdLbdQBeRbdQBdLbdWBdMbdPBeSbdPBdMbdVBeSbdVBdMbeABeSbeAbIdBbePBeHbePOdHbePBeNb",
   "ePbDcNbeABdTbeABcVbeABeBbeABdBbeABeHbeABdHbeABeNbeABiMbdSBjSbdSBiMbdPBjSbdPBiMbeABjSbeABiM",
   "bdOBjSbdOChObdSBiUbdSBvEbdSBvFbdSBhQbdSBiWbdSDcTbeABdZbeABcXbeABeDbeABdBbfCBeHbfCBsWbdSBsX",
   "bdSBqXbeABzIbeABeCbeAEcTbdPBdZbdPDdAbdOBeGbdOBhPbdPBiVbdPBhQbdPBiWbdPBiIbdPBjObdPBcNbeDBdT",
   "beDBcNbeFBdTbeFBcRbeDBdXbeDBcRbeFBdXbeFBcVbeDBeBbeDBcVbeFBeBbeFBdBbeDBeHbeDBdBbeFBeHbeFBdE",
   "beDBeKbeDBdEbeFBeKbeFBdHbeDBeNbeDBdHbeFBeNbeFBdFbfABeLbfABdGbfABeMbfADcUbeABeAbeAHcNbdVBdT",
   "bdVBcRbfBBdXbfBBiGbdSBjMbdSBiFbdSBjLbdSBdBbdVBeHbdVBvMbdSBvNbdSBdLbdSBeRbdSnAgMbdPBbjDbdPC",
   "bjHbdPBbjJbdPBbjLbdPCbjRbdPCbjXbdPBbkBbdPBblIbdPbAbjLbdWBbjXbdWBbkJbdPBbkNbdPBbkPbdPBbkRbd",
   "PBblJbdPbAbkRbdWBblDbdWBbkXbdPBblDbdPBblHbdPFblQbdPBblQbdWbSboFbdOBboFbdWCboDbdPEbnQbdWFbo",
   "KbdPBboIbdOBboTbdULboIbdUbGbpObdUXbpLbdOBbpLbdWCbpJbdPEbqSbdWFbpQbdPBbpObdOBbpZbdUYbrWbeDB",
   "brXbeDcWboGbdUBbpMbdUOboAbdUBbpGbdUBboAbdWBbpGbdWDboFbdUBbpLbdUDbvSbdWBbvTbdWBboGbdWBbpMbd",
   "WBboHbdWBbpNbdWDboIbdSBbpObdSBboIbdWBbpObdWBboObdWBbpUbdWDbwIbdWBbwJbdWBbpDbdWBbqJbdWBboTb",
   "dSBbpZbdSBboTbdWBbpZbdWBboTbdZBbpZbdZBboXbdWBbqDbdWDbpBbdWBbqHbdWlLciPckHBciPckIBcjWckIBci",
   "PckJBcjYckIfYcpHckICcoNckIRcpEckIxAdmEdmYIdmMdmYDdmPdmYfVdsHdrYBdsHdsXoQehBehQDehBegSBehBe",
   "hRcUejYemPcCelYelQBelZelQBelYemPeUeqWerMeQevNewJHevUewJBevUewKCevUevQBevYewJeXfaSfaKBfaTfa",
   "KBfaSfbJfMfgJffUCfgJffZBfgMffUBfgJfgPwMgcZgdIedCkgBkhXCkgDkhXCkgFkhXCkgHkhXCkgJkhXEkgNkhXb",
   "PkiCkhXCkiEkhXDkiGkhXBkiHkhXCkiKkhXbaZcNbeZBdTbeZBcObdVBdUbdVBcObeXBdUbeXBcObfLBdUbfLBhRbd",
   "PBiXbdPBcQbdVBdWbdVBcQbeXBdWbeXBcQbfLBdWbfLBcQbfBBdWbfBBcQbfHBdWbfHBkObdOBkPbdOBkObdPBkPbd",
   "PBcRbfHBdXbfHBcRbfKBdXbfKBvGbdUBvHbdUBcSbdVBdYbdVBcTbdSBdZbdSBcUbdVBeAbdVBcUbeXBeAbeXBcUbd",
   "WBeAbdWBcUbfBBeAbfBBcUbfIBeAbfIBcVbfKBeBbfKBhZbdPBjFbdPBcXbdPBeDbdPBcXbeXBeDbeXBcXbfLBeDbf",
   "LBcYbeXBeEbeXBllMbdSBllNbdSBcYbfLBeEbfLBcYbfHBeEbfHBcZbdPBeFbdPBcZbdVBeFbdVBcZbeXBeFbeXBdA",
   "bdVBeGbdVBdAbeXBeGbeXBdAbfLBeGbfLBdAbfHBeGbfHBiFbdPBjLbdPBiFbdWBjLbdWBmUbdOBmVbdOBmUbdPBmV",
   "bdPBdCbdPBeIbdPBdCbdVBeIbdVBdEbdVBeKbdVBdEbeXBeKbeXBlmWbdSBlmXbdSBdEbfLBeKbfLBdFbdVBeLbdVB",
   "dFbeXBeLbeXBnIbdVBnJbdVBnObdVBnPbdVBlnEbdVBlnFbdVBdGbdVBeMbdVBdGbeXBeMbeXBdGbfLBeMbfLBdGbf",
   "HBeMbfHBdHbeYBeNbeYBdHbfKBeNbfKBdHbfHBeNbfHBnWbdPBnXbdPBnYbdWBnZbdWBdIbdRBeObdRBdIbeXBeObe",
   "XBdJbdOBePbdOBdJbdPBePbdPBdJbdWBePbdWBdJbdVBePbdVBdJbeXBePbeXBdKbdVBeQbdVBdKbdWBeQbdWBdLbd",
   "VBeRbdVBdMbdQBeSbdQBdMbeXBeSbeXBdMbfLBeSbfLBeAbfLBeMbdWBePbdYBeRbdYCoTbdVFcNbeXBdTbeXBcNbd",
   "XBdTbdXBhMbdPBiSbdPBhMbdOBiSbdOBhMbdXBiSbdXBhMbdRBiSbdRBlpObdQBlpPbdQBjYbdPBjZbdPBjYbdOBjZ",
   "bdOBjYbdXBjZbdXBjYbdRBjZbdRBlpObdUBlpPbdUBcRbeXBdXbeXBcRbdXBdXbdXBcRbdRBdXbdRBhUbdPBjAbdPB",
   "hUbdOBjAbdOBhUbdXBjAbdXBhUbdRBjAbdRBlqMbdQBlqNbdQBcVbdXBeBbdXBcVbeXBeBbeXBdBbeXBeHbeXBdBbd",
   "XBeHbdXBiEbdPBjKbdPBiEbdOBjKbdOBiEbdXBjKbdXBiEbdRBjKbdRBlrGbdQBlrHbdQBqAbdPBqBbdPBqAbdOBqB",
   "bdOBqAbdXBqBbdXBqAbdRBqBbdRBqAbeXBqBbeXBdHbeXBeNbeXBdHbdXBeNbdXBqPbdPBqQbdPBqPbdOBqQbdOBqP",
   "bdXBqQbdXBqPbdRBqQbdRBqPbeXBqQbeXBdLbdOBeRbdOBdLbeXBeRbeXBdLbdXBeRbdXBdLbdRBeRbdRHbkJbeHBb",
   "kJbeIBltGbdOBltHbdOBltGbdPBltHbdPBltGbgCBltHbgCBbjDbeHBbjDbeIBltObdOBltPbdOBltObdPBltPbdPB",
   "ltObgCBltPbgCBbkNbeHBbkNbeIBltWbdOBltXbdOBltWbdPBltXbdPDbjHbeHBbjHbeIBluEbdOBluFbdOBluEbdP",
   "BluFbdPDbkPbeHBbkPbeIBluMbdOBluNbdOBluMbdPBluNbdPBluMbgCBluNbgCBbjJbeHBbjJbeIBluUbdOBluVbd",
   "OBluUbdPBluVbdPBluUbgCBluVbgCBbkRbeHBbkRbeIBlvCbdOBlvDbdOBlvCbdPBlvDbdPBlvCbgCBlvDbgCBbjLb",
   "eHBbjLbeIBlvKbdOBlvLbdOBlvKbdPBlvLbdPBlvKbgCBlvLbgCBbkXbeHBbkXbeIBlvSbdOBlvTbdOBlvSbdPBlvT",
   "bdPDbjRbeHBbjRbeIBlwAbdOBlwBbdOBlwAbdPBlwBbdPDblDbeHBblDbeIBlwIbdOBlwJbdOBlwIbdPBlwJbdPBlw",
   "IbgCBlwJbgCCbjXbeIClwRbdOClwRbdPClwRbgCBblHbeHBblHbeIBlwYbdOBlwZbdOBlwYbdPBlwZbdPBlwYbgCBl",
   "wZbgCBbkBbeHBbkBbeIBlxGbdOBlxHbdOBlxGbdPBlxHbdPBlxGbgCBlxHbgCBbkJbdOCbkNbdOCbkPbdOCbkRbdOC",
   "bkXbdOCblDbdOCblHbdOEltGbgFBltHbgFBltIbgFBltJbgFBltKbgFBltLbgFBltMbgFBltNbgFBltObgFBltPbgF",
   "BltQbgFBltRbgFBltSbgFBltTbgFBltUbgFBltVbgFBluMbgFBluNbgFBluObgFBluPbgFBluQbgFBluRbgFBluSbg",
   "FBluTbgFBluUbgFBluVbgFBluWbgFBluXbgFBluYbgFBluZbgFBlvAbgFBlvBbgFBlwYbgFBlwZbgFBlxAbgFBlxBb",
   "gFBlxCbgFBlxDbgFBlxEbgFBlxFbgFBlxGbgFBlxHbgFBlxIbgFBlxJbgFBlxKbgFBlxLbgFBlxMbgFBlxNbgFBbkJ",
   "bdUBbkJbdSBlxObgFBbkJbgFBbkEbgFCbkJbgCBmaGbgFBbjDbdUBbjDbdSBbjDbdOCbjDbgFFgMbgCBlxSbgFBbkP",
   "bgFBbkGbgFCbkPbgCBmaWbgFBbjHbdOCbjJbdOCbjJbgFBmaPbdOBmaPbdPBmaPbgCBbkRbdUBbkRbdSBblIbdOEbk",
   "RbgCBblIbgCBbjLbdUBbjLbdSBbjLbdODmdAbdOBmdAbdPBmdAbgCBblDbdUBblDbdSBblJbdOCbkZbeHBbkZbeIBb",
   "lDbgCBblJbgCBbjXbdUBbjXbdSBbjXbdOCbjTbeIBgMbdOFlyAbgFBblHbgFBblMbgFCblHbgCBmcSbgFBbjRbdOCb",
   "kBbdOCbkBbgFpYmsMbfSBmsObfSTmsQbfSbFmuYbfSBmvCbfSBmvAbfScBmwXbfSFmxCbfSDmxFbfSYmyDbfSCmyFb",
   "fSbBmzCbfSDmzJbfSDmzLbfSCmzObfSXcJbfSCnaNbfSLmzTbfSBcIbfSBcKbfSBnaQbfSBnaRbfSDnbEbfSBnbFbf",
   "SDnbIbfSBnbJbfSHnbMbfSBnbNbfSDnbUbfSBnbVbfSDnbYbfSBnbZbfSbJndAbfSBndGbfSBndHbfSBndJbfSbXnb",
   "ObfSBnbPbfSBncJbfSBncKbfSHndQbfSBndRbfSBndSbfSBndTbfSfbRshNskNCshPskNCshRskNCshTskNCshVskN",
   "CshXskNCshZskNCsiBskNCsiDskNCsiFskNCsiHskNCsiJskNDsiMskNCsiOskNCsiQskNHsiXskNBsiXskOCsjAsk",
   "NBsjAskOCsjDskNBsjDskOCsjGskNBsjGskOCsjJskNBsjJskOXshIskNKskRskNOslFskNCslHskNCslJskNCslLs",
   "kNCslNskNCslPskNCslRskNCslTskNCslVskNCslXskNCslZskNCsmBskNDsmEskNCsmGskNCsmIskNHsmPskNBsmP",
   "skOCsmSskNBsmSskOCsmVskNBsmVskOCsmYskNBsmYskOCsnBskNBsnBskOXslAskNDsnVskNBsnWskNBsnXskNBsn",
   "YskNEsoJskNdcpFdvdYbdVbBdveGbdVebMdzgBdzhICdzgDdzhIPdzgNdzhIfBdzlXdzlNBdzlYdzlNuUeagLeagCB",
   "eagLeahBcDeaiSealLCeaiUeakXJeajBealEDeajGealLcAealEealECealEeakUBealEealLjJeauReauSBeauRea",
   "uICeauReauVjSebeMebeDBebeNebeDbiJecmVecmQbbgBfdsWfdsWBfdsWfdtHBfdsWfdsXBfdtHfdsXBfdsWfdsYB",
   "fdsZfdsXBfdtAfdsXBfdsZfdsYeqQfijVfijVBfijRfijVBfijXfijV"]

end FieldRules.Unicode
