/-!
Scripts: for every script its names, folded to lower case without separators, and the characters of
it as run lengths.
-/

namespace FieldRules.Unicode

/-- The script that a character belongs to. -/
def scripts : List (List String × List String) :=
  [(["adlm", "adlam"], ["hdeUcYEKEC"]),
    (["aghb", "caucasianalbanian"], ["duxScALB"]),
    (["ahom"], ["ebrCbBCPEX"]),
    (["arab", "arabic"],
      ["chCFBGBOBDBbGBKLbABeEBbIdCbWjGbIFcXBbDdntWtACfObGQeIFBfFfvNbFcPGIJbHGdglSEBbBBCBBCBBKB",
       "EBBBBGBEBBBBBBDBCBBCBBBBBBBBBBCBBCEBHBEBEBBBKBRFDBFBRcAC"]),
    (["armi", "imperialaramaic"], ["dwbWWBJ"]),
    (["armn", "armenian"], ["bzDbMCbYCDdozJF"]),
    (["avst", "avestan"], ["dxcYcCDH"]),
    (["bali", "balinese"], ["kfWcZBbY"]),
    (["bamu", "bamum"], ["clcQdKcvcQvX"]),
    (["bass", "bassavah"], ["fhkIbECG"]),
    (["batk", "batak"], ["knGcAIE"]),
    (["beng", "bengali"], ["dpOEBICCCWBHBBDECJCCCEIBECBFCZ"]),
    (["bhks", "bhaiksuki"], ["edoIJBbTBOKbD"]),
    (["bopo", "bopomofo"], ["bcSCrlXbReIbG"]),
    (["brah", "brahmi"], ["dzaEdAEbKJB"]),
    (["brai", "braille"], ["pdWjW"]),
    (["bugi", "buginese"], ["jwAbCCC"]),
    (["buhd", "buhid"], ["iuYU"]),
    (["cakm", "chakma"], ["dzkAcBBS"]),
    (["cans", "canadianaboriginal"], ["hoYyQvOcSdtpQQ"]),
    (["cari", "carian"], ["dtyMbX"]),
    (["cham"], ["cmjWcDJOCKCE"]),
    (["cher", "cherokee"], ["hlGdICGcfjEdC"]),
    (["chrs", "chorasmian"], ["dyxCbC"]),
    (["copt", "coptic", "qaac"], ["bmGOpjKeMFH"]),
    (["cpmn", "cyprominoan"], ["ekyYdV"]),
    (["cprt", "cypriot"], ["dvzKGCBBbSBCDBCB"]),
    (["cyrl", "cyrillic"], ["bnKfDCgNivOLgEBcYBgfNbGbtoAdSbheCCdhpGcKbHB"]),
    (["deva", "devanagari"], ["dkQdDEPCbAcijGbGbreMK"]),
    (["diak", "divesakuru"], ["eckUHCBCIBCBbEBCCMJK"]),
    (["dogr", "dogra"], ["ecaYcI"]),
    (["dsrt", "deseret"], ["dumAdC"]),
    (["dupl", "duployan"], ["gmdSeDFNDJHKCE"]),
    (["egyp", "egyptianhieroglyphs"], ["eldGbqSKfxR"]),
    (["elba", "elbasan"], ["duvWbO"]),
    (["elym", "elymaic"], ["dyyYX"]),
    (["ethi", "ethiopic"],
      ["gvGcVBECHBBBECbPBECbHBECHBBBECPBcFBECcPCbGDbAjvAXJHBHBHBHBHBHBHBHbvkCGCGCGJHBHepyFHBEB",
       "CBP"]),
    (["geor", "georgian"], ["ghSbMBBFBCbRBEejWbRCDgeAbMBBFB"]),
    (["glag", "glagolitic"], ["qrGdSgizGHBRCHBCBF"]),
    (["gong", "gunjalagondi"], ["eebWGBCBbLBCBGHK"]),
    (["gonm", "masaramgondi"], ["edyEHBCBbSDBBCBJIK"]),
    (["goth", "gothic"], ["dueAbB"]),
    (["gran", "grantha"], ["eadSEBICCCWBHBCBFCJCCCDCBGBFHCHDF"]),
    (["grek", "greek"],
      ["bhWEBDCEBBEBBBBDBBBUBcLOQjnQFbYFEFdGBmIWCGCbMCGCIBBBBBBBbFCcBBPBOCGBTCDBJlJBcajEBbgnId",
       "BRBdaxRcS"]),
    (["gujr", "gujarati"], ["dzLDBJBDBWBHBCBFCKBDBDCBPECMHH"]),
    (["guru", "gurmukhi"], ["duNDBGECCWBHBCBCBCCBBFECCDDBHEBBHR"]),
    (["hang", "hangul"], ["glKjWllECjXdQeJbFcNbFbtaNbDyTqnSMXEbXpaIbFDGCGCGCD"]),
    (["hani", "han"],
      ["rpWbABdLMiGbVBBBZJOEblCjtOcMbfbKbhsIoCCeCbsiICMHccoFclfCbGgmOCioCClbLPxYdqWuWcfYhhZFmoO"]),
    (["hano", "hanunoo"], ["itSV"]),
    (["hatr", "hatran"], ["dwiATBCFF"]),
    (["hebr", "hebrew"], ["ccVcDIbBEGdovWbABFBBBCBCBK"]),
    (["hira", "hiragana"], ["shDdIGDfpeVlBSBbDDymVB"]),
    (["hluw", "anatolianhieroglyphs"], ["essEwL"]),
    (["hmng", "pahawhhmong"], ["fhmEcSKKBHBVFT"]),
    (["hmnp", "nyiakengpuachuehmong"], ["haeAbTDOCKEC"]),
    (["hung", "oldhungarian"], ["dxrSbZNbZHG"]),
    (["ital", "olditalic"], ["ducEbKJD"]),
    (["java", "javanese"], ["cmeYdACKEC"]),
    (["kali", "kayahli"], ["cmaAbUBB"]),
    (["kana", "katakana"], ["skVdMCDjGQiAbVBdKczhEKBbTcouCEBHBCBBlBDbYBOE"]),
    (["kawi"], ["eerWRBbPDbD"]),
    (["khar", "kharoshthi"], ["dwtCEBCFIBDBbDCDEKHJ"]),
    (["khmr", "khmer"], ["ixKdQCKGKsSbG"]),
    (["khoj", "khojki"], ["dztWSBbV"]),
    (["kits", "khitansmallscript"], ["fjiIBkgXsCbPB"]),
    (["knda", "kannada"], ["etCNBDBXBKBFCJBDBEHCFDBECKBD"]),
    (["kthi", "kaithi"], ["dzfCcPKB"]),
    (["lana", "taitham"], ["jxGcLBbDCLGKGO"]),
    (["laoo", "lao"], ["fmVCBBBFBYBBBXCFBBBHBKCE"]),
    (["latn", "latin"],
      ["cNbAGbAbVBPBFXBbFBrHbNFjxBbMGbXFEFNBcScNjWoFBNBQNfLCGBbBBRbPecTbGbulMdYDdEUPbfKbRBJBEb",
       "edQHboKbAGbAdcFGBbQBJddnPbFGG"]),
    (["lepc", "lepcha"], ["kpScEDPDD"]),
    (["limb", "limbu"], ["jmEbFBMEMEBDM"]),
    (["lina", "lineara"], ["dvfSlZJWKI"]),
    (["linb", "linearb"], ["dsyQMBbABTBCBPCObIeT"]),
    (["lisu"], ["ckkUbWbumAB"]),
    (["lyci", "lycian"], ["dtxGbD"]),
    (["lydi", "lydian"], ["dwkMbAFB"]),
    (["mahj", "mahajani"], ["dznCbN"]),
    (["maka", "makasar"], ["eeqQZ"]),
    (["mand", "mandaic"], ["ddGbCCB"]),
    (["mani", "manichaean"], ["dxaMbNEM"]),
    (["marc", "marchen"], ["edsQbGCWBO"]),
    (["medf", "medefaidrin"], ["fisEdN"]),
    (["mend", "mendekikakui"], ["hcuYhPCQ"]),
    (["merc", "meroiticcursive"], ["dwpKYEUCbU"]),
    (["mero", "meroitichieroglyphs"], ["dwoEbG"]),
    (["mlym", "malayalam"], ["eyANBDBbZBDBGEQCbA"]),
    (["modi"], ["ebhGcRLK"]),
    (["mong", "mongolian"], ["jcICCBBUGdLHbRdscBN"]),
    (["mroo", "mro"], ["fheUbFBKEC"]),
    (["mtei", "meeteimayek"], ["cmsMXhTbUCK"]),
    (["mult", "multani"], ["dzyUHBBBEBPBL"]),
    (["mymr", "myanmar"], ["gbOgEcgaYbFdTbGbpaMU"]),
    (["nagm", "nagmundari"], ["hbpObQ"]),
    (["nand", "nandinagari"], ["ecqYICbUCL"]),
    (["narb", "oldnortharabian"], ["dwyAbG"]),
    (["nbat", "nabataean"], ["dweIbFIJ"]),
    (["newa"], ["eanOdOBF"]),
    (["nkoo", "nko"], ["cyIcHCD"]),
    (["nshu", "nushu"], ["fjiFByvMpG"]),
    (["ogam", "ogham"], ["inObD"]),
    (["olck", "olchiki"], ["ksUbW"]),
    (["orkh", "oldturkic"], ["dxmUcV"]),
    (["orya", "oriya"], ["eeJDBICCCWBHBCBFCJCCCDHDECBFCS"]),
    (["osge", "osage"], ["dusUbKEbK"]),
    (["osma", "osmanya"], ["duqYbECK"]),
    (["ougr", "olduyghur"], ["dyuQbA"]),
    (["palm", "palmyrene"], ["dwdCbG"]),
    (["pauc", "paucinhau"], ["edcAcF"]),
    (["perm", "oldpermic"], ["dufGbR"]),
    (["phag", "phagspa"], ["clsQcE"]),
    (["phli", "inscriptionalpahlavi"], ["dxgQTFI"]),
    (["phlp", "psalterpahlavi"], ["dxhWSHEMH"]),
    (["phnx", "phoenician"], ["dwjGbCDB"]),
    (["plrd", "miao"], ["fizOcXEcFHR"]),
    (["prti", "inscriptionalparthian"], ["dxfKWCI"]),
    (["rjng", "rejang"], ["cmbWbKLB"]),
    (["rohg", "hanifirohingya"], ["dxwQbOIK"]),
    (["runr", "runic"], ["ioUcXDL"]),
    (["samr", "samaritan"], ["daUbUCP"]),
    (["sarb", "oldsoutharabian"], ["dwwUbG"]),
    (["saur", "saurashtra"], ["clvCcSIM"]),
    (["sgnw", "signwriting"], ["gwtKzCPFBP"]),
    (["shaw", "shavian"], ["dupCbW"]),
    (["shrd", "sharada"], ["dzoYdSdpOI"]),
    (["sidd", "siddham"], ["ebcIcCCbM"]),
    (["sind", "khudawadi"], ["eaaQcHFK"]),
    (["sinh", "sinhala"], ["fcZDBSDYBJBBCHDBEGBBBIGKCDdulGU"]),
    (["sogd", "sogdian"], ["dysEbQ"]),
    (["sogo", "oldsogdian"], ["dyqIbO"]),
    (["sora", "sorasompeng"], ["dziEZHK"]),
    (["soyo", "soyombo"], ["ecxSdF"]),
    (["sund", "sundanese"], ["kkUcMjWI"]),
    (["sylo", "sylotinagri"], ["clqEbT"]),
    (["syrc", "syriac"], ["cqYOBcICDkML"]),
    (["tagb", "tagbanwa"], ["iwENBDBC"]),
    (["takr", "takri"], ["ebmEcGGK"]),
    (["tale", "taile"], ["jpGbECF"]),
    (["talu", "newtailue"], ["jrCbSEbAGLDC"]),
    (["taml", "tamil"], ["ejICBGDDBEDCBBBCDCDDDMEFDDBECBGBOVealHbYNB"]),
    (["tang", "tangut"], ["fjiEBbFkfWtSbFdTeL"]),
    (["tavt", "taiviet"], ["cmoUcPYF"]),
    (["telu", "telugu"], ["eoENBDBXBQCJBDBEHCBDBCCECKHJ"]),
    (["tfng", "tifinagh"], ["rcYcEHCOB"]),
    (["tglg", "tagalog"], ["isMWJB"]),
    (["thaa", "thaana"], ["cvWbY"]),
    (["thai"], ["fhXcGFbC"]),
    (["tibt", "tibetan"], ["frScUBbKEbNBbKBPBHEC"]),
    (["tirh", "tirhuta"], ["easMcUIK"]),
    (["tnsa", "tangsa"], ["fhgQdBBK"]),
    (["toto"], ["hatKbF"]),
    (["ugar", "ugaritic"], ["duhCbEBB"]),
    (["vaii", "vai"], ["ckmQlO"]),
    (["vith", "vithkuqi"], ["dvaELBPBHBCBLBPBHBC"]),
    (["wara", "warangciti"], ["echCdFMB"]),
    (["wcho", "wancho"], ["havGcGFB"]),
    (["xpeo", "oldpersian"], ["duiIbKEO"]),
    (["xsux", "cuneiform"], ["efbSbjMdYeHBFLhO"]),
    (["yezi", "yezidi"], ["dylKbQBDCC"]),
    (["yiii", "yi"], ["cipKbsVDcD"]),
    (["zanb", "zanabazarsquare"], ["ecuQcU"]),
    (["zinh", "inherited", "qaai"],
      ["bdOeIkRCrKLbABbcIEgoXbUCMsQDBNBHEBGBDChQcMuEChMbHftXEeDCczuJQQOblNBiSBgfABctcUbUCXuYDR",
       "ICHbEEbtlhIjG"]),
    (["zyyy", "common"],
      ["AcNbAGbAbVBPBFXBbFBrHbNFFCUeMBJBGBBByNBGBOBDBbGBgABtWBeZCbvTBpPElEBcgLDcTChVCBBbvHBNBH",
       "EBGBDCBbdTMCdJBLDLBPRbIcKbMBDCGBbBBRbPDEzQWLVbjSjWyECfItSdQpMVBBBZPIEEdNCDBdMCfRQbGbMJ",
       "BbWcMbFdDbVBdKgMjtOcMbhsIbIdYDgJKjKBgEBpFBOCbezQCiAKWbJBTBEfRBBbGbAGbALKBbTCcMHBHKFjYD",
       "EbTDJdCNbZbTiUbBcshWEfvGjTDqUGXPRdReMcIjMKbNCcKDRICHbEEcJiFUMUMdJJZfFdHBcTBCCBCCCEBMBB",
       "BHBcNBECIBHBbCBEBFBBDHBnCClGCbYhtHcQcYcJbbEbSEdWMPCPBPBbLKgScEbABCNbSEJHCOGfYblXDRDNDi",
       "KGMEBPMEcEIKGbOIbECMECOJbNnGIOCNDLDcFBBEQCMEKHfRBdZbsuxABbEdS"]),
    (["gara", "garay"], ["dxzCbMDbDIC"]),
    (["gukh", "gurungkhema"], ["fdrScG"]),
    (["krai", "kiratrai"], ["fiiIcG"]),
    (["onao", "olonal"], ["hbzKbREB"]),
    (["sunu", "sunuwar"], ["edlWbIOK"]),
    (["todr", "todhri"], ["dvdGcA"]),
    (["tutg", "tulutigalari"], ["eaiQKBBCBBbMBKBBCBBEBKBCIC"]),
    (["berf", "beriaerfe"], ["fivWZCZ"]),
    (["sidt", "sidetic"], ["dwlSbA"]),
    (["tayo", "taiyo"], ["hciQbFBWIC"]),
    (["tols", "tolongsiki"], ["eeeYbSEK"])]

/-- All characters used in a script, where they are more than those that belong to it. -/
def scriptExtensions : List (List String × List String) :=
  [(["adlm"], ["ciHBbGBjwOBfhHBglrIcYEKEC"]),
    (["aghb"], ["bdSBbSBbSBdtqNcALB"]),
    (["arab"],
      ["chCFBiHBbIdCbWjGbIFcXBbDivNBfhHBczrAyQbGQeIFBfFbmHbCeiEbFcPGIJbHGdglSEBbBBCBBCBBKBEBBB",
       "BGBEBBBBBBDBCBBCBBBBBBBBBBCBBCEBHBEBEBBBKBRFDBFBRcAC"]),
    (["armn"], ["bdWBvGbMCbYCDdozJF"]),
    (["avst"], ["hBBrfSCdfqCcCDH"]),
    (["beng"], ["baYBcmUCRCbAEBICCCWBHBBDECJCCCEIBECBFCZhdHBBBCCBBIBIBCBEBCDcbaFB"]),
    (["bopo"], ["bbJBBDNBQCrbXDEKBNKECBGBhNBJbReIbGczlTCkWF"]),
    (["bugi"], ["jwAbCCCcckTB"]),
    (["buhd"], ["iuNCJU"]),
    (["cakm"], ["dtMKckEKdtfQcBBS"]),
    (["cari"], ["hBBlzMBCBfgDBdclQbX"]),
    (["cher"], ["bdODBBGCWCLCgfUdICGcfjEdC"]),
    (["copt"], ["hBBwMBDCBBeECeEOpjKeMFHkTBdcpCbC"]),
    (["cpmn"], ["dtiMCrqKdV"]),
    (["cprt"], ["dtiMDEbTDJcoMGCBBbSBCDBCB"]),
    (["cyrl"], ["baYBcPDBBBBBBCBFBjElSivOLgEBcYBeXBgaPbGcPBbtlKdSbheCCdhpGcKbHB"]),
    (["deva"], ["baYBcjRdFCbRhiEbNBCbnABbzfRKgKbGbreMK"]),
    (["dogr"], ["doMMcidCKbqiOcI"]),
    (["dupl"], ["hBBwTCBBYCqiHBfuqLeDFNDJHKCI"]),
    (["elba"], ["hBBwRBdtsCbO"]),
    (["ethi"],
      ["beCBfrDcVBECHBBBECbPBECbHBECHBBBECPBcFBECcPCbGDbAjvAXJHBHBHBHBHBHBHBHbvkCGCGCGJHBHepyF",
       "HBEBCBP"]),
    (["geor"], ["hBBbvLBefEbMBBFBCbWejWbRCDbjMBeuNbMBBFBjZB"]),
    (["glag"], ["hBBwPBBBoSBCBjXBeiRBfvIBekRdSsPBbtnFBeotKHBRCHBCBF"]),
    (["gong"], ["hBBdhKCeanIGBCBbLBCBGHK"]),
    (["gonm"], ["doMCeajQHBCBbSDBBCBJIK"]),
    (["goth"], ["hBBwQCCBbOBdsyObB"]),
    (["gran"], ["dnTCRCyQOgkABBCbEDDCbnABdnrJEBICCCWBHBCBFBKCCCDCBGBFHCHDFerRCBB"]),
    (["grek"],
      ["hBBwMCCBBBBBKBbUBCBbQICEBBEBBBBDBBBUBcLOQjnQFbYFEFdGDmGWCGCbMCGCIBBBBBBBbFCcBBPBOCGBTC",
       "DBJdQBhSBcajEBbgnIdBRBdaxRcS"]),
    (["gujr"], ["dnTCRCkXDBJBDBWBHBCBFCKBDBDCBPECMHHchnSK"]),
    (["guru"], ["dnTCRCfZDBGECCWBHBCBCBCCBBFECCDDBHEBBHRchsZK"]),
    (["hang"], ["glKjWljLDEKBNODGBhNBcBdQeJbFcNbFbtaNbDyTqnSMXEbXomZCkWFcGbFDGCGCGCD"]),
    (["hani"],
      ["hBBriUbABdLMiGbAQBDBNBNBNCBGJhFBfSQbGbMJBbWbOcEbXPMbZBdKZKFdSbFBjtOcMbfbKcqYIbfbCoCCeC",
       "bhRCkWFbqpOCMHblqVSlrYCfeSclfCbGgmOCioCClbLPxYdqWuWcfYhhZFmoO"]),
    (["hano"], ["itSX"]),
    (["hebr"], ["bdVCyYcDIbBEGdovWbABFBBBCBCBK"]),
    (["hira"], ["seRDEKBNQGBBECDdICIdMCcztGCkWFKBbTCcouRlBSBbDDymVB"]),
    (["hung"], ["mgOBCBfgDBPBdgeGbZNbZHG"]),
    (["java"], ["cmeYdABLEC"]),
    (["kali"], ["cmaAbW"]),
    (["kana"], ["bdTBbDBqzTDEKBNQGBBECdNEDdSjGQiAbVBdKcywBCkWcLcouAEBHBCBBlBDbYBOE"]),
    (["khoj"], ["edIKchoIKbobMSBbV"]),
    (["knda"], ["dnTCRCbeONBDBXBKBFCJBDBEHCFDBECKBDgaEBBCGBXBBBcasXG"]),
    (["kthi"], ["doOKnxXBbufEKbnmScPKB"]),
    (["latn"],
      ["cNbAGbAbVBMBCBFXBbFBrHDBKBBDBBJBBBGFbBPBCBBPDHCBCbMBFBENkRCbvECcxKBeoIbMGbXFEFNBcScFBH",
       "jWlRBcNBNBQNdFBcFCGBbBBRbPecTbGpRBbtuMIbAdYDdEUPlQBtTbRBJBEbedQHboKbAGbAdcFGBbQBJddnPb",
       "FGG"]),
    (["limb"], ["doNBfxQbFBMEMEBDM"]),
    (["lina"], ["dtiTbTbvGlZJWKI"]),
    (["linb"], ["dsyQMBbABTBCBPCObIeTFDEbTDJ"]),
    (["lisu"], ["baYBQBrdKCbsfSbWbumAB"]),
    (["lyci"], ["mgOBdhqRbD"]),
    (["lydi"], ["hBBrfTBdexQbAFB"]),
    (["mahj"], ["hBBdhKMcidCKbnuSbN"]),
    (["mand"], ["cjOBtRbCCB"]),
    (["mani"], ["cjOBduqXbNEM"]),
    (["mero"], ["mgRBdkhMbG"]),
    (["mlym"], ["dnTCRCbjMNBDBbZBDBGEQCbAfvEBXBcasZD"]),
    (["modi"], ["clsAKbpoWcRLK"]),
    (["mong"], ["jcIbAGdLHbRcwABfzTCFEdjfWN"]),
    (["mult"], ["dyKKdwaAHBBBEBPBL"]),
    (["mymr"], ["gbOgEcfuCBgVbFdTbGbpaMU"]),
    (["nand"], ["dnTBSCbiMKgbHBIBHBcasRGbqySICbUCL"]),
    (["newa"], ["dnTChkCBBCJBGBBBBBdpoSdOBF"]),
    (["nkoo"], ["chOBOBDBqAcHCDdowSC"]),
    (["orkh"], ["mgOBfgFBdfzZcV"]),
    (["orya"], ["dnTCRCpVDBICCCWBHBCBFCJCCCDHDECBFCSgpEBXB"]),
    (["osge"], ["bdPBCBGBcYBdtlVbKEbK"]),
    (["ougr"], ["cjOBdusVBbsFbA"]),
    (["perm"], ["hBBwMBFDKBoDBdsmUbR"]),
    (["phag"], ["jcKCBBdcJBfzUBbtnXcE"]),
    (["phlp"], ["cjOBduyHSHEMH"]),
    (["rohg"], ["chOBOBDBbGBfRBdvhJbOIK"]),
    (["runr"], ["ioUdL"]),
    (["samr"], ["daUbUCPojQB"]),
    (["shaw"], ["hBBduiAbW"]),
    (["shrd"], ["dnTBhkFBBBCCCBJBCBcatEGCBbnwPdSdpOI"]),
    (["sind"], ["doMCcidMKboiGcHFK"]),
    (["sinh"], ["doMCboLDBSDYBJBBCHDBEGBBBIGKCDfrPBdotQU"]),
    (["sogd"], ["cjOBdwiPbQ"]),
    (["sylo"], ["doMCeYKchwIbT"]),
    (["syrc"], ["bdRCCCBBYDHCBCbcCBOCCBbGBKLbABfNOBcICDkMLieFBBB"]),
    (["tagb"], ["iuNCbPNBDBC"]),
    (["takr"], ["doMCcidMKbptUcGGK"]),
    (["tale"], ["bdOCFCDBezZKdkWbECF"]),
    (["taml"], ["dnTCRCuUCBGDDBEDCBBBCDCDDDMEFDDBECBGBOVgkDBcbbKBboeFBBBcDCetFbYNB"]),
    (["tang"], ["seAQtBBeqkMBbFkfWtSbFdTeL"]),
    (["telu"], ["dnTCRCzQNBDBXBQCJBDBEHCBDBCCECKHJgeVCBBBBXB"]),
    (["tfng"], ["bdQBBBBEZBpyAcEHCOB"]),
    (["tglg"], ["isMWJBVC"]),
    (["thaa"], ["chOBOCCBcMKkSbYdpgQBKB"]),
    (["thai"], ["baYBbABbRBbTBecLcGFbC"]),
    (["tibt"], ["frScUBbKEbNBbKBPBHECmeVE"]),
    (["tirh"], ["dnTCRChjJBMBPBcasZKbpaCcUIK"]),
    (["toto"], ["baYBgzsLbF"]),
    (["yezi"], ["chOBOBDBcMKdwaGbQBDCC"]),
    (["yiii"], ["seRCFKCIiPBbqbCbsVDcDbiiCF"]),
    (["zinh"],
      ["beDBCBBPDHCBCQBCBSBFBEcgMCgoXbUCMbbYcCBBBFuEChMbGdfsQQQOblNBczqObUCXuYDRICHbEEbtlhIjG"]),
    (["zyyy"],
      ["AcNbAGbAbVBMBCBFXBbFBrHDBKBBDBBJBBBGFFCUeWBGBBByNBiHBtWBcaUBpPEgdBMCbHBbFBKBCBHBLDLBPR",
       "bIcKbMBDCGBbBBRbPDEzQWLVbjSjWyECfItSXBYCKBEBBBbAqCBDBNBNBVBuJYbFBbXPMEgFKFdSbFBjtOcMbh",
       "sQbAdYDblOBOCbfhSKWVCMBTBEfRBBbGbAGbAGeXHBHKFpMNbZbTcynBjTDqUGXPRdReMcIjMKbNCcKDRICHbE",
       "EcJiFUMUMdJbBHfFdHBcTBCCBCCCEBMBBBHBcNBECIBHBbCBEBFBBDHBnCClGCbYhtHcQcYcJbbEbSEdWMPCPB",
       "PBbLKgScEbABCNbSEJXGfYblXDRDNDiKGMEBPMEcEIKGbOIbECMECOJbNnGIOCNDLDcFBBEQCMEKHfRBdZbsux",
       "ABbEdS"]),
    (["gara"], ["chOBOBDBdvqUbMDbDIC"]),
    (["gukh"], ["doNBfadEcG"]),
    (["onao"], ["doMCgykWbREB"]),
    (["sunu"], ["bdOCBBJBCBbCBDBecgKbIOK"]),
    (["todr"], ["bdPBCBCBJBBBcWBdtwBcA"]),
    (["tutg"], ["exAKgbQBBBcasXGhFBbojEKBBCBBbMBKBBCBBEBKBCIC"])]

end FieldRules.Unicode
