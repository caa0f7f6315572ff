import Phrasebook.Unicode.Table

/-!
# Scripts

Every character belongs to one script, or is common to several or inherits the script of the
character before it. Some are used with further scripts: the extensions.
-/

namespace Phrasebook.Unicode.Script

/-- The characters of each script. -/
def table : Table :=
  [⟨["adlm", "adlam"], "HDEuCxejeb"⟩, ⟨["ahom"], "EBRcBacoew"⟩,
   ⟨["hluw", "anatolianhieroglyphs"], "ESSeWk"⟩,
   ⟨["arab", "arabic"],
    "CHcebfbnbcbBfbjlzbEdbBhDcBvJgBebbfCwbBcDNTwEkqNycDbcCbhaBgpEiebFeFVnBeCpcCddDGLsdbBabbbaca" ++
    "bjbdbabagaeabababcbbbacabababababbbacdbgbdbdbabjbqfcbebqCab"⟩,
   ⟨["armn", "armenian"], "BZdBlcBxccDOZje"⟩, ⟨["avst", "avestan"], "DXCyCbdg"⟩,
   ⟨["bali", "balinese"], "KFwCybBx"⟩, ⟨["bamu", "bamum"], "CLCqDjCVCqVw"⟩,
   ⟨["bass", "bassavah"], "FHKiBdcf"⟩, ⟨["batk", "batak"], "KNgBzid"⟩,
   ⟨["beng", "bengali"], "DPodbhcbcvbgbaddcicbcdiaebbecy"⟩,
   ⟨["bhks", "bhaiksuki"], "EDOiibBsbnkBc"⟩, ⟨["bopo", "bopomofo"], "BCsbRLxBqEiBf"⟩,
   ⟨["brah", "brahmi"], "DZAeCzeBjja"⟩, ⟨["brai", "braille"], "PDwJv"⟩,
   ⟨["bugi", "buginese"], "JWaBbcb"⟩, ⟨["buhd", "buhid"], "IUyt"⟩,
   ⟨["cans", "canadianaboriginal"], "HOyYpVoCrDTPqp"⟩, ⟨["cari", "carian"], "DTYmBw"⟩,
   ⟨["aghb", "caucasianalbanian"], "DUXsBzla"⟩, ⟨["cakm", "chakma"], "DZKaCabr"⟩,
   ⟨["cham"], "CMJwCcjncjcd"⟩, ⟨["cher", "cherokee"], "HLgDhcfCFJeDb"⟩,
   ⟨["chrs", "chorasmian"], "DYXcBb"⟩,
   ⟨["zyyy", "common"],
    "aCmBafBaBubobexaBfaRhBmfectEmajagabaYnagaoadaBgaGaaTwaEzbBVtaPpdLeaCGlcCtbHvbbaBVhanahdbfb" ++
    "ccaBDtlcDibkdkborBgClBlbccfbBabqBpceZpwkvBJrJwYdcBfbEaTsDpPmubabyphedDnbdaDmbFrpBgBljaBwCl" ++
    "BfDcBvaDkGlJToClBHSiBhDycGjjJkaGeaPfaobBEZqbIajwBibsbdFrabBfBafBakkaBtbCmgbgkeJyceBsdiDcmB" ++
    "zBsIuBaCSHwdFVgJpgQtGaElCiJlkBmcCjdqibhBdeCiIftmtmDijyFfDgbCsbbcacbcdblbabgbCmbdchbgbBbbdb" ++
    "ebadgbNbcLfcBxHThCpCyCiBBeBreDvmocobobBkkGrCezbbnBreihbofFyBLveqdmdEoeDqgleapleCdijgBniBdc" ++
    "lebCkNbmncmdjfCdhockgihFqbDxBSUXbaBeDr"⟩,
   ⟨["copt", "coptic", "qaac"], "BMgnPJkElfg"⟩, ⟨["xsux", "cuneiform"], "EFBsBJlDyEgbelHn"⟩,
   ⟨["cprt", "cypriot"], "DVZkfcabBrbbdaca"⟩, ⟨["cpmn", "cyprominoan"], "EKYyDu"⟩,
   ⟨["cyrl", "cyrillic"], "BNkFccGmIVokGeaCyaGFnBfBTOaDrBHEcbDHPgCjBha"⟩,
   ⟨["dsrt", "deseret"], "DUMaDb"⟩, ⟨["deva", "devanagari"], "DKqDceoczCIJgBfBREmj"⟩,
   ⟨["diak", "divesakuru"], "ECKugcachbbbBdbbcljj"⟩, ⟨["dogr", "dogra"], "ECAyCh"⟩,
   ⟨["dupl", "duployan"], "GMDsEcfmdihjcd"⟩, ⟨["egyp", "egyptianhieroglyphs"], "ELDgBQrkFXq"⟩,
   ⟨["elba", "elbasan"], "DUVwBn"⟩, ⟨["elym", "elymaic"], "DYYyw"⟩,
   ⟨["ethi", "ethiopic"],
    "GVgCubdcgbabdcBobdcBgbdcgbabdcobCebdcCocBfdzJVawjgbgbgbgbgbgbgbgBVKcfcfcfjgbgEPYfgbdbbbo"⟩,
   ⟨["gara", "garay"], "DXZcBldBcib"⟩, ⟨["geor", "georgian"], "GHsBlbafacBqbdEJwBqccGEaBlbafa"⟩,
   ⟨["glag", "glagolitic"], "QRgDrGIZggbqcgbbbe"⟩, ⟨["goth", "gothic"], "DUEaBa"⟩,
   ⟨["gran", "grantha"], "EADsdbhcbcvbgbbbecicbcccagafgcgde"⟩,
   ⟨["grek", "greek"],
    "BHwdbccdbaeababcbabtbCkopJNqeByeeeDgaMivcfcBlcfchbabababBecCabobncfbsccbiLjaCAJeaBGNiDaraD" ++
    "AXrCr"⟩,
   ⟨["gujr", "gujarati"], "DZlcbibcbvbgbbbecjbcbccapdclhg"⟩,
   ⟨["gong", "gunjalagondi"], "EEBwfbbbBkbbbfhj"⟩,
   ⟨["guru", "gurmukhi"], "DUncbfebcvbgbbbbbbcabeebccdahdbahq"⟩,
   ⟨["gukh", "gurungkhema"], "FDRsCf"⟩,
   ⟨["hani", "han"],
    "RPwzbDkmIfBvabaziodBLcJTnCmBFBjBHSiObcEbBSIibmbCCOkCLFbBgGDtgIncINpoLBkpXxDQwUvCFyHHyfGFf"⟩,
   ⟨["hang", "hangul"], "GLkJvLLebJxDpEjBeCnBeBTAnBcYtQNrmweBwPAiBedfcfcfcc"⟩,
   ⟨["rohg", "hanifirohingya"], "DXWqBnij"⟩, ⟨["hano", "hanunoo"], "ITsu"⟩,
   ⟨["hatr", "hatran"], "DWIasbbfe"⟩, ⟨["hebr", "hebrew"], "CCvCciBaefDOVwzbebabbbbbj"⟩,
   ⟨["hira", "hiragana"], "SHdDhgcFPEvLasaBdcYMva"⟩, ⟨["armi", "imperialaramaic"], "DWBwvbi"⟩,
   ⟨["zinh", "inherited", "qaai"],
    "BDoEhKrbRkkBaaBCidGOxBeTtcbmbgeagadbHqClUebHmBgFTxdEdbCZUjpqnBLnaIsaGFaaCTCuBtcwUycrhcgBed" ++
    "BTLHiJf"⟩,
   ⟨["phli", "inscriptionalpahlavi"], "DXGqsfh"⟩, ⟨["prti", "inscriptionalparthian"], "DXFkvch"⟩,
   ⟨["java", "javanese"], "CMEyCzcjeb"⟩, ⟨["kthi", "kaithi"], "DZFcCoka"⟩,
   ⟨["knda", "kannada"], "ETcmbcbwbjbecibcbdhbgbbdcjbc"⟩,
   ⟨["kana", "katakana"], "SKvDlccJgpIaBubDjCZHejbBsCOUcdbgbbbaLbcByaod"⟩,
   ⟨["kawi"], "EERwqbBodBc"⟩, ⟨["kali", "kayahli"], "CMAaBtba"⟩,
   ⟨["khar", "kharoshthi"], "DWTcdbbfhbcbBcccejhi"⟩,
   ⟨["kits", "khitansmallscript"], "FJIiaKGxSbBpa"⟩, ⟨["khmr", "khmer"], "IXkDpcjgjSsBf"⟩,
   ⟨["khoj", "khojki"], "DZTwrbBu"⟩, ⟨["sind", "khudawadi"], "EAAqCgfj"⟩,
   ⟨["krai", "kiratrai"], "FIIiCf"⟩, ⟨["laoo", "lao"], "FMvbbabebxbabwcebabgbjcd"⟩,
   ⟨["latn", "latin"],
    "CnzgzBvapafwbBebRgBneJXbBlgBwfdfmbCrCnJvOfanaqmFlbgaBbarBoECtBfBULmDxdCocbbabhvnBFkBqbibdB" ++
    "EDqgBOkzgzDCffbBpbiDDNpBegf"⟩,
   ⟨["lepc", "lepcha"], "KPsCddodc"⟩, ⟨["limb", "limbu"], "JMeBebleleadl"⟩,
   ⟨["lina", "lineara"], "DVFsLyjvkh"⟩, ⟨["linb", "linearb"], "DSYqlbzbsbbbocnBiEs"⟩,
   ⟨["lisu"], "CKKuBvBUMaa"⟩, ⟨["lyci", "lycian"], "DTXgBc"⟩, ⟨["lydi", "lydian"], "DWKmzfa"⟩,
   ⟨["mahj", "mahajani"], "DZNcBm"⟩, ⟨["maka", "makasar"], "EEQqy"⟩,
   ⟨["mlym", "malayalam"], "EYambcbBybcbfepcz"⟩, ⟨["mand", "mandaic"], "DDgBbca"⟩,
   ⟨["mani", "manichaean"], "DXAmBmel"⟩, ⟨["marc", "marchen"], "EDSqBfcvbn"⟩,
   ⟨["gonm", "masaramgondi"], "EDYegbbbBrdabbbiij"⟩, ⟨["medf", "medefaidrin"], "FISeDm"⟩,
   ⟨["mtei", "meeteimayek"], "CMSmwHtBtcj"⟩, ⟨["mend", "mendekikakui"], "HCUyHocp"⟩,
   ⟨["merc", "meroiticcursive"], "DWPkxetcBt"⟩, ⟨["mero", "meroitichieroglyphs"], "DWOeBf"⟩,
   ⟨["plrd", "miao"], "FIZoCweCehq"⟩, ⟨["modi"], "EBHgCqlj"⟩,
   ⟨["mong", "mongolian"], "JCibcabtgDkhBqDSCbm"⟩, ⟨["mroo", "mro"], "FHEuBebjeb"⟩,
   ⟨["mult", "multani"], "DZYugbabdbobk"⟩, ⟨["mymr", "myanmar"], "GBoGdCGAyBeDtBfBPAmt"⟩,
   ⟨["nbat", "nabataean"], "DWEiBeii"⟩, ⟨["nagm", "nagmundari"], "HBPoBp"⟩,
   ⟨["nand", "nandinagari"], "ECQyhcBtck"⟩, ⟨["talu", "newtailue"], "JRcBrezgkdb"⟩,
   ⟨["newa"], "EANoDnbe"⟩, ⟨["nkoo", "nko"], "CYiCgcc"⟩, ⟨["nshu", "nushu"], "FJIfaYVmPf"⟩,
   ⟨["hmnp", "nyiakengpuachuehmong"], "HAEaBsdncjeb"⟩, ⟨["ogam", "ogham"], "INoBc"⟩,
   ⟨["olck", "olchiki"], "KSuBv"⟩, ⟨["onao", "olonal"], "HBZkBqea"⟩,
   ⟨["hung", "oldhungarian"], "DXRsBynByhf"⟩, ⟨["ital", "olditalic"], "DUCeBjjc"⟩,
   ⟨["narb", "oldnortharabian"], "DWYaBf"⟩, ⟨["perm", "oldpermic"], "DUFgBq"⟩,
   ⟨["xpeo", "oldpersian"], "DUIiBjen"⟩, ⟨["sogo", "oldsogdian"], "DYQiBn"⟩,
   ⟨["sarb", "oldsoutharabian"], "DWWuBf"⟩, ⟨["orkh", "oldturkic"], "DXMuCu"⟩,
   ⟨["ougr", "olduyghur"], "DYUqz"⟩, ⟨["orya", "oriya"], "EEjcbhcbcvbgbbbecicbcchcebbecr"⟩,
   ⟨["osge", "osage"], "DUSuBjeBj"⟩, ⟨["osma", "osmanya"], "DUQyBdcj"⟩,
   ⟨["hmng", "pahawhhmong"], "FHMeCrkjbgbufs"⟩, ⟨["palm", "palmyrene"], "DWDcBf"⟩,
   ⟨["pauc", "paucinhau"], "EDCaCe"⟩, ⟨["phag", "phagspa"], "CLSqCd"⟩,
   ⟨["phnx", "phoenician"], "DWJgBbda"⟩, ⟨["phlp", "psalterpahlavi"], "DXHwrhdmg"⟩,
   ⟨["rjng", "rejang"], "CMBwBjla"⟩, ⟨["runr", "runic"], "IOuCwdk"⟩,
   ⟨["samr", "samaritan"], "DAuBtco"⟩, ⟨["saur", "saurashtra"], "CLVcCril"⟩,
   ⟨["shrd", "sharada"], "DZOyDr"⟩, ⟨["shaw", "shavian"], "DUPcBv"⟩,
   ⟨["sidd", "siddham"], "EBCiCbcBl"⟩, ⟨["sgnw", "signwriting"], "GWTkZbpebo"⟩,
   ⟨["sinh", "sinhala"], "FCzcbrdxbibacgdaefbabhgjccDULgt"⟩, ⟨["sogd", "sogdian"], "DYSeBp"⟩,
   ⟨["sora", "sorasompeng"], "DZIeyhj"⟩, ⟨["soyo", "soyombo"], "ECXsDe"⟩,
   ⟨["sund", "sundanese"], "KKuClJwh"⟩, ⟨["sunu", "sunuwar"], "EDLwBhoj"⟩,
   ⟨["sylo", "sylotinagri"], "CLQeBs"⟩, ⟨["syrc", "syriac"], "CQynbChccKmk"⟩,
   ⟨["tglg", "tagalog"], "ISmvja"⟩, ⟨["tagb", "tagbanwa"], "IWembcbb"⟩,
   ⟨["tale", "taile"], "JPgBdce"⟩, ⟨["lana", "taitham"], "JXgCkbBcckgjgn"⟩,
   ⟨["tavt", "taiviet"], "CMOuCoye"⟩, ⟨["takr", "takri"], "EBMeCfgj"⟩,
   ⟨["taml", "tamil"], "EJibbfdcbddbbabbdbdcdleedcbdcagaouEALhBxna"⟩,
   ⟨["tnsa", "tangsa"], "FHGqDabj"⟩, ⟨["tang", "tangut"], "FJIeaBfJBziBDnTsi"⟩,
   ⟨["telu", "telugu"], "EOembcbwbpcibcbdhbbccacdcjhi"⟩, ⟨["thaa", "thaana"], "CVwBx"⟩,
   ⟨["thai"], "FHxCffBb"⟩, ⟨["tibt", "tibetan"], "FRsCtbBjeBmbBjbobgeb"⟩,
   ⟨["tfng", "tifinagh"], "RCyCdhboa"⟩, ⟨["tirh", "tirhuta"], "EASmCtij"⟩,
   ⟨["todr", "todhri"], "DVDgBz"⟩, ⟨["toto"], "HATkBe"⟩,
   ⟨["tutg", "tulutigalari"], "EAIqjbacabBlbjbacabdbjbbib"⟩, ⟨["ugar", "ugaritic"], "DUHcBdba"⟩,
   ⟨["vaii", "vai"], "CKMqLn"⟩, ⟨["vith", "vithkuqi"], "DVAekbobgbbbkbobgbb"⟩,
   ⟨["wcho", "wancho"], "HAVgCffa"⟩, ⟨["wara", "warangciti"], "ECHcDema"⟩,
   ⟨["yezi", "yezidi"], "DYLkBpbccb"⟩, ⟨["yiii", "yi"], "CIPkBSudCc"⟩,
   ⟨["zanb", "zanabazarsquare"], "ECUqCt"⟩]

/-- The characters of other scripts that are used with a script too. -/
def extensions : Table :=
  [⟨["adlam"], "CIhaBgaJWoaFHha"⟩, ⟨["arabic"], "CHoaoadaBgakkBaaJUsaFHhaDAKabCDkBb"⟩,
   ⟨["armenian"], "BDwa"⟩, ⟨["avestan"], "HbaRFsb"⟩,
   ⟨["bengali"], "BAyaCMubrbHJeabacbbaiaiacaeaccCBAfa"⟩,
   ⟨["bopomofo"], "BBjabcnaRCpcejbmkdcagaHnaCZThbKwe"⟩, ⟨["buginese"], "CMHza"⟩,
   ⟨["buhid"], "IUnb"⟩, ⟨["carian"], "HbaLZmacaFGda"⟩, ⟨["caucasianalbanian"], "BDsaBsaBsa"⟩,
   ⟨["chakma"], "DTmjCKej"⟩, ⟨["cherokee"], "BDocbagbwblb"⟩,
   ⟨["coptic"], "HbaWmadbbaEebQDtaDCPcBb"⟩, ⟨["cypriot"], "DTImceBsdi"⟩, ⟨["cyprominoan"], "DTImb"⟩,
   ⟨["cyrillic"], "BAyaCpcbababacafaOhbJQnaGEka"⟩, ⟨["devanagari"], "BAyaCMubrbHJeBmbbBNaaBZFrj"⟩,
   ⟨["dogra"], "DOmlCIDcj"⟩, ⟨["duployan"], "HbaWtbbaybQIhaFUWpd"⟩, ⟨["elbasan"], "HbaWra"⟩,
   ⟨["ethiopic"], "BEca"⟩, ⟨["garay"], "CHoaoada"⟩, ⟨["georgian"], "HbaBVlaEIraFViaFGga"⟩,
   ⟨["glagolitic"], "HbaWpabaOsacaJxaEIraFViaFGyaBTNfa"⟩, ⟨["gothic"], "HbaWqbcaBoa"⟩,
   ⟨["grantha"], "DNtbrbYqnGKaabbBecdbBNaaDNTqaETwbba"⟩,
   ⟨["greek"], "HbaWmbcababakaBuacaBuaJYxbZra"⟩, ⟨["gujarati"], "DNtbrbCIDmj"⟩,
   ⟨["gunjalagondi"], "HbaDHkb"⟩, ⟨["gurmukhi"], "DNtbrbCIDmj"⟩, ⟨["gurungkhema"], "DOna"⟩,
   ⟨["han"], "HbaRWypbccabjbmkdcagaedHfaFspBgBljaBwBnCeBwplBzaDkykeDsBeBROjhBHAzbKweDCHerLRyb"⟩,
   ⟨["hangul"], "SErcejbmqagaHnaCZThbKwe"⟩, ⟨["hanifirohingya"], "CHoaoadaBgaFra"⟩,
   ⟨["hanunoo"], "IUnb"⟩, ⟨["hebrew"], "BDvb"⟩,
   ⟨["hiragana"], "SErcejbmqfbaebDnddaDmbCZTgbKwekaBtb"⟩, ⟨["javanese"], "CMHza"⟩,
   ⟨["kaithi"], "DOojNXxaBUFej"⟩, ⟨["kannada"], "DNtbrbHJeabbgaxabaCASxf"⟩,
   ⟨["katakana"], "BDtaBdaQZtcejbmqfbaebDnddaDmbCZTgbKwekaBtb"⟩, ⟨["kayahli"], "CMBua"⟩,
   ⟨["khojki"], "EDijCHOij"⟩, ⟨["khudawadi"], "DOmbCIDmj"⟩,
   ⟨["latin"], "HbaTwakabcbajabaBmobbbapchbbbBmafaemKrbBVebCXkaEXwaVuaHkaEZmaBTUmhVea"⟩,
   ⟨["limbu"], "DOna"⟩, ⟨["lineara"], "DTItBs"⟩, ⟨["linearb"], "DTImceBsdi"⟩,
   ⟨["lisu"], "BAyaqaRDkb"⟩, ⟨["lycian"], "MGoa"⟩, ⟨["lydian"], "HbaRFta"⟩,
   ⟨["mahajani"], "HbaDHklCIDcj"⟩, ⟨["malayalam"], "DNtbrbHJoaxaCASzc"⟩, ⟨["mandaic"], "CJoa"⟩,
   ⟨["manichaean"], "CJoa"⟩, ⟨["masaramgondi"], "DOmb"⟩, ⟨["meroitichieroglyphs"], "MGra"⟩,
   ⟨["modi"], "CLSaj"⟩, ⟨["mongolian"], "JCkbbaDCjaFZtbfd"⟩, ⟨["multani"], "DYkj"⟩,
   ⟨["myanmar"], "CMBua"⟩, ⟨["nandinagari"], "DNtasbBImjGBhaiahaCASrf"⟩,
   ⟨["newa"], "DNtbHKcabbjagababa"⟩, ⟨["nko"], "CHoaoadaDPPeb"⟩, ⟨["olonal"], "DOmb"⟩,
   ⟨["oldhungarian"], "MGoacaFGdapa"⟩, ⟨["oldpermic"], "HbaWmafckaOda"⟩,
   ⟨["oldturkic"], "MGoaFGfa"⟩, ⟨["olduyghur"], "CJoaDUSva"⟩, ⟨["oriya"], "DNtbrbHJoaxa"⟩,
   ⟨["osage"], "BDpacagaCya"⟩, ⟨["phagspa"], "JCkbbaDCjaFZua"⟩, ⟨["psalterpahlavi"], "CJoa"⟩,
   ⟨["runic"], "IRrc"⟩, ⟨["samaritan"], "RMva"⟩, ⟨["sharada"], "DNtaHKfabacbcajacaCATefca"⟩,
   ⟨["shavian"], "Hba"⟩, ⟨["sinhala"], "DOmbHKma"⟩, ⟨["sogdian"], "CJoa"⟩,
   ⟨["sunuwar"], "BDobbajacaBcada"⟩, ⟨["sylotinagri"], "DOmbEyj"⟩,
   ⟨["syriac"], "BDrbcbbaychbbbBCcaobcaBgakkBaaIXraba"⟩, ⟨["tagalog"], "IUnb"⟩,
   ⟨["tagbanwa"], "IUnb"⟩, ⟨["taile"], "BDobfbdaEZzj"⟩, ⟨["takri"], "DOmbCIDmj"⟩,
   ⟨["tamil"], "DNtbrbHJoaCBBkaBOEfabaCdb"⟩, ⟨["tangut"], "SEapTba"⟩,
   ⟨["telugu"], "DNtbrbHJjbbabaxa"⟩, ⟨["thaana"], "CHoaobcaCmjDPTgaka"⟩,
   ⟨["thai"], "BAyaBaaBraBta"⟩, ⟨["tibetan"], "SEyd"⟩, ⟨["tifinagh"], "BDqababdza"⟩,
   ⟨["tirhuta"], "DNtbrbHJjamapaCASzj"⟩, ⟨["todhri"], "BDpacacajabaCwa"⟩, ⟨["toto"], "BAya"⟩,
   ⟨["tulutigalari"], "EXajGBqabaCASxfHfa"⟩, ⟨["yezidi"], "CHoaoadaCmj"⟩,
   ⟨["yi"], "SErbfjchIpaDAEfe"⟩]

/-- The characters of a script. -/
def find? (name : String) : Option CharSet :=
  table.set? name

/-- The characters that are used with a script. Those that are common or inherited are used with no
script in particular. -/
def findExtended? (name : String) : Option CharSet :=
  match table.row? name with
  | none => none
  | some row =>
    if row.names.contains "common" || row.names.contains "inherited" then
      some (row.set.diff (CharSet.unionAll (extensions.map Row.set)))
    else
      match extensions.find? fun more => more.names.any row.names.contains with
      | some more => some (row.set.union more.set)
      | none => some row.set

end Phrasebook.Unicode.Script
