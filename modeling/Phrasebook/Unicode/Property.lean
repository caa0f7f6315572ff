import Phrasebook.Unicode.Category

/-!
# Properties

The properties that a character has or lacks. Some are listed, the others are made of them and of
the categories.
-/

namespace Phrasebook.Unicode.Property

/-- The properties that are listed. -/
def table : Table :=
  [⟨["ahex", "asciihexdigit"], "BwjhfBaf"⟩, ⟨["bidic", "bidicontrol"], "CIeaJVlbBaeCdd"⟩,
   ⟨["bidim", "bidimirrored"],
    "BobsabaBcabaBdabaBtapaFMsdCUnbDQqbkbCcbobGvaHkddfdadbddbdbabaeifabrfdjbbabhbBfcdfajbcsfbje" ++
    "cbexcpidubhbBPtnCwacdbbbcfdfcdnPnvcfbniahfdaeebbceeabccbkfcbmsbdcabacabdfbgcyblbedbbcbeBqc" ++
    "hbBnfabadefceadebaJwaTvddbbbobcjBrhQljchDACrffbGgbsabaBcabaBdababbbbDDPnaCfaCfaCfaCfa"⟩,
   ⟨["cwcf", "changeswhencasefolded"],
    "CnzDmakwbhBgabababababababababababababababababababababababababababacababababababababbbabab" ++
    "ababababababababababababababababababababbbabababbbabbbccdbbbcdbbbbababbbacabbbcbabbdahbbbb" ++
    "bbabababababababacababababababababacbbabcbabababababababababababababababababababababababab" ++
    "ababababahbbbcabdbabababaJmaBqabadaiagabcbabbbqbiwamcdbbababababababababababababbcbbabbcBy" ++
    "Bwababababababababababababababababajababababababababababababababababababababababababababab" ++
    "bbabababababacabababababababababababababababababababababababababababababababababababababab" ++
    "abababababababababacBlBwaEFgBlbafaBFefDFujgBqccMiababababababababababababababababababababa" ++
    "bababababababababababababababababababababababababababababababababababababababababababababa" ++
    "bababababababababafbcababababababababababababababababababababababababababababababababababa" ++
    "babababababababababababababajhifkhihiflabababaihqBvcccffccfldmefccfLladbgaBtptaBFmzCSuBvBw" ++
    "abccabababdbacaicbabababababababababababababababababababababababababababababababababababab" ++
    "ababababababababababababaiabaeaBTYjababababababababababababababababababababababatababababa" ++
    "bababababababababaFfababababababadabababababababababababababababababababababababababababab" ++
    "ababakababbbabababaeabacabadababababababababababebebabababababababdbabbdafabababayaBIgDbBE" ++
    "AigmeBNtzBUzBnFgBjGakbobgbbCQcByGbvEGoBfBGJwBfBULkBh"⟩,
   ⟨["cwl", "changeswhenlowercased"],
    "CnzDxwbgBhabababababababababababababababababababababababababababacabababababababacabababab" ++
    "abababababababababababababababababababbbabadbbabbbccdbbbcdbbbbababbbacabbbcbabbdahbbbbbbab" ++
    "ababababababacababababababababacbbabcbabababababababababababababababababababababababababab" ++
    "ababahbbbcabdbabababaLdabadaiagabcbabbbqbiBjaiabababababababababababafacabbcByBwababababab" ++
    "abababababababababababajabababababababababababababababababababababababababababbbababababab" ++
    "acabababababababababababababababababababababababababababababababababababababababababababab" ++
    "abababacBlEHdBlbafaBBuDhDGlagBqccMiabababababababababababababababababababababababababababa" ++
    "bababababababababababababababababababababababababababababababababababababababababababababa" ++
    "babajababababababababababababababababababababababababababababababababababababababababababa" ++
    "babababababajhifkhihiflabababaihyhihihieleldmeleLladbgaBtptaBFmzCSuBvBwabccabababdbacaicba" ++
    "bababababababababababababababababababababababababababababababababababababababababababababa" ++
    "bababaiabaeaBTYjababababababababababababababababababababababatabababababababababababababaF" ++
    "fababababababadababababababababababababababababababababababababababababababakababbbabababa" ++
    "eabacabadababababababababababebebabababababababdbabbdafabababayaBHAhzBUzBnFgBjGakbobgbbCQc" ++
    "ByGbvEGoBfBGJwBfBULkBh"⟩,
   ⟨["cwt", "changeswhentitlecased"],
    "DtzCgaBpxbhbabababababababababababababababababababababababababababacabababababababbbababab" ++
    "abababababababababababababababababababacababccabacadafacadccacababacaeacadabacadabaeabbbbb" ++
    "ababababababababbbababababababababcbabadabababababababababababababababababababadababababab" ++
    "abababaiacbbaeababababfbbbabbdbbdbecabbcahacabbdffakbGkaBrabadadcsaBbBibbdcbababababababab" ++
    "ababababebacacaCaBvbababababababababababababababababajabababababababababababababababababab" ++
    "ababababababababacababababababbbababababababababababababababababababababababababababababab" ++
    "ababababababababababababababababababaBxBmFMefDFuibaJeadaqaEkababababababababababababababab" ++
    "ababababababababababababababababababababababababababababababababababababababababababababab" ++
    "ababababababababababababababgfabababababababababababababababababababababababababababababab" ++
    "abababababababababababababababababiifkhihifkhihinchihihiebbgadcbbidcbihkcbbNeaBhpeaBGlzCTq" ++
    "Bvbadbbababagacakababababababababababababababababababababababababababababababababababababa" ++
    "bababababababababababababaiabaeamBlbafaBTWdababababababababababababababababababababababata" ++
    "bababababababababababababaFfababababababadabababababababababababababababababababababababab" ++
    "ababababababakabacababababaeaeabbcabababababababababalabababababababaeabacadafababaBaaBHca" ++
    "BcDbBEAigmeBOzzBVhBnFgBjFzkbobgbbCRbByEvvEGoBfBGJwBfBULmBh"⟩,
   ⟨["cwu", "changeswhenuppercased"],
    "DtzCgaBpxbhbabababababababababababababababababababababababababababacabababababababbbababab" ++
    "abababababababababababababababababababacababccabacadafacadccacababacaeacadabacadabafbbbbbb" ++
    "abababababababbbababababababababbbbbadabababababababababababababababababababadabababababab" ++
    "ababaiacbbaeababababfbbbabbdbbdbecabbcahacabbdffakbGkaBrabadadcsaBbBibbdcbabababababababab" ++
    "abababebacacaCaBvbababababababababababababababababajababababababababababababababababababab" ++
    "abababababababacababababababbbabababababababababababababababababababababababababababababab" ++
    "abababababababababababababababababaBxBmEHcBqccBDgfDFuibaJeadaqaEkababababababababababababa" ++
    "bababababababababababababababababababababababababababababababababababababababababababababa" ++
    "bababababababababababababababababgfabababababababababababababababababababababababababababa" ++
    "babababababababababababababababababababiifkhihifkhihincCabbeabadcbbeaddcbihkcbbeaMzaBhpeaB" ++
    "GlzCTqBvbadbbababagacakabababababababababababababababababababababababababababababababababa" ++
    "babababababababababababababababaiabaeamBlbafaBTWdababababababababababababababababababababa" ++
    "babatabababababababababababababaFfababababababadababababababababababababababababababababab" ++
    "abababababababababakabacababababaeaeabbcabababababababababalabababababababaeabacadafababaB" ++
    "aaBHcaBcDbBEAigmeBOzzBVhBnFgBjFzkbobgbbCRbByEvvEGoBfBGJwBfBULmBh"⟩,
   ⟨["dash"], "BtaCAuaBzaFKjaBNpaDBdfCjaBnapaPaaEOiacaBfbeaBcaReataEhaCZWabBlakaGnaFLoaMga"⟩,
   ⟨["dep", "deprecated"], "MraBYvaDKtabaDCjbDIjfBAvbBZRYka"⟩,
   ⟨["dia", "diacritic"],
    "DqabaCtagaeacbTjGcbhffrbeajbJteIbaCdBsbabbbbbaFbhebFebebdcCpBaDnkCgkBibEwhBpjqBbCjaqaddBca" ++
    "CwaqaEgaqaEgaqaBvcCiaqahaEpaEgaqaEgaqaEfbqaEuaEhamfbaEdaneCxbBbababaebCocbbCkaEiabbBobeezg" ++
    "bakbBBdcBKmbBeaFskjaNjcLgauhcaBwockEaapaBmiCcbCgalbCobCmfDeyeagaccByCkBwBjflBlkRdabclcncnc" ++
    "nbEXkcMfaTmfEbdDraBSMkambbaBcbDeboBhDycEfbmaBlaFvaBbrCfdBkaDramaBkaFtcCndBzaDwejcEybBDZsaB" ++
    "DppKkabaBvaBtbCpaBDkaBTnfbBpbiYnceaGjbVzfBmaBaePjcCskBxdHkaBpaCubEqbCkaCyajcEabGwbDcbqaygd" ++
    "eDlcbbnbDradaEtbJrbEwaEobElaKjbJybeaGaaDfasaDdaQfaJyabbDdaQjbxaHYaoQZpaDSaeChgVsbVaqDcbYGc" ++
    "dbgbbLThBtcwUycdfihcgBedFMwCjHmgOlaCjdBDmbBCigEfcbc"⟩,
   ⟨["emoji"],
    "BjagafjEhaeaLYramaIiawaDmfpbOdbmaGkazkecHraIxbkajaCgdbejacacbcaeacabbcadadbicfabafllbcabbb" ++
    "asacbsfbabbdbfacbeblbfbcafbbabbubffbdcaeacacfbacababagadagakbpacaeabaecbalbBwcjaoaoaOibRvc" ++
    "tbBzaeaBVuamaXdabaGMRqaHuaGebmboacjCxzbbxauacivbGsBhcEhcbbccDeccbKcbCklfbxhbchmacdcaebnbca" ++
    "ibjafcmciccabaeagadagDhBwCrfhccejdabbdacjItleaKxBubjbHcEimdjfCdhockgi"⟩,
   ⟨["ecomp", "emojicomponent"], "BjagafjMBjaIfaDFTraDOIwzTneCEadBSVUqDr"⟩,
   ⟨["emod", "emojimodifier"], "HHIxe"⟩,
   ⟨["ebase", "emojimodifierbase"],
    "OLhaIlaqdGSJvaCiccaccEnbckvsdaecbchabayaHtbeavaebGscdeDfaqcjalaWdacaihgajjccCeaCjbbbbarcbm" ++
    "IvcBqi"⟩,
   ⟨["epres", "emojipresentation"],
    "NHqbHxddacaUbbvbBylBratanaibrbfbiafavahbbaeacahaebBcaBjabaecbaCjcyaoaBHbbBzaeaGPLeaHuaHiac" ++
    "jCxzbayauacebcvbGsBgmibCrbvmBqeemqdadCsbabHecCkndbxsaBabnaDiDgBwCrgadcccedlbhiItleaKxBubjb" ++
    "HcEimdjfCdhockgi"⟩,
   ⟨["extpict", "extendedpictographic"],
    "GnaeaLYramaIiawaDmfpbOdbmaDraCsazkecHraIxbkajaCgdbfblbEjkEnckbabagadagakbpacaeabaecbaleBtc" ++
    "jaoaoaOibRvctbBzaeaBVuamaXdabaGMRmJvncBfaCifmboacjsCeBbokauacibdjQrfMfiKfBwExEmlDhBqmdCehk" ++
    "fBohBeDdmBubjbQyJwBNh"⟩,
   ⟨["ext", "extender"],
    "HbaUqbBHuaQzaYgaFhaDlaBCyaExaDNfaCeaXnaPiaCqaHKjaBreDzbDpcBQBuaCGsaBLaawaFhaEeavbBFZvaDBkb" ++
    "CFbaBbaeaBVbaLhaEmbTecBVjaBEOfbBTkbbaBQYabBUfaBGuc"⟩,
   ⟨["grlink", "graphemelink"],
    "DNpaExaExaExaExaExaExaExaEfbqaEuaEhaExaHtaGybCPlbBeaGbaZdaItaDxbCsbGQtaBUKkaBlaFvaFmaEeaLx" ++
    "aJmaBJSraCHiaBpaoaCfaErbFjaEmaGyaDuaEycEjaExaJsaExaEoaEmaKjaJzbGfaDfasaDdaQfaKabDdaQjbYZca"⟩,
   ⟨["hex", "hexdigit"], "BwjhfBafDSLljhfBaf"⟩,
   ⟨["hyphen"], "BtaExaBVwaGZzaDBdbFIbaBClaCZUlaGnaDja"⟩,
   ⟨["idcompatmathcontinue"], "GwbfaMAgadkboOhaeawaGJJeazaBfazaBfazaBfazaBfaza"⟩,
   ⟨["idcompatmathstart"], "MWwaeawaGJJeazaBfazaBfazaBfazaBfaza"⟩,
   ⟨["ideo", "ideographic"],
    "SEwbziocBLdJTnCmBFBjBHSiObcEbBSIkaBbJBziBVpBpjNUlPfBDEiCLFbBgGDtgIncINpoLBkpXxDQwUvCFyHHyf" ++
    "GFf"⟩,
   ⟨["idsb", "idsbinaryoperator"], "SEabcjTda"⟩, ⟨["idst", "idstrinaryoperator"], "SEcb"⟩,
   ⟨["idsu", "idsunaryoperator"], "SEob"⟩, ⟨["joinc", "joincontrol"], "MDob"⟩,
   ⟨["loe", "logicalorderexception"], "FKieEteEDsccaCCXmbcabb"⟩,
   ⟨["mcm", "modifiercombiningmark"], "CKibcaFbagadbSnbbcdaBfa"⟩,
   ⟨["nchar", "noncharactercodepoint"],
    "DSDcBfUgbDSYobDSYobDSYobDSYobDSYobDSYobDSYobDSYobDSYobDSYobDSYobDSYobDSYobDSYobDSYobDSYob"⟩,
   ⟨["oalpha", "otheralphabetic"],
    "BGfaBdmWenbabbbbbaCukBwmbgqaDxgedcbeaBjaBepDykDxbdibcbdEcaCildggtCcbcobbfckbBdcCggcbcbkakb" ++
    "BdcCgeebcbeaBebdalcCghbcbbvbwcecCggcbcbjbkbBeaChedcbckaBoeCfgbcbciblbBdcCggbcbciblbpamdCgg" ++
    "bcbckakbBdcCxfbabhsbCjacgsaDvacfbbqaGhsjkbBjEglbacdxdecbccgddnlbakdCLobBebBebBebCosHgbBiaE" ++
    "oleiIoeCfjctCwblcBxeBwoCicBeicbCfkBysPwBhCOnBzDKgBfBTQahBibNqaiaxeDkbBypbaCfaBmeBclBtdBwlB" ++
    "laCpnmaibBtcByabccbfaBsefaJdhBDZvaDEdeCMgcbbfdBEidCnaMjbDbaJzcCbnBtblcBtijaCjcBklsbCfcBwmo" ++
    "bDoicagacaGbjxdCggcbcbkakbDgibacabdbbDzmbcEcrJdgcgBdbDeobaEckDznJxmJnfbbcbdabaFmgcfeaBcjBq" ++
    "ebdskBunPrhbgDfvbnEsfdabbbcbadaCoebbbdNkdjbbaBwgdcYYnqFJcabCchdDpbBDAyaNKjgbqcgbbbeDwaDHva" ++
    "CZwzgzgz"⟩,
   ⟨["odi", "otherdefaultignorablecodepoint"], "BGpaFIlbCKhbDHnaGLiaDACpaDbiBWMIhabBdDsExJgFIl"⟩,
   ⟨["ogrext", "othergraphemeextend"],
    "DRyayaNuayaDyayaIyabaebbbjbDzayaEpapaDMraBeaBNkafabafbDxaCtbBOiaGCvbBTWtaEeaBGNlbGWmaEmaKe" ++
    "aoajaDsajacabcfaIqamaJhaKcaYjamaCHfaBEOkbBKXnbgfBTLAzDr"⟩,
   ⟨["oidc", "otheridcontinue"], "HbaBBraGAjiCLcaCIzbGKraDAEja"⟩,
   ⟨["oids", "otheridstart"], "JHlbDGjavaFVwb"⟩,
   ⟨["olower", "otherlowercase"],
    "GoapaThihbBeeDsaCaaFCzaEPzCknaBiBkBAnanaqmIdpBGqzCWobBUGkbIcaEzcdbBHidjaBIWsaccbBpbiDDZhCj"⟩,
   ⟨["omath", "othermath"],
    "DqaBHxccaBabcbKQyaBbclaBgdybobCnmeadbeesaeacjbadegadbcbbcbfddfeCxecdbbbbbabecbebercbbabgba" ++
    "gbLedGmbbayaraRdbmifefbcbdeoabacfybCfabaBddjbNebBfjPnvCldBgbDCLfabaeaIdabaDCOvDgbCsbbcacbc" ++
    "dblbabgbCmbdchbgbBbbdbebadgbNbcybybBebybBebybBebybBebybhcBxIIqdbBabbbacabjbdbabagaeabababc" ++
    "bbbacabababababbbacdbgbdbdbabjbqfcbebq"⟩,
   ⟨["oupper", "otheruppercase"], "MQqpBGgzGSIyzgzgz"⟩,
   ⟨["patsyn", "patternsyntax"],
    "BhokgBadbaBadBigbabbbabbeaeadaxaBfaLUexiocsbjLtBBrGeYfBeBNlbEaTsExOvceypaCZQzbKbb"⟩,
   ⟨["patws", "patternwhitespace"], "jesaDwaLYmbyb"⟩,
   ⟨["pcm", "prependedconcatenationmark"], "CHcfIhaBxaOubDcaDVXyapa"⟩,
   ⟨["qmark", "quotationmark"], "BiaeaFbapaLWuhzbFIdaRpdncDABpdHhaeaDmb"⟩,
   ⟨["radical"], "RPwzbDkmIf"⟩, ⟨["ri", "regionalindicator"], "HGOkz"⟩,
   ⟨["sterm", "sentenceterminal"],
    "BhamaqaCAbaFrcGyaBrcJmaCjabadbLhbCPwbBEkaebBDtaHqbGbbBtafaMcbNqdGgbkbcbBdcHfbCnbBJwaxbjcEU" ++
    "xcLuanawbQnaBSHwaKkbItadaOsbDibDraFwbFrcFobJpaBFCwacbChadbGnamaqaCnaEDwbBXdeBsdHhbEndExcEz" ++
    "bgaqbDkbbbEeaLmbEnbOjbfoEbbJpcTxabaJrbDjbQebBAqbCwbBCMbbFdaCnblaVhbLkaBDOgaLIma"⟩,
   ⟨["sd", "softdotted"],
    "EbbHoaKvaBeaCaauaMiaDuabaJMnaBzanadaFcaGbaQfaIgbEGgaGELhbBybBybBybBybBybBybBybBybBybBybByb" ++
    "BybDFyaLtbBaa"⟩,
   ⟨["term", "terminalpunctuation"],
    "BhakabalbdaBFyaiaTtaCfaCuaoabcGyaBrkbaJbbCcfbhBfaKbbBWubGqaefLzbBEjhBDtaEucCtbGbcdaBndcbMc" ++
    "bNqdGgbkbbcBdcHfeCkbBJwaxbjcEUxcLuanaeakabbdbQmbBSHvbKjcIteOsbDibDraFvcFrcExaqbJpaBFCwacbC" ++
    "fcbdGnakabalbdaCnacaBPqaBwaBSoaHraLybFwfCqfDldBKqeBsdHhgEidExcEzbgaqbDkeEeaLmbEncmbNuddoEb" ++
    "bJpcTxabaJrbDjbebPycBtaYvbCwbBYxeBAMzbFdaCnckaVhbLjbBDOgaLIld"⟩,
   ⟨["uideo", "unifiedideograph"],
    "TSaJTnCmBFBjBICsbbabbkababbccDVEcCLFbBgGDtgIncINpoLBkpXxGRqHHyfGFf"⟩,
   ⟨["vs", "variationselector"], "JCtcbaDJCapBWNKyJf"⟩,
   ⟨["wspace", "whitespace", "space"], "jesaDwaBaaIHjaDPnkBdbfaBvaFXwa"⟩]
/-- Small letters. -/
def lowercase : CharSet :=
  (Category.ofNames ["ll"]).union (table.setOf "otherlowercase")

/-- Capital letters. -/
def uppercase : CharSet :=
  (Category.ofNames ["lu"]).union (table.setOf "otheruppercase")

/-- Letters that have a case. -/
def cased : CharSet :=
  CharSet.unionAll [lowercase, uppercase, Category.ofNames ["lt"]]

/-- Characters that are used like letters. -/
def alphabetic : CharSet :=
  CharSet.unionAll
    [lowercase, uppercase, Category.ofNames ["lt", "lm", "lo", "nl"], table.setOf "otheralphabetic"]

/-- Characters that belong to the one before them. -/
def graphemeExtend : CharSet :=
  (Category.ofNames ["mn", "me"]).union (table.setOf "othergraphemeextend")

/-- Characters that may stand alone. -/
def graphemeBase : CharSet :=
  (Category.assigned.diff
    (CharSet.unionAll [Category.ofNames ["cc", "cf", "co", "zl", "zp"], Category.surrogates])).diff
    graphemeExtend

/-- Characters that patterns reserve. -/
def patternReserved : CharSet :=
  (table.setOf "patternsyntax").union (table.setOf "patternwhitespace")

/-- Characters that names begin with. -/
def idStart : CharSet :=
  ((Category.ofNames ["lu", "ll", "lt", "lm", "lo", "nl"]).union (table.setOf "otheridstart")).diff
    patternReserved

/-- Characters that names go on with. -/
def idContinue : CharSet :=
  (CharSet.unionAll
    [idStart, Category.ofNames ["mn", "mc", "nd", "pc"], table.setOf "otheridcontinue"]).diff
    patternReserved

/-- Characters of names that change when they are made compatible. -/
def unstable : CharSet :=
  ⟨[(0x37A, 0x37A), (0x309B, 0x309C), (0xFC5E, 0xFC63), (0xFDFA, 0xFDFB), (0xFE70, 0xFE70),
    (0xFE72, 0xFE72), (0xFE74, 0xFE74), (0xFE76, 0xFE76), (0xFE78, 0xFE78), (0xFE7A, 0xFE7A),
    (0xFE7C, 0xFE7C), (0xFE7E, 0xFE7E)]⟩

/-- Characters that names begin with, but would no longer when they are made compatible. -/
def unstableStart : CharSet :=
  unstable.union ⟨[(0xE33, 0xE33), (0xEB3, 0xEB3), (0xFF9E, 0xFF9F)]⟩

/-- Characters that are ignored where they have no effect. -/
def defaultIgnorable : CharSet :=
  (CharSet.unionAll
    [table.setOf "otherdefaultignorablecodepoint", Category.ofNames ["cf"],
      table.setOf "variationselector"]).diff
    (CharSet.unionAll
      [table.setOf "whitespace", table.setOf "prependedconcatenationmark",
        ⟨[(0xFFF9, 0xFFFB), (0x13430, 0x1343F)]⟩])

/-- Punctuation within words, which the case of letters goes past. -/
def innerPunctuation : CharSet :=
  ⟨[(0x27, 0x27), (0x2E, 0x2E), (0x3A, 0x3A), (0xB7, 0xB7), (0x387, 0x387), (0x55F, 0x55F),
    (0x5F4, 0x5F4), (0x2018, 0x2019), (0x2024, 0x2024), (0x2027, 0x2027), (0xFE13, 0xFE13),
    (0xFE52, 0xFE52), (0xFE55, 0xFE55), (0xFF07, 0xFF07), (0xFF0E, 0xFF0E), (0xFF1A, 0xFF1A)]⟩

/-- Characters that the case of letters goes past. -/
def caseIgnorable : CharSet :=
  (Category.ofNames ["mn", "me", "cf", "lm", "sk"]).union innerPunctuation

/-- Characters that change with some change of case. -/
def changing : CharSet :=
  CharSet.unionAll
    [table.setOf "changeswhenlowercased", table.setOf "changeswhenuppercased",
      table.setOf "changeswhentitlecased"]

/-- The characters with a property. -/
def find? (name : String) : Option CharSet :=
  match name with
  | "lower" | "lowercase" => some lowercase
  | "upper" | "uppercase" => some uppercase
  | "cased" => some cased
  | "alpha" | "alphabetic" => some alphabetic
  | "math" => some ((Category.ofNames ["sm"]).union (table.setOf "othermath"))
  | "grext" | "graphemeextend" => some graphemeExtend
  | "grbase" | "graphemebase" => some graphemeBase
  | "ids" | "idstart" => some idStart
  | "idc" | "idcontinue" => some idContinue
  | "xids" | "xidstart" => some (idStart.diff unstableStart)
  | "xidc" | "xidcontinue" => some (idContinue.diff unstable)
  | "di" | "defaultignorablecodepoint" => some defaultIgnorable
  | "ci" | "caseignorable" => some caseIgnorable
  | "cwcm" | "changeswhencasemapped" => some changing
  | _ => table.set? name

/-! ## What is used most -/

/-- The characters of words. -/
def word : CharSet :=
  CharSet.unionAll
    [alphabetic, Category.ofNames ["mn", "mc", "me", "nd", "pc"], table.setOf "joincontrol"]

/-- The decimal digits. -/
def digit : CharSet :=
  Category.ofNames ["nd"]

/-- The characters that separate words. -/
def blank : CharSet :=
  table.setOf "whitespace"

/-- The letters and numbers. -/
def alphanumeric : CharSet :=
  alphabetic.union (Category.ofNames ["nd", "nl", "no"])

end Phrasebook.Unicode.Property
