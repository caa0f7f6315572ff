import Phrasebook.Unicode.Table

/-!
# General categories

Every character has one general category. The categories form groups, such as the letters or the
marks; a character without another category is unassigned.
-/

namespace Phrasebook.Unicode.Category

/-- The characters of each category; the unassigned ones are left out. -/
def table : Table :=
  [⟨["lu", "uppercaseletter"],
    "CnzDxwbgBhabababababababababababababababababababababababababababacabababababababacabababab" ++
    "abababababababababababababababababababbbabadbbabbbccdbbbcdbbbbababbbacabbbcbabbdahacacacab" ++
    "ababababababacababababababababacacabcbabababababababababababababababababababababababababab" ++
    "ababahbbbcabdbabababaLdabadaiagabcbabbbqbiBjaccdabababababababababababafacabbcByBwabababab" ++
    "ababababababababababababajabababababababababababababababababababababababababababbbabababab" ++
    "abacababababababababababababababababababababababababababababababababababababababababababab" ++
    "ababababacBlEHdBlbafaBBuDhDGlagBqccMiababababababababababababababababababababababababababa" ++
    "bababababababababababababababababababababababababababababababababababababababababababababa" ++
    "bababajabababababababababababababababababababababababababababababababababababababababababa" ++
    "bababababababajhifkhihiflabababaihCudmdmdmeldKcaeadccccadegabababdcdkbfaCjaDZgBvBwabccabab" ++
    "abdbacaicbabababababababababababababababababababababababababababababababababababababababab" ++
    "ababababababababaiabaeaBTYjababababababababababababababababababababababatababababababababa" ++
    "bababababaFfababababababadababababababababababababababababababababababababababababababakab" ++
    "abbbabababaeabacabadababababababababababebebabababababababdbabbdafabababayaBHAhzBUzBnFgBjG" ++
    "akbobgbbCQcByGbvEGoBfBGJwBfBMMqzBazBazBaabbcacbcdbhBazBabbdchbgBbbbdbebadgBbzBazBazBazBazB" ++
    "azBeyBhyBhyBhyBhyBhaGNlBh"⟩,
   ⟨["ll", "lowercaseletter"],
    "DtzCgaBpxbhbabababababababababababababababababababababababababababbbabababababababbbababab" ++
    "abababababababababababababababababababacababccabacadbeacadccacababacabbbacadabacbccgacacab" ++
    "abababababababbbababababababababbcabadabababababababababababababababababababababababababab" ++
    "abababgcacbbaeababababCqbBaHlabadadcsaBbBibbdcbabababababababababababebacacbBzBvbababababa" ++
    "babababababababababababajababababababababababababababababababababababababababacabababababa" ++
    "bbbabababababababababababababababababababababababababababababababababababababababababababa" ++
    "babababaBwBoEHbBqccBDgfDFuibaEnBrClmbBhDyababababababababababababababababababababababababa" ++
    "bababababababababababababababababababababababababababababababababababababababababababababa" ++
    "bababababibabababababababababababababababababababababababababababababababababababababababa" ++
    "bababababababababiifkhihifkhihinchihihiebbgadcbbidcbihkcbbKoadbdaBbaeaeacbideaCbaEBbBvbadb" ++
    "bababaeabbbffababababababababababababababababababababababababababababababababababababababa" ++
    "bababababababababababbhabaeamBlbafaBTWdababababababababababababababababababababababatababa" ++
    "bababababababababababaFfababababababcbabababababababababababababababababababababababababab" ++
    "abababababhbabacababababaeabacabcbabababababababababafafabababababababaeabacadabababababaB" ++
    "aadaBFpBqfihDbBEAigmeBOzzBVhBnFgBjFzkbobgbbCRbByEvvEGoBfBGJwBfBMMkzBagbrBazBadbabgbkBazBaz" ++
    "BazBazBazBazBazBazBaBbBcybfBaybfBaybfBaybfBaybfbaCSyjbtgfDUdBh"⟩,
   ⟨["lt", "titlecaseletter"], "RlacacaBmaLFhhihihmapaBva"⟩,
   ⟨["lm", "modifierletter"],
    "BAmreloehabaFdafaSkaIwaGibKjbeaBfajadaGeaGlaBVoaExaVtaCPmaEdaXnaRwfGsCknaBiBkBAnanaqmEMxbJ" ++
    "haHjaSbaBrefaDtbDpcBQBuaBWcfKkaEkaBcbEriDcaxaEbcdbSbawaFhaEeavbDzdjaBFViaBtbCZofbBpbiCCxaB" ++
    "gaBJNsdTocBobVemCmbbaYGqdbgbbSGnCjHtgBKfaBRba"⟩,
   ⟨["lo", "otherletter"],
    "GoapaJwaedIaaBFvBaedBtBfbjBjbbDubaybkccaqabBdBdDklayBgvvBqyhkfxbfrBoChCbdasahjqoehcbcvbgba" ++
    "dddaqanbbcobkaifebcvbgbbbbbbBfdbatcqibcbvbgbbbedasapbxalhcbcvbgbbbedaBebbcparabfdcbddbbabb" ++
    "dbdcdlwaCahbcbwbpdaBaccacbBeaehbcbwbjbedaBfbbbpbribcbBocaqafcicyffrdxbibacgCgBvbbmfChbbabe" ++
    "bxbabjbbjacexdBgaClhbBjBbeElBquaqfeddadbhcemmaEjMqbdcgbabdcBobdcBgbdcgbabdcobCebdcCoBlpEjX" ++
    "vcqbzfCwghhrnsorombcpBzBoaCpBibCahecBhbafCrkBeBxBdcelBrezCcwjCaGuBurhCcBdnbkBrBaBjBpckBdEj" ++
    "dbfbbdaBPqdENvCdywjgbgbgbgbgbgbgbgVfaCbaeDhiabDleafBqbDprBfBwpTsJTnCmBFCebBRyCpBniKhepkbCo" ++
    "aBxCrGnaDzadgbcbdbwBdBzoBxCkfdabblBbkwzBchBuBtecikebBoxcbhupbfdadBxbadbcecabaybdkhaofcfcfj" ++
    "gbgFpBiBdQNrmweBwMNcObcEbCpabjbmbebabbbbbEdBhNysClcCbBolEmebFeEbjbBscBedfcfcfccBjlbzbsbbbo" ++
    "cnBiEsOzBcdBwBvBfntbhgBlkBdcBjehEyCzDuBniBzDoBzmLyjvkhFwfcabBrbbdacwkwjBeCnsbbkvkzCsCdgbCm" ++
    "apdbcbBcBqBcdBcBjhbBbBbCbkvksnrEgCuHbBjBmdbaLsBpgbqcChBckaivBqrBuuBbwmCaCfbcanBsBgyBaBjBda" ++
    "caiBidamBvodvabaBjrbytbClgbabdbobjhBuBmhcbcvbgbbbedasameBejbacabBlbazabaBsCasducBeBvubbaHc" ++
    "BuBpdBkBvuaChBqnaCtBaBlgHdBrIdhcachbbbxpabaDqhcBmqabaBcakBnhavalBttasCuHrBgBfibBkraBxBdEig" ++
    "bbbBlvazfbbbBfoaMpspabmbBhEuaDbBJlIwHnDXkDspBPfrfzFXqfWkKDdBdCPuVwhBerDarBdsBvBzufsQtBnPpC" ++
    "wfaGtJBziBVpBpjNGhLepaBdccaodiPfDKuEcfmdihjNBcaThBsBhaMjBdsBrSqBaIvBdcaTbgbdbbbobHoBZndbBa" ++
    "bbbacabjbdbabagaeabababcbbbacabababababbbacdbgbdbdbabjbqfcbebqGOaCLFbBgGDtgIncINpoLBkpXxDQ" ++
    "wUvCFyHHyfGFf"⟩,
   ⟨["mn", "nonspacingmark"],
    "BDoEhKpeKfBsbabbbbbaCukBwuqaDxgcfcbbdBjaBeBaDnkCgijaydbibcbeBrcChiBqxbBfCdabaeheadgkbBdaCg" ++
    "aediaubBaacbCfaebebccdaBebdalbCfaeebbeaubwfbaCgacabdiahblbBeaCjamaByadaCdabcfcbdhblbBdaCga" ++
    "cagafbubBcbCfbediaubBdaCuahcbaDmacgmhDuacilgCvbBbababaCdnbebbfkbBjjaDydbfbbcbzbecqdnacbgap" ++
    "aBBbcBKkcBdbBebBebCmbbgiackjaBtcbaEnbBiaEocebjagcIlbcaCgabgbabachgjcaBwnbpBxdBwabebafaBoim" ++
    "bBgdcbbcCeabbdabcCghcbFwcbmbgeagadbHqClBBsmeadlEOccFlaDsBfVidEdbBSQeaejBgbDcbKmadaeazbfaFv" ++
    "bBarnaBmhzkBucBwacdcbBnaCpfcbcbmaiaBvaBzabccbfbbaBqbiaJeacaeaBDZsaBCjpqpBLlaIsaFteCMgcbbfd" ++
    "BoceaGjbWbdCneMfbDbdCskBxdEtaCcoBpacbkcBxdcbhaCjcBkebhCkambCaikdcaDrccabbgacaGbadhvbCfbdaB" ++
    "lgdeCsfnababaobDhhccbaxaDgfbaebbbJedgbbbBbbDhhcabbEcabacfbaDxabacdbeJzibbJwbbaeaFodcbeaBgj" ++
    "BofcdiajfccBumbbPqgbfbaDevcgbbbbEsfdabbbgbaCubdabaNjblbCaefabaxaHXtagoQYyldcDSaeChgBOiaCld" ++
    "DdaBDBkbGYzBtcwUycrhcgBedFscCYdCceBxiaoaweboCAigbqcgbbbeDwaGegOlaCjdTodJubBCigEfgBTCIvJf"⟩,
   ⟨["mc", "spacingmark"],
    "DKtaCdaccidbbBybCgcgbcbkaBraCgcCoaCgciabbCbbCgabagbcbkaDybbbdcbckaBpcCjdCjbCgabecbbbjbBcao" ++
    "bCgcfcbckaBqbCxcghsbMsbClaGpbeagacbzbkccgvbcfcakcCLsaBeaEzahhbbNidccebbfIqbCgabajabbifFpaB" ++
    "wafabebbCjaBeaebcaCiaccbadbBwhibGpavaHHebBTLbbcaDkbBypFmbBvaBwbebccEgbcbyaBtabaEfacbfaJdbb" ++
    "bbbbaBLXjabaExaBtcebElaybChaBwcjbnaDpcdbbaGocBfbCgbbdcbccjakbDgchacabdbbbaDxcibdaEccgabdca" ++
    "JdcgdcaEjcibbaEfabbgaDzabbeaKbcjaJnfbbeacabaFmcideaDgaBdbCkaPraoaEcahacaIfeebbaNmbmaBwbibb" ++
    "aYYycFJgCcEabBKXnbgf"⟩,
   ⟨["me", "enclosingmark"], "BSqbIKqaCIgdbcBYOxc"⟩,
   ⟨["nd", "decimalnumber", "digit"],
    "BwjCIojFejHqjPwjEojEojEojEojEojEojEojEojEojDsjEojCsjKsjCsjCTqjBmjLojEyjGkjgjHajDijFejgjCAE" ++
    "ojBAcjBmjHqjwjDijPqjBFMcjCCkjDFyjgjBEqjEyjCijFojKsjNejEojOkjDyjgtCyjQgjDyjZmjDijJmjCsjQgjY" ++
    "YgjDMcjDijFejUojBKDyjECqBxDNcjQgjTijJnjBGvjHBaj"⟩,
   ⟨["nl", "letternumber"], "IRucDYtBicdFMsaziocBSYljBIFgCaRsaiaFeeMEsEg"⟩,
   ⟨["no", "othernumber"],
    "GwbfaccDMrfOmfEqcFdgIjgriQrjBPltBRvjSmaCMvadfgjHqpBpaBByChDavYgBdCBhaBTcdFijBehboBgjBnoBSM" ++
    "ifBHQnBsCndrbNdBaBkdBZghzgBniCxewfGebcpcBtCmiCabBecCxeEahyhBpgMsfNoBeGcjBqdEigFetOptBZxbQo" ++
    "iBHnsBGtuBCPqgBEswBLYftmtEeyIBuiBJtCgbcbdCyBsboBLam"⟩,
   ⟨["pc", "connectorpunctuation"], "DraMBvbtaDGAobycJfa"⟩,
   ⟨["pd", "dashpunctuation"], "BtaCAuaBzaFKjaBNpaDBdfFHxacaBfbeaBcaReataEhaCZWabBlakaGnaFLoaMga"⟩,
   ⟨["ps", "openpunctuation"],
    "BoaByaBfaFPeabaCUoaDPmadaBmaCdapaYkabaBeaBPuababababababaDcaBgababababaPoababababababababa" ++
    "babaCmabaBhaBOvabababazasabababaQmababababadabababacaCZRtaIhaBdabababababababadarababaGoaB" ++
    "yaBfadaca"⟩,
   ⟨["pe", "closepunctuation"],
    "BpaBzaBfaFPdabaCUoaDRdaCdapaYkabaBeaBPuababababababaDcaBgababababaPoababababababababababaC" ++
    "mabaBhaBOvabababaBsabababaQmababababadabababacbCZRqaIjaBdabababababababadarababaGoaBzaBfac" ++
    "aca"⟩,
   ⟨["pi", "initialpunctuation"], "GpaLXkacbcazaFFsabaeacapada"⟩,
   ⟨["pf", "finalpunctuation"], "HfaLWvadaBcaFFsabaeacapada"⟩,
   ⟨["po", "otherpunctuation"],
    "BhcbccababbkbdbBbaCqafaobhaBBaaiaRyfBpaCcacacaBsbubbbnabcCwdDyaBrnIzcCcoBfaKbbkaFkaEqaEraP" ++
    "aamaOdaDmakbGmobaEiaCweebEhfGpaXoiBDtaEucCtbGbcbcBlfbdMbbIibEygbfGebkgBccEudCheCkbCmhlaBGc" ++
    "bihiicdccdkbabjEUcdbbEiaFnbeccacibbbacbkebjcdbabmccQmcCfaHhaBRYgbKjcDvakaElfOqdDibBocbaBxb" ++
    "BvaDtmqbEudEwbqbJpaBFCugcawaubcddcbdhcgabbFtcbccababbkbdbBbaBkacbPucZsaBwaPyaBCpaHraBfaKmi" ++
    "BmaEigCogDldBKqeBsdHhgEfbbdEwdBwbDbdeanabcDkfEdaLmbbbEkekbbaEaaJqwEbcBcmCyaFacJsaKecFzaDoh" ++
    "DfcbeDpjIhaDreBqbYvbCwmGtaBRseEJcbWDvbFdaCneiaVgcLjdMpaBDBoaLIleEItaBHeb"⟩,
   ⟨["sm", "mathsymbol"],
    "BraqcCjabaBtaeaBlaBfaBDmaUhcJYhanaBncncFjaBnegaCqefbeacacahaBfbcabaBfKhBgbDmaBeyBofSbajaCc" ++
    "hEhaMyecBekpJwFawCkeBfcJxBwucfDASqaBFsabcGiaqcCjabaFbagdFEfbCYEzazaBfazaBfazaBfazaBfazaIUe" ++
    "b"⟩,
   ⟨["sc", "currencysymbol"],
    "BkaEvdBWjaEtaTebTebhaJlaKdaWjaDQpaDIiBgBZHvaBGMlaEeaFyaIlbdbMCsdCVXeaDRka"⟩,
   ⟨["sk", "modifiersymbol"],
    "DqabaCtagaeadaUbdmnfgbabqEnaobBXiaIUmabclcncncnbGHobBSVrwjbDzbBLoaobBEKkqBIhabaGgaDOLje"⟩,
   ⟨["so", "othersymbol"],
    "GkacaeabaBLpaKgbExbHyakatbJnaTvaOjaFafbaFcaHzaBpaPbcpabccfuababaFdhbfbbfdHpbBCyjBBvaBBuaGb" ++
    "BhNpjjiCChbbdbbkabbgfbababaealboabbbaCgbjecdbbbbbgbBecbbabBeKihetcgcDcbBdzBngCtwkDdCzwHabi" ++
    "bCbiEgbJnBsBrCmJvTsBvvbgBmcBfbEaIvfNtbBuzbDkmIfBapeanbmavbgbMybejBgBljaqBelBdiapBfkBmpMhJT" ++
    "oClBGUiCcBHhdkbbaWbcBFJapExaBtcSqadaebnbMbiCfqccbmdaBvBsCLubWtaESsaDGnheqBCNidfaBEUwaFVnJf" ++
    "qQtGaElCiJlkBmcChfcwbhBdeCivCndaHeDiBTxTrCddByhbnbbCOuaEHwaEzaBBtBreDvmocobobBkxGeCeBcnBre" ++
    "ihbofFyJqfBBzeqdmdEoeDqgleapleCdijgBniBdclebCkNbmncmdjfCdhockgihFqbDn"⟩,
   ⟨["zs", "spaceseparator"], "BgaExaIHjaDPnkBkaBvaFXwa"⟩, ⟨["zl", "lineseparator"], "MEqa"⟩,
   ⟨["zp", "paragraphseparator"], "MEra"⟩, ⟨["cc", "control", "cntrl"], "aBfDrBg"⟩,
   ⟨["cf", "format"], "GraCAkfwaHkaBxaOubDcaFTjaDAqeBaeBxebjDGHjaJpcGIzapaNKkpBZQudHWxhBTKZmaBeDr"⟩,
   ⟨["co", "privateuse"], "DGVoJMdCAHXoDSYncDSYn"⟩]

/-- The groups of categories: their names, and the short names of their members. -/
def groups : List (List String × List String) :=
  [(["lc", "casedletter"], ["lu", "ll", "lt"]),
   (["l", "letter"], ["lu", "ll", "lt", "lm", "lo"]),
   (["m", "mark", "combiningmark"], ["mn", "mc", "me"]),
   (["n", "number"], ["nd", "nl", "no"]),
   (["p", "punctuation", "punct"], ["pc", "pd", "ps", "pe", "pi", "pf", "po"]),
   (["s", "symbol"], ["sm", "sc", "sk", "so"]),
   (["z", "separator"], ["zs", "zl", "zp"])]

/-- The characters of some categories, given by their short names. -/
def ofNames (names : List String) : CharSet :=
  CharSet.unionAll (names.filterMap table.set?)

/-- The code points that stand for no character. -/
def surrogates : CharSet :=
  .range 0xD800 0xDFFF

/-- The characters that have a category of their own. -/
def assigned : CharSet :=
  CharSet.unionAll (surrogates :: table.map Row.set)

/-- The characters of a category or a group. -/
def find? (name : String) : Option CharSet :=
  match name with
  | "any" => some .all
  | "ascii" => some (.range 0 0x7F)
  | "assigned" => some assigned
  | "cn" | "unassigned" => some assigned.compl
  | "c" | "other" => some ((ofNames ["cc", "cf", "co"]).union assigned.compl)
  | _ =>
    match groups.find? (·.1.contains name) with
    | some (_, members) => some (ofNames members)
    | none => table.set? name

end Phrasebook.Unicode.Category
