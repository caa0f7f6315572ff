import Phrasebook.Unicode.Table

/-!
# Segmentation

What a character does where a text is cut into the characters that a reader sees, into words and
into sentences.
-/

namespace Phrasebook.Unicode.Segmentation

/-- The classes for the characters that a reader sees. -/
def graphemes : Table :=
  [⟨["cr"], "na"⟩,
   ⟨["cn", "control"], "ajbbbrDrBgnaCBmaGUraDAqacbygBxpDGHjaJglTUapBZQudHWxhBTKZlBfDsExJgFIl"⟩,
   ⟨["ex", "extend"],
    "BDoEhKpgKdBsbabbbbbaCukBwuqaDxgcfcbbdBjaBeBaDnkCgijaydbibcbeBrcChiBqxbBfCdabaeheadgkbBdaCg" ++
    "abacdiajakbBaacbCfaebebccdaBebdalbCfaeebbeaubwfbaCgabbbdiahckbBeaChabamajaBoadaCdabcfcbdhb" ++
    "lbBdaCgacbbadcbdhblbBcbCfbbacdiajakbBdaCuaeaccbaiaDdacgmhDuacilgCvbBbababaCdnbebbfkbBjjaDy" ++
    "dbfbbcbzbecqdnacbgapaBBbcBKkdBccBdbBebCmbbgiackjaBtcbaEnbBiaEocebjagcIlbcaCgabgbabachgjcaB" ++
    "wBeBxdBwjecBmimbBgdcfCeabbdabeCehcbFwcbmbgeagadbHqClUeaHnBgEOccFlaDsBfVifEbbBSQedbjBgbDcbK" ++
    "madaeazbfaFvbBarnaBmhzkbaBscBwacdcbcaBkaCpfcbcbmaiaBvaBzabccbfbbaBqbiaJeacaeaBDZsaBCjpqpOc" ++
    "bXhaIsaFteCMgcbbfdBoceaGjbWbdCneMfbDbdCskBxdEtaCcoBpacbkcBxdcbhaCjcBkebhCkambCaibaidcaDrcc" ++
    "dgacaGbadhvbCfbbabamajaogdeCpacfbacabcecbaobDhhccbaxaDdacfbacabbbbJbacdgbbbBbbDhhcabbEcaba" ++
    "chDxabacdbeJzibbJlakdeaFodcbeaBgjBofcdiajfccBumbbPqgbfbaDevcgbbbbEsfdabbbgbaCubdabaNjblbCa" ++
    "efcxaHXtagoQYyldcDSaeChgBOiaCldDdalbBDAxbGYzBtcwUwedfihcgBedFscCYdCceBxiaoaweboCAigbqcgbbb" ++
    "eDwaGegOlaCjdTodJubBCigEfgEBgeBSXYuDrEyJf"⟩,
   ⟨["l"], "GLkDrCFOqBc"⟩, ⟨["lf"], "ka"⟩,
   ⟨["lv"],
    "CNDoaBbaBbaBbaBbaBbaBbaBbaBbaBbaBbaBbaBbaBbaBbaBbaBbaBbaBbaBbaBbaBbaBbaBbaBbaBbaBbaBbaBbaB" ++
    "baBbaBbaBbaBbaBbaBbaBbaBbaBbaBbaBbaBbaBbaBbaBbaBbaBbaBbaBbaBbaBbaBbaBbaBbaBbaBbaBbaBbaBbaB" ++
    "baBbaBbaBbaBbaBbaBbaBbaBbaBbaBbaBbaBbaBbaBbaBbaBbaBbaBbaBbaBbaBbaBbaBbaBbaBbaBbaBbaBbaBbaB" ++
    "baBbaBbaBbaBbaBbaBbaBbaBbaBbaBbaBbaBbaBbaBbaBbaBbaBbaBbaBbaBbaBbaBbaBbaBbaBbaBbaBbaBbaBbaB" ++
    "baBbaBbaBbaBbaBbaBbaBbaBbaBbaBbaBbaBbaBbaBbaBbaBbaBbaBbaBbaBbaBbaBbaBbaBbaBbaBbaBbaBbaBbaB" ++
    "baBbaBbaBbaBbaBbaBbaBbaBbaBbaBbaBbaBbaBbaBbaBbaBbaBbaBbaBbaBbaBbaBbaBbaBbaBbaBbaBbaBbaBbaB" ++
    "baBbaBbaBbaBbaBbaBbaBbaBbaBbaBbaBbaBbaBbaBbaBbaBbaBbaBbaBbaBbaBbaBbaBbaBbaBbaBbaBbaBbaBbaB" ++
    "baBbaBbaBbaBbaBbaBbaBbaBbaBbaBbaBbaBbaBbaBbaBbaBbaBbaBbaBbaBbaBbaBbaBbaBbaBbaBbaBbaBbaBbaB" ++
    "baBbaBbaBbaBbaBbaBbaBbaBbaBbaBbaBbaBbaBbaBbaBbaBbaBbaBbaBbaBbaBbaBbaBbaBbaBbaBbaBbaBbaBbaB" ++
    "baBbaBbaBbaBbaBbaBbaBbaBbaBbaBbaBbaBbaBbaBbaBbaBbaBbaBbaBbaBbaBbaBbaBbaBbaBbaBbaBbaBbaBbaB" ++
    "baBbaBbaBbaBbaBbaBbaBbaBbaBbaBbaBbaBbaBbaBbaBbaBbaBbaBbaBbaBbaBbaBbaBbaBbaBbaBbaBbaBbaBbaB" ++
    "baBbaBbaBbaBbaBbaBbaBbaBbaBbaBbaBbaBbaBbaBbaBbaBbaBbaBbaBbaBbaBbaBbaBbaBbaBbaBbaBbaBbaBbaB" ++
    "baBbaBbaBbaBbaBbaBbaBbaBbaBbaBbaBbaBbaBbaBbaBbaBbaBbaBbaBbaBbaBbaBbaBbaBbaBbaBbaBbaBbaBbaB" ++
    "baBbaBbaBbaBbaBbaBbaBbaBbaBba"⟩,
   ⟨["lvt"],
    "CNDpBabBabBabBabBabBabBabBabBabBabBabBabBabBabBabBabBabBabBabBabBabBabBabBabBabBabBabBabBa" ++
    "bBabBabBabBabBabBabBabBabBabBabBabBabBabBabBabBabBabBabBabBabBabBabBabBabBabBabBabBabBabBa" ++
    "bBabBabBabBabBabBabBabBabBabBabBabBabBabBabBabBabBabBabBabBabBabBabBabBabBabBabBabBabBabBa" ++
    "bBabBabBabBabBabBabBabBabBabBabBabBabBabBabBabBabBabBabBabBabBabBabBabBabBabBabBabBabBabBa" ++
    "bBabBabBabBabBabBabBabBabBabBabBabBabBabBabBabBabBabBabBabBabBabBabBabBabBabBabBabBabBabBa" ++
    "bBabBabBabBabBabBabBabBabBabBabBabBabBabBabBabBabBabBabBabBabBabBabBabBabBabBabBabBabBabBa" ++
    "bBabBabBabBabBabBabBabBabBabBabBabBabBabBabBabBabBabBabBabBabBabBabBabBabBabBabBabBabBabBa" ++
    "bBabBabBabBabBabBabBabBabBabBabBabBabBabBabBabBabBabBabBabBabBabBabBabBabBabBabBabBabBabBa" ++
    "bBabBabBabBabBabBabBabBabBabBabBabBabBabBabBabBabBabBabBabBabBabBabBabBabBabBabBabBabBabBa" ++
    "bBabBabBabBabBabBabBabBabBabBabBabBabBabBabBabBabBabBabBabBabBabBabBabBabBabBabBabBabBabBa" ++
    "bBabBabBabBabBabBabBabBabBabBabBabBabBabBabBabBabBabBabBabBabBabBabBabBabBabBabBabBabBabBa" ++
    "bBabBabBabBabBabBabBabBabBabBabBabBabBabBabBabBabBabBabBabBabBabBabBabBabBabBabBabBabBabBa" ++
    "bBabBabBabBabBabBabBabBabBabBabBabBabBabBabBabBabBabBabBabBabBabBabBabBabBabBabBabBabBabBa" ++
    "bBabBabBabBabBabBabBabBabBabBa"⟩,
   ⟨["pp", "prepend"], "CHcfIhaBxaOubDcaBRnaDUGkapaJkbUfaCBlabaJoaCvfBAyaRba"⟩,
   ⟨["ri", "regionalindicator"], "HGOkz"⟩,
   ⟨["sm", "spacingmark"],
    "DKtaCdaccidbbBybChbgbcbCcaCgcCoaCgciabbCbbCiagbcbEkabbdcbcCacCjdCjbCgacabbBuaobChbfcbcCbbC" ++
    "ybggtbClaExaFibClaGvajbzbBsaCSvahhbbNidccebbfIqbCgabavfFpaCfdCmaBeaebClaccbaCbhibGpavaCASh" ++
    "bcaDkbBypFmaBwaBwbebcbEhbcbyaGbacbfaJdbbbbbbaBLXjabaExaBtcebElaybChaBwcjaoaDpcdbGqcBfbChab" ++
    "dcbcbvbDhbpabbDzcibdaEdbgabbbacaJebgdcaEjcibbaEfabbEoaKbcjaJoebbhabaFmcideaDgaBdbCkaPraoaE" ++
    "cahacaIfeebbaNmbmaBwbibYZacFJgCc"⟩,
   ⟨["t"], "GRwDjCWXnBw"⟩, ⟨["v"], "GPcCtCWZww"⟩, ⟨["zwj"], "MDpa"⟩]

/-- The classes for words. -/
def words : Table :=
  [⟨["le", "aletter"],
    "CnzgzBvakaeafwbBebSlgBhEiebbcdbagabcbabtbDebFiiGjbBlcdbabBobaEaaBsBqBjbbDubapbhbkccaqabBdB" ++
    "dDklayBgjbeafveajadaxyhkfxbfrBpCgCbdasahjppehcbcvbgbadddaqanbbcobkaifebcvbgbbbbbbBfdbatcqi" ++
    "bcbvbgbbbedasapbxalhcbcvbgbbbedaBebbcparabfdcbddbbabbdbdcdlwaCahbcbwbpdaBaccacbBeaehbcbwbj" ++
    "bedaBfbbbpbribcbBocaqafcicyffrdxbibacgMbaClhbBjBbeKpBlbafacBqbMubdcgbabdcBobdcBgbdcgbabdco" ++
    "bCebdcCoBlpqDhcfdXvcqbzfCwdkhrnsorombcGtDkhecBhbafCrkBeIrwJeBurhCcBdnbkBrBaBjBpckBjckfBqcc" ++
    "BpdbfbbdafHjCmKrcfcBlcfchbabababBecCabgbadcbgddcfemfcbgEmanaqmDxaeacjbadegabababdbkcdfeear" ++
    "BoBFhBzCRuIugddbmBlbafacCdhaqwjgbgbgbgbgbgbgbgDcaSbaCbbHsBqbDprBfBPToBSuCpBtcKidpkbuBuqBec" ++
    "DbyHpcbbabhvpbcbdbwBdBzoBxCkfdabblBbkwzBchBuBcaBwBoxcbhFskhcmfcfcfjgbgbCfgEkBdQNrmweBwNGug" ++
    "meCeDtBhNysClcCbBolEmebFeBkzgzCrBedfcfcfccBjlbzbsbbbocnBiEsCrCaKhBcdBwBvBfnBdfBlkBdcBjehbe" ++
    "BqGbsBjeBjeBniBzmkbobgbbbkbobgbbdBzmLyjvkhyfbBpbiCrfcabBrbbdacwkwjBeCnsbbkvkzCsCdgbCmapdbc" ++
    "bBcBqBcdBcBjhbBbBbCbkvksnrEgCuCdBynBynBjBmBbjwJqBpgbqcChBckaivBqrBuuBbwmCaCfbcanBsBgyBaBjB" ++
    "dacaiBidamBvodvabaBjrbytbClgbabdbobjhBuBmhcbcvbgbbbedasameBejbacabBlbazabaBsCasducBeBvubba" ++
    "HcBuBpdBkBvuaChBqnaMpBrEmClBfhcachbbbxpabaDqhcBmqabaBcakBnhavalBttasCuHrBgBfibBkraBxBdEigb" ++
    "bbBlvazfbbbBfoaMpspabmbBhEuaDbBJlDyEgrHnDXkDspBPfrfzFXqfWkKDdBdCPuVwhBerDarBdsBvqdBfufsQqB" ++
    "sIdClEyCwfaComCmbbaBCVkEcfmdihjIWkDgbCsbbcacbcdblbabgbCmbdchbgbBbbdbebadgbNbcybybBebybBeby" ++
    "bBebybBebybhCSyBegfKbCjFqBskgqaMjBdsBrSqBbIuBdcaTbgbdbbbobHoChCphaBUidbBabbbacabjbdbabagae" ++
    "abababcbbbacabababababbbacdbgbdbdbabjbqfcbebqYezgzgz"⟩,
   ⟨["cr"], "na"⟩, ⟨["dq", "doublequote"], "Bia"⟩,
   ⟨["extend"],
    "BDoEhKpgKdBsbabbbbbaCukBwuqaDxgcfcbbdBjaBeBaDnkCgijaydbibcbeBrcChiBqxbBgCccbrbgkbBdcCeabgc" ++
    "bccjakbBaaccCeabeebccdaBebdalcCeabhbcbcubwfbcCeabgcbcchckbBeaChedcbdjaBoeCdabgbcbdhblbBdcC" ++
    "eabgbcbdhblbpamdCdbbgbcbdjakbBdcCsaefbabhsbCjacgmhDuacilgCvbBbababaebBxtbbfkbBjjaDwtxdecbc" ++
    "cgddnlbakdBBbcBKkdBccBdbBebCmBfjaBtcbaEnbBiaEolelIleCfjbBccaBwBeBxeBvqBmimcBemCenBwtFwcbue" ++
    "agaccHqClUeaHnBgEOccFlaDsBfVifEbbBSQedbjBgbDcbKmadaeaxeeaDfbByrBarnaBmhzmBsdBvnBkaCpnmaibB" ++
    "tcByabccbfbbaBpefbJchbbBDZsaBCjpqpOcbXhaIsaFteCMgcbbfdBoceaGjbWbdCneMfbDbdCskBxdEscCboBpac" ++
    "bkdBtkhaCjcBknqbBsamcBwnidbbDolgacaGblvdCdbbgcbccjakbcgdeCpibacabdbebaobDerxaDdtJbgciBbbDe" ++
    "qEcmDxoJwoJlfbbcdbabbFlgcgdaBcjBogbdiajkBupPphbhDevbnEsfdabbbgbaCoebbbeNjdjbbaBwgdexaHXtag" ++
    "oQYyrDSaeChgBOiabCchdDdalbBDAxbGYzBtcwUwedfihcgBedFscCYdCceBxiaoaweboCAigbqcgbbbeDwaGegOla" ++
    "CjdTodJubBCigEfgEBgeBSXYuDrEyJf"⟩,
   ⟨["ex", "extendnumlet"], "DraMBfapbtaDGAobycJfa"⟩,
   ⟨["fo", "format"], "GraCAkfwaHkaBxaOubDcaFTjaDAtbBaeBxebjDGHjaJpcGIzapaNKkpBZQudHWxhBTKZma"⟩,
   ⟨["hl", "hebrewletter"], "CFgBaedDOVyabjbmbebabbbbbj"⟩,
   ⟨["ka", "katakana"], "SGneDxbdDmbdJgpIaBubDjCZHeCdCOUcdbgbbbaLbcByaod"⟩, ⟨["lf"], "ka"⟩,
   ⟨["ml", "midletter"], "CgaEuaBBraSdaFsaJXyaDGBbaCnaHoa"⟩,
   ⟨["mn", "midnum"], "BsaoaBGcaUcaFabDqaPfaJFfaDFZvadaChadaHbaoa"⟩,
   ⟨["mb", "midnumlet"], "BuaMCfbkaDGDpaGyaga"⟩, ⟨["nl", "newline"], "lbEqaLZmb"⟩,
   ⟨["nu", "numeric"],
    "BwjCIojbaFcjHqjPwjEojEojEojEojEojEojEojEojEojDsjEojCsjKsjCsjCTqjBmjLojEyjGkjgjHajDijFejgjC" ++
    "AEojBAcjBmjHqjwjDijPqjBFMcjCCkjDFyjgjBEqjEyjCijFojKsjNejEojOkjDyjgtCyjQgjDyjZmjDijJmjCsjQg" ++
    "jYYgjDMcjDijFejUojBKDyjECqBxDNcjQgjTijJnjBGvjHBaj"⟩,
   ⟨["ri", "regionalindicator"], "HGOkz"⟩, ⟨["sq", "singlequote"], "Bna"⟩,
   ⟨["wsegspace"], "BgaIMhaDPngbcDgaFXwa"⟩, ⟨["zwj"], "MDpa"⟩]

/-- The classes for sentences. -/
def sentences : Table :=
  [⟨["at", "aterm"], "BuaMCraDGDpaHfa"⟩, ⟨["cr"], "na"⟩,
   ⟨["cl", "close"],
    "BiaecBxabaBdabaBtapaFMsdCUnbDPjhzbkbCcbobYjdBdbBPgfhnDbbBfjPnvCldBgbBNmnobcjyashQljchbcCZR" ++
    "qbIhbBcpcbqfGnbBxabaBdababbbbDPOsc"⟩,
   ⟨["ex", "extend"],
    "BDoEhKpgKdBsbabbbbbaCukBwuqaDxgcfcbbdBjaBeBaDnkCgijaydbibcbeBrcChiBqxbBgCccbrbgkbBdcCeabgc" ++
    "bccjakbBaaccCeabeebccdaBebdalcCeabhbcbcubwfbcCeabgcbcchckbBeaChedcbdjaBoeCdabgbcbdhblbBdcC" ++
    "eabgbcbdhblbpamdCdbbgbcbdjakbBdcCsaefbabhsbCjacgmhDuacilgCvbBbababaebBxtbbfkbBjjaDwtxdecbc" ++
    "cgddnlbakdBBbcBKkdBccBdbBebCmBfjaBtcbaEnbBiaEolelIleCfjbBccaBwBeBxeBvqBmimcBemCenBwtFwcbue" ++
    "agaccHqClUebHmBgEOccFlaDsBfVifEbbBSQedbjBgbDcbKmadaeaxeeaDfbByrBarnaBmhzmBsdBvnBkaCpnmaibB" ++
    "tcByabccbfbbaBpefbJchbbBDZsaBCjpqpOcbXhaIsaFteCMgcbbfdBoceaGjbWbdCneMfbDbdCskBxdEscCboBpac" ++
    "bkdBtkhaCjcBknqbBsamcBwnidbbDolgacaGblvdCdbbgcbccjakbcgdeCpibacabdbebaobDerxaDdtJbgciBbbDe" ++
    "qEcmDxoJwoJlfbbcdbabbFlgcgdaBcjBogbdiajkBupPphbhDevbnEsfdabbbgbaCoebbbeNjdjbbaBwgdexaHXtag" ++
    "oQYyrDSaeChgBOiabCchdDdalbBDAxbGYzBtcwUwedfihcgBedFscCYdCceBxiaoaweboCAigbqcgbbbeDwaGegOla" ++
    "CjdTodJubBCigEfgBTCAfDrEyJf"⟩,
   ⟨["fo", "format"], "GraCAkfwaHkaBxaOubDcaFTjaDAqacbBaeBxebjDGHjaJpcGIzapaNKkpBZQudHWxhBTKZma"⟩,
   ⟨["lf"], "ka"⟩,
   ⟨["lo", "lower"],
    "DtzBvakaeaBkxbhbabababababababababababababababababababababababababababbbabababababababbbab" ++
    "abababababababababababababababababababababacababccabacadbeacadccacababacabbbacadabacbccgac" ++
    "acababababababababbbababababababababbcabadabababababababababababababababababababababababab" ++
    "abababababgcacbbaeababababCqbBjhbBeeFkabadacdsaBbBibbdcbabababababababababababebacacbBzBvb" ++
    "ababababababababababababababababajababababababababababababababababababababababababababacab" ++
    "abababababbbababababababababababababababababababababababababababababababababababababababab" ++
    "ababababababababaBwBoEItaBDjfDFuibaEnHjCnababababababababababababababababababababababababa" ++
    "bababababababababababababababababababababababababababababababababababababababababababababa" ++
    "bababababibabababababababababababababababababababababababababababababababababababababababa" ++
    "bababababababababiifkhihifkhihinchihihiebbgadcbbidcbihkcbbEranaqmEfadbdaBbaeaeacbideaBhpea" ++
    "BGlzCTqBvbadbbababaeabbbhdabababababababababababababababababababababababababababababababab" ++
    "abababababababababababababababababbhabaeamBlbafaBTWdababababababababababababababababababab" ++
    "abababatabababababababababababababcFdababababababcbabababababababababababababababababababa" ++
    "bababababababababababjbabacababababaeabacabcbabababababababababafafabababababababaeabacada" ++
    "bababababawcbabcBFpBqbngDbBEAigmeBOzzBVhBnFgBjFzkbobgbbRjaccbBpbiBXlByEvvEGoBfBGJwBfBMMkzB" ++
    "agbrBazBadbabgbkBazBazBazBazBazBazBazBazBaBbBcybfBaybfBaybfBaybfBaybfbaCSyjbtgfKbCjDHsBh"⟩,
   ⟨["nu", "numeric"],
    "BwjCIojbbFbjHqjPwjEojEojEojEojEojEojEojEojEojDsjEojCsjKsjCsjCTqjBmjLojEyjGkjgjHajDijFejgjC" ++
    "AEojBAcjBmjHqjwjDijPqjBFMcjCCkjDFyjgjBEqjEyjCijFojKsjNejEojOkjDyjgtCyjQgjDyjZmjDijJmjCsjQg" ++
    "jYYgjDMcjDijFejUojBKDyjECqBxDNcjQgjTijJnjBGvjHBaj"⟩,
   ⟨["le", "oletter"],
    "RbaedIaaBkgglBaabaFdaSqaEoBaeeBsBqBjbbDubapbhbkccaqabBdBdDklayBgjbeafveajadaxyhkfxbfrBpCgC" ++
    "bdasahjppehcbcvbgbadddaqanbbcobkaifebcvbgbbbbbbBfdbatcqibcbvbgbbbedasapbxalhcbcvbgbbbedaBe" ++
    "bbcparabfdcbddbbabbdbdcdlwaCahbcbwbpdaBaccacbBeaehbcbwbjbedaBfbbbpbribcbBocaqafcicyffrdxbi" ++
    "bacgCgBvbbmgCgbbabebxbabjbbjacebavdBgaClhbBjBbeElBquaqfeddadbhcemmaCnBqcMtbdcgbabdcBobdcBg" ++
    "bdcgbabdcobCebdcCoBlpEjXvcqbzfCwdkhrnsorombcpBzBjaeaCpDkhecBhbafCrkBeBxBdcelBrezCcwjCaDeaD" ++
    "pBurhCcBdnbkBrBaBjBpckBjsBqccBpdbfbbdaBPqdCtccdEKtCdhaqwjgbgbgbgbgbgbgbgDcaSbcziheceeDhgcb" ++
    "DlbdfBqbDprBfBwpTsJTnCmBGUeCpBtcKidpkbCoaqaBgDbBniEaagaDzadgbcbdbwBdBzoBxCkfdabblBbkwzBchB" ++
    "uBcaqebjkebBoxcbhuwdadBxbadbcecabaycckhcmfcfcfjgbgFpBiBdQNrmweBwMNcObcEbCpabjbmbebabbbbbEd" ++
    "BhNysClcCbBolEmebFeEbCdcBedfcfcfccBjlbzbsbbbocnBiEsCrCaKhBcdBwBvBfnBdfBlkBdcBjehbeEsCzDuBn" ++
    "iBzDoBzmLyjvkhzbEvfcabBrbbdacwkwjBeCnsbbkvkzCsCdgbCmapdbcbBcBqBcdBcBjhbBbBbCbkvksnrEgCuHbB" ++
    "jBmfBfaKmBpgbqcChBckaivBqrBuuBbwmCaCfbcanBsBgyBaBjBdacaiBidamBvodvabaBjrbytbClgbabdbobjhBu" ++
    "BmhcbcvbgbbbedasameBejbacabBlbazabaBsCasducBeBvubbaHcBuBpdBkBvuaChBqnaCtBaBlgHdBrIdhcachbb" ++
    "bxpabaDqhcBmqabaBcakBnhavalBttasCuHrBgBfibBkraBxBdEigbbbBlvazfbbbBfoaMpspabmbBhEuaDbBJlDyE" ++
    "grHnDXkDspBPfrfzFXqfWkKDdBdCPuVwhBerDarBdsBvqdBfufsQqBsPnCwfaComCmbbaBcJBziBVpBpjNFrdbgbbb" ++
    "LepaBdccaodiPfDKuEcfmdihjNBcaThBskgqaMjBdsBrSqBbIuBdcaTbgbdbbbobHoFeaBUidbBabbbacabjbdbaba" ++
    "gaeabababcbbbacabababababbbacdbgbdbdbabjbqfcbebqGOaCLFbBgGDtgIncINpoLBkpXxDQwUvCFyHHyfGFf"⟩,
   ⟨["sc", "scontinue"], "BsbmaBYoaGsbSwaGBxafaDBebGAuaDAAwbbaBdbBdbdacakaGmbmaCva"⟩,
   ⟨["st", "sterm"],
    "BhaBdaCAbaFrcGyaBrcJmaCjabadbLhbCPwbBEkaebBDtaHqbGbbBtafaMcbNqdGgbkbcbBdcHfbCnbBKubjcEUxcL" ++
    "uanawbQnaBSHwaKkbItadaOsbDibDraFwbFrcFobJpaBFCwacbClbGnaBdaCnaEDwbBXdeBsdHhbEndExcEzbgaqbD" ++
    "kbbbEeaLmbEnbOjbfoEbbJpcTxabaJrbDjbQebBAqbCwbBCMbbFdaCnblaVhbLkaBDOgaLIma"⟩,
   ⟨["se", "sep"], "FdaLZmb"⟩, ⟨["sp"], "jabbtaExaIHjaDPnkBkaBvaFXwa"⟩,
   ⟨["up", "upper"],
    "CnzDxwbgBhabababababababababababababababababababababababababababacabababababababacabababab" ++
    "abababababababababababababababababababbbabadbbabbbccdbbbcdbbbbababbbacabbbcbabbdahbbbbbbab" ++
    "ababababababacababababababababacbbabcbabababababababababababababababababababababababababab" ++
    "ababahbbbcabdbabababaLdabadaiagabcbabbbqbiBjaccdabababababababababababafacabbcByBwabababab" ++
    "ababababababababababababajabababababababababababababababababababababababababababbbabababab" ++
    "abacababababababababababababababababababababababababababababababababababababababababababab" ++
    "ababababacBlEHdBlbafaBBuDhDGlaOkababababababababababababababababababababababababababababab" ++
    "ababababababababababababababababababababababababababababababababababababababababababababab" ++
    "ajabababababababababababababababababababababababababababababababababababababababababababab" ++
    "ababababajhifkhihiflabababaihyhihihieleldmeleKbaeadccccadegabababdcdkbfaBaptaBFmzCSuBvBwab" ++
    "ccabababdbacaicbababababababababababababababababababababababababababababababababababababab" ++
    "abababababababababababaiabaeaBTYjababababababababababababababababababababababatabababababa" ++
    "babababababababaFfababababababadababababababababababababababababababababababababababababab" ++
    "abakababbbabababaeabacabadababababababababababebebabababababababdbabbdafabababayaBHAhzBUzB" ++
    "nFgBjGakbobgbbCQcByGbvEGoBfBGJwBfBMMqzBazBazBaabbcacbcdbhBazBabbdchbgBbbbdbebadgBbzBazBazB" ++
    "azBazBazBeyBhyBhyBhyBhyBhaGNlBhDBizgzgz"⟩]

end Phrasebook.Unicode.Segmentation
