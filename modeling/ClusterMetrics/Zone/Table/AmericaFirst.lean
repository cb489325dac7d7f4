/-! # Zones of the Americas, first part

Each entry pairs a zone name with its encoded history. -/

namespace ClusterMetrics.Zone.Table

/-- The zones of the **Americas** up to the letter K. -/
def americaFirst : List (String × String) :=
  [("America/Adak",
    "44002 -42398 -39600 -36000 -32400|-3225223727|Bus8n4dC1703qjiD3dg2rgCm5e88gDevongCevvogDevo" ++
    "ngCevvogDfi7bgCevvogDevongCevvogDevongC5ologDo72ngC9ps4gDk5sbgCevvogDfi7bgCedh4gDfi7bgCevvo" ++
    "gDevongCevvogDevongCevvogDevongCevvogDevongCevvogDfi7bgCedh4gDui3jgEevongDevvogEevongDevvog" ++
    "EevongDd8jsgEgn4jgDd8jsgEh9j7gDcm58gEh9j7gDcm58gEh9j7gDd8jsgEgn4jgDd8jsgEgn4jgDd8jsgEh9j7gD" ++
    "cm58gEh9j7gDcm58gEh9j7gDd8jsgEgn4jgDd8jsgEgn4jgDd8jsgEgn4jgDd8jsgEh9j7gDcm58gEh9j7gDcm58gEh" ++
    "9j7gDd8jsgEgn4jgDd8jsgEgn4jgDd8jsgEh9j7gDcm58gEh9j7gDcm58gEh9j7gDaupcgE|HST10HDT,M3.2.0,M11" ++
    ".1.0"),
   ("America/Anchorage",
    "50424 -35976 -36000 -32400 -28800|-3225223727|Bus8grnC1703tboD3dg2rgCm5e88gDevongCevvogDevo" ++
    "ngCevvogDfi7bgCevvogDevongCevvogDevongC5ologDo72ngC9ps4gDk5sbgCevvogDfi7bgCedh4gDfi7bgCevvo" ++
    "gDevongCevvogDevongCevvogDevongCevvogDevongCevvogDfi7bgCedh4gDui3jgEevongDevvogEevongDevvog" ++
    "EevongDd8jsgEgn4jgDd8jsgEh9j7gDcm58gEh9j7gDcm58gEh9j7gDd8jsgEgn4jgDd8jsgEgn4jgDd8jsgEh9j7gD" ++
    "cm58gEh9j7gDcm58gEh9j7gDd8jsgEgn4jgDd8jsgEgn4jgDd8jsgEgn4jgDd8jsgEh9j7gDcm58gEh9j7gDcm58gEh" ++
    "9j7gDd8jsgEgn4jgDd8jsgEgn4jgDd8jsgEh9j7gDcm58gEh9j7gDcm58gEh9j7gDaupcgE|AKST9AKDT,M3.2.0,M1" ++
    "1.1.0"),
   ("America/Anguilla",
    "-15136 -14400|-1825098464|B|AST4"),
   ("America/Antigua",
    "-14832 -18000 -14400|-1825098768|B14gna30C|AST4"),
   ("America/Araguaina",
    "-11568 -10800 -7200|-1767214032|Bgm9ldgCertm0Bf7ssgCeqfvgBflkeggCb6j00Birps0C9utrgBk3f0gCa1" ++
    "i7gBk3f0gC7d67gBa47j4gC6qnjgBrm1ggC4rejgBk63cgC7d67gBk63cgC9s9fgBk63cgC9utrgBgjs44gCauibgBi" ++
    "enggC976fgBkr6cgC8knrgBkoi0gC8knrgBlb0kgC9pl3gB5ancggC9pl3gBjjkogCauibgBj3qggCc0r7gBienggCa" ++
    "uibgBienggCc3fjgBienggCauibgBjjkogCac3ngBlb0kgC8knrgB938t4gC9pl3gB|<-03>3"),
   ("America/Argentina/Buenos_Aires",
    "-14028 -15408 -14400 -10800 -7200|-2372097972|Bnvbpn4C9uhgogD9utrgCg7hcgDbbo7gCk63cgD9s9fgC" ++
    "k63cgD9s9fgCk63cgD9s9fgCk63cgD9utrgCk63cgD9s9fgCk63cgD9s9fgCk63cgD9s9fgCk63cgD9utrgCa1p8gDs" ++
    "o3bgCa1p8gD1luu3gC65rkgD27ghvgChkbogDfvj8rgC65rkgD6atbgCip90gDb93rgCip90gDb93rgCip90gDdtfrg" ++
    "CevvogDfi7bgCevvogDevongCevvogD41e5jgE8297gDdn0hggE7nnngDienggEbh0vgDj164gEauibgDj164gEauib" ++
    "gDj164gEbh0vgDdtrckgE6atbgDhs8sgEc3fjgD|<-03>3"),
   ("America/Argentina/Catamarca",
    "-15788 -15408 -14400 -10800 -7200|-2372096212|Bnvbo04C9uhgogD9utrgCg7hcgDbbo7gCk63cgD9s9fgC" ++
    "k63cgD9s9fgCk63cgD9s9fgCk63cgD9utrgCk63cgD9s9fgCk63cgD9s9fgCk63cgD9s9fgCk63cgD9utrgCa1p8gDs" ++
    "o3bgCa1p8gD1luu3gC65rkgD27ghvgChkbogDfvj8rgC65rkgD6atbgCip90gDb93rgCip90gDb93rgCip90gDdtfrg" ++
    "CevvogDfi7bgCevvogDevongCevvogD41e5jgE8297gDdn0hggE7nnngDienggEbh0vgDj164gEauibgCj19l0Eauer" ++
    "0Dj164gEbh0vgDai56ggC1i6kgD3a3vfgE6atbgD|<-03>3"),
   ("America/Argentina/Cordoba",
    "-15408 -14400 -10800 -7200|-1567453392|B9uhgogC9utrgBg7hcgCbbo7gBk63cgC9s9fgBk63cgC9s9fgBk6" ++
    "3cgC9s9fgBk63cgC9utrgBk63cgC9s9fgBk63cgC9s9fgBk63cgC9s9fgBk63cgC9utrgBa1p8gCso3bgBa1p8gC1lu" ++
    "u3gB65rkgC27ghvgBhkbogCfvj8rgB65rkgC6atbgBip90gCb93rgBip90gCb93rgBip90gCdtfrgBevvogCfi7bgBe" ++
    "vvogCevongBevvogC41e5jgD8297gCdn0hggD7nnngCienggDbh0vgCj164gDauibgBj19l0Dauer0Cj164gDbh0vgC" ++
    "dtrckgD6atbgChs8sgDc3fjgC|<-03>3"),
   ("America/Argentina/Jujuy",
    "-15672 -15408 -14400 -10800 -7200|-2372096328|Bnvbo3oC9uhgogD9utrgCg7hcgDbbo7gCk63cgD9s9fgC" ++
    "k63cgD9s9fgCk63cgD9s9fgCk63cgD9utrgCk63cgD9s9fgCk63cgD9s9fgCk63cgD9s9fgCk63cgD9utrgCa1p8gDs" ++
    "o3bgCa1p8gD1luu3gC65rkgD27ghvgChkbogDfvj8rgC65rkgD6atbgCip90gDb93rgCip90gDb93rgCip90gDdtfrg" ++
    "CevvogDfi7bgCevvogDevongCevvogD41e5jgE8297gDdn0hggE7nnngDienggEbh0vgCjjo90Dbh0vgCgnbkgEc3c3" ++
    "0Dj164gEbh0vgDdtrckgE6atbgD|<-03>3"),
   ("America/Argentina/La_Rioja",
    "-16044 -15408 -14400 -10800 -7200|-2372095956|Bnvbno4C9uhgogD9utrgCg7hcgDbbo7gCk63cgD9s9fgC" ++
    "k63cgD9s9fgCk63cgD9s9fgCk63cgD9utrgCk63cgD9s9fgCk63cgD9s9fgCk63cgD9s9fgCk63cgD9utrgCa1p8gDs" ++
    "o3bgCa1p8gD1luu3gC65rkgD27ghvgChkbogDfvj8rgC65rkgD6atbgCip90gDb93rgCip90gDb93rgCip90gDdtfrg" ++
    "CevvogDfi7bgCevvogDevongCevvogD41e5jgE8297gDdn0hggE7nnngDienggEbh0vgDj164gEap9jgC5gs50Ddlin" ++
    "gEauibgDj164gEbh0vgDai56ggC1i6kgD3a3vfgE6atbgD|<-03>3"),
   ("America/Argentina/Mendoza",
    "-16516 -15408 -14400 -10800 -7200|-2372095484|Bnvbn9cC9uhgogD9utrgCg7hcgDbbo7gCk63cgD9s9fgC" ++
    "k63cgD9s9fgCk63cgD9s9fgCk63cgD9utrgCk63cgD9s9fgCk63cgD9s9fgCk63cgD9s9fgCk63cgD9utrgCa1p8gDs" ++
    "o3bgCa1p8gD1luu3gC65rkgD27ghvgChkbogDfvj8rgC65rkgD6atbgCip90gDb93rgCip90gDb93rgCip90gDdtfrg" ++
    "CevvogDfi7bgCevvogDevongCevvogD41e5jgE8297gDdn0hggE7nnngDienggEbh0vgCihfd0Db93rgCip90gDbbo7" ++
    "gCj164gEbgtf0Dahdf4gCacaogD321ingE6atbgD|<-03>3"),
   ("America/Argentina/Rio_Gallegos",
    "-16612 -15408 -14400 -10800 -7200|-2372095388|Bnvbn6cC9uhgogD9utrgCg7hcgDbbo7gCk63cgD9s9fgC" ++
    "k63cgD9s9fgCk63cgD9s9fgCk63cgD9utrgCk63cgD9s9fgCk63cgD9s9fgCk63cgD9s9fgCk63cgD9utrgCa1p8gDs" ++
    "o3bgCa1p8gD1luu3gC65rkgD27ghvgChkbogDfvj8rgC65rkgD6atbgCip90gDb93rgCip90gDb93rgCip90gDdtfrg" ++
    "CevvogDfi7bgCevvogDevongCevvogD41e5jgE8297gDdn0hggE7nnngDienggEbh0vgDj164gEauibgDj164gEauib" ++
    "gDj164gEbh0vgDai56ggC1i6kgD3a3vfgE6atbgD|<-03>3"),
   ("America/Argentina/Salta",
    "-15700 -15408 -14400 -10800 -7200|-2372096300|Bnvbo2sC9uhgogD9utrgCg7hcgDbbo7gCk63cgD9s9fgC" ++
    "k63cgD9s9fgCk63cgD9s9fgCk63cgD9utrgCk63cgD9s9fgCk63cgD9s9fgCk63cgD9s9fgCk63cgD9utrgCa1p8gDs" ++
    "o3bgCa1p8gD1luu3gC65rkgD27ghvgChkbogDfvj8rgC65rkgD6atbgCip90gDb93rgCip90gDb93rgCip90gDdtfrg" ++
    "CevvogDfi7bgCevvogDevongCevvogD41e5jgE8297gDdn0hggE7nnngDienggEbh0vgDj164gEauibgCj19l0Eauer" ++
    "0Dj164gEbh0vgDdtrckgE6atbgD|<-03>3"),
   ("America/Argentina/San_Juan",
    "-16444 -15408 -14400 -10800 -7200|-2372095556|BnvbnbkC9uhgogD9utrgCg7hcgDbbo7gCk63cgD9s9fgC" ++
    "k63cgD9s9fgCk63cgD9s9fgCk63cgD9utrgCk63cgD9s9fgCk63cgD9s9fgCk63cgD9s9fgCk63cgD9utrgCa1p8gDs" ++
    "o3bgCa1p8gD1luu3gC65rkgD27ghvgChkbogDfvj8rgC65rkgD6atbgCip90gDb93rgCip90gDb93rgCip90gDdtfrg" ++
    "CevvogDfi7bgCevvogDevongCevvogD41e5jgE8297gDdn0hggE7nnngDienggEbh0vgDj164gEap9jgC5gs50Ddlin" ++
    "gEauibgDj164gEbh0vgDai2i4gC4h44gD377mbgE6atbgD|<-03>3"),
   ("America/Argentina/San_Luis",
    "-15924 -15408 -14400 -10800 -7200|-2372096076|BnvbnrsC9uhgogD9utrgCg7hcgDbbo7gCk63cgD9s9fgC" ++
    "k63cgD9s9fgCk63cgD9s9fgCk63cgD9utrgCk63cgD9s9fgCk63cgD9s9fgCk63cgD9s9fgCk63cgD9utrgCa1p8gDs" ++
    "o3bgCa1p8gD1luu3gC65rkgD27ghvgChkbogDfvj8rgC65rkgD6atbgCip90gDb93rgCip90gDb93rgCip90gDdtfrg" ++
    "CevvogDfi7bgCevvogDevongCevvogD41e5jgE8297gDdn0hggE7nnngDienggEcbcngChn3l0Db93rgC7im0gDc770" ++
    "vgC4h44gD377mbgE1psngD3ulggChs8sgDc3fjgChs8sgD|<-03>3"),
   ("America/Argentina/Tucuman",
    "-15652 -15408 -14400 -10800 -7200|-2372096348|Bnvbo4cC9uhgogD9utrgCg7hcgDbbo7gCk63cgD9s9fgC" ++
    "k63cgD9s9fgCk63cgD9s9fgCk63cgD9utrgCk63cgD9s9fgCk63cgD9s9fgCk63cgD9s9fgCk63cgD9utrgCa1p8gDs" ++
    "o3bgCa1p8gD1luu3gC65rkgD27ghvgChkbogDfvj8rgC65rkgD6atbgCip90gDb93rgCip90gDb93rgCip90gDdtfrg" ++
    "CevvogDfi7bgCevvogDevongCevvogD41e5jgE8297gDdn0hggE7nnngDienggEbh0vgDj164gEauibgCj19l0Eauer" ++
    "0Dj164gEbh0vgDai56ggCvo0gD3ame3gE6atbgDhs8sgEc3fjgD|<-03>3"),
   ("America/Argentina/Ushuaia",
    "-16392 -15408 -14400 -10800 -7200|-2372095608|Bnvbnd8C9uhgogD9utrgCg7hcgDbbo7gCk63cgD9s9fgC" ++
    "k63cgD9s9fgCk63cgD9s9fgCk63cgD9utrgCk63cgD9s9fgCk63cgD9s9fgCk63cgD9s9fgCk63cgD9utrgCa1p8gDs" ++
    "o3bgCa1p8gD1luu3gC65rkgD27ghvgChkbogDfvj8rgC65rkgD6atbgCip90gDb93rgCip90gDb93rgCip90gDdtfrg" ++
    "CevvogDfi7bgCevvogDevongCevvogD41e5jgE8297gDdn0hggE7nnngDienggEbh0vgDj164gEauibgDj164gEauib" ++
    "gDj164gEbh0vgDahvtogC1nfcgD3a3vfgE6atbgD|<-03>3"),
   ("America/Aruba",
    "-16824 -16200 -14400|-1826738376|B1hnlf8gC|AST4"),
   ("America/Asuncion",
    "-13840 -14400 -10800|-1206389360|B16h7p5gC1d25jgB1d510gCcglfgBhkbogCce13gBhkbogCce13gBhkbog" ++
    "CevongBf2k4gCf2d3gBf2k4gCevongBf2k4gCevongBf2k4gCevongBf2k4gCf2d3gBf2k4gCevongBf2k4gCevongB" ++
    "f2k4gCevongBf2k4gCf2d3gBf2k4gCevongBgq00gCd8crgBf2k4gCevongBffq0gCc3fjgBhut8gCeiirgBf58ggCc" ++
    "8obgBhpkggCc63vgBhs8sgCcglfgBi1hkgCbh0vgBienggCc3fjgBhs8sgCclu7gBh9q8gCclu7gBh9q8gCclu7gBhs" ++
    "8sgCevongBc3mkgChs1rgBcm58gCh9j7gBg4t0gCc3fjgBhs8sgCc3fjgBhs8sgCc3fjgBienggCbh0vgBienggCbh0" ++
    "vgBienggCeda3gBedh4gCfi7bgBedh4gCfi7bgBevvogCdqrfgBg4t0gCdqrfgBg4t0gCdqrfgBg4t0gCeda3gBfiec" ++
    "gCeda3gBfiecgCeda3gBg4t0gCdqrfgBg4t0gCdqrfgBg4t0gCeda3gBfiecgCeda3gBfiecgCeda3gBfiecgCeda3g" ++
    "Bg4t0gC|<-03>3"),
   ("America/Atikokan",
    "-21988 -21600 -18000|-2366733212|Blsk78sCg4lvgBkjqnfgC|EST5"),
   ("America/Bahia",
    "-9244 -10800 -7200|-1767216356|Bgm9nm4Certm0Bf7ssgCeqfvgBflkeggCb6j00Birps0C9utrgBk3f0gCa1i" ++
    "7gBk3f0gC7d67gBa47j4gC6qnjgBrm1ggC4rejgBk63cgC7d67gBk63cgC9s9fgBk63cgC9utrgBgjs44gCauibgBie" ++
    "nggC976fgBkr6cgC8knrgBkoi0gC8knrgBlb0kgC9pl3gBkoi0gC9pl3gBk63cgC976fgBlb0kgC8297gBlb0kgCac3" ++
    "ngBjjkogCac3ngBjjkogC9pl3gBjjkogCauibgBj3qggCc0r7gBienggCauibgBienggCc3fjgBienggCauibgBjjko" ++
    "gCac3ngBlb0kgC8knrgB84mm0gCauibgB|<-03>3"),
   ("America/Bahia_Banderas",
    "-25260 -25200 -21600 -18000|-1514739600|B53kgo0C37aangBdlpogCclu7gBf2k4gC9epqjgB1inq4lgCgn4" ++
    "jgBd8jsgCgn4jgBd8jsgCgn4jgBd8jsgCh9j7gBcm58gCh9j7gBfiecgCc3fjgBfiecgCgn4jgBd8jsgCgn4jgBd8js" ++
    "gCh9j7gBcm58gCh9j7gBcm58gCh9j7gBcm58gCh9j7gBd8jsgCgn4jgBd8jsgCgn4jgBd8jsgDh9fn0Ccm58gDh9j7g" ++
    "Ccm58gDh9j7gCd8jsgDgn4jgCd8jsgDgn4jgCd8jsgDgn4jgCd8jsgDh9j7gCcm58gDh9j7gCcm58gDh9j7gCd8jsgD" ++
    "gn4jgCd8jsgDgn4jgCd8jsgDh9j7gCcm58gDh9j7gC|CST6"),
   ("America/Barbados",
    "-14309 -14400 -10800 -12600|-1841256091|Bsq68jbCb1dogBk37vgCacaogBhum7gDcjgsgBupn240C976fgB" ++
    "g4t0gCdqrfgBg4t0gCdqrfgBgnbkgCd0fngB|AST4"),
   ("America/Belem",
    "-11636 -10800 -7200|-1767213964|Bgm9lbcCertm0Bf7ssgCeqfvgBflkeggCb6j00Birps0C9utrgBk3f0gCa1" ++
    "i7gBk3f0gC7d67gBa47j4gC6qnjgBrm1ggC4rejgBk63cgC7d67gBk63cgC9s9fgBk63cgC9utrgBgjs44gCauibgBi" ++
    "enggC976fgBkr6cgC8knrgB|<-03>3"),
   ("America/Belize",
    "-21168 -21600 -19800 -18000|-1822500432|B640ohgCac5foBjjj08Cauk3oBj14c8Cauk3oBj14c8Cauk3oBj" ++
    "jj08Cac5foBjjj08Cac5foBjjj08Cauk3oBj14c8Cauk3oBj14c8Cauk3oBj14c8Cauk3oBjjj08Cac5foBjjj08Cac" ++
    "5foBjjj08Cauk3oBj14c8Cauk3oBj14c8Cauk3oBjjj08Cac5foBjjj08Cac5foBjjj08Cac5foBjjj08Cauk3oBj14" ++
    "c8Cauk3oBj14c8Cauk3oBjjj08Cac5foBjjj08Cac5foBjjj08Cauk3oBaunk8D38cjjgB1m728gCauk3oBj14c8Cau" ++
    "k3oBj14c8Cauk3oBjjj08Cac5foBjjj08Cac5foBjjj08Cauk3oBj14c8Cauk3oBj14c8Cauk3oBj14c8Cauk3oBjjj" ++
    "08Cac5foBjjj08Cac5foBjjj08Cauk3oBj14c8Cauk3oBj14c8Cauk3oBjjj08Cac5foBjjj08Cac5foBjjj08Cac5f" ++
    "oBjjj08Cauk3oBj14c8Cauk3oBj14c8Cauk3oBjjj08Cac5foB5f0e88D5dt7gB8af88gD4jhfgB|CST6"),
   ("America/Blanc-Sablon",
    "-13708 -14400 -10800|-2713896692|B107mj2kCg4lvgBlss18gC3dg2rgB|AST4"),
   ("America/Boa_Vista",
    "-14560 -14400 -10800|-1767211040|Bgm9m0gCertm0Bf7ssgCeqfvgBflkeggCb6j00Birps0C9utrgBk3f0gCa" ++
    "1i7gBk3f0gC7d67gBa47j4gC6qnjgBrm1ggC4rejgBk63cgC7d67gBk63cgC9s9fgBk63cgC9utrgBgjs44gCauibgB" ++
    "ienggC976fgBkr6cgC8knrgBaulvggCc3fjgBienggCib3gB|<-04>4"),
   ("America/Bogota",
    "-17776 -18000 -14400|-1739041424|B28qm7f0Cn25fgB|<-05>5"),
   ("America/Boise",
    "-27889 -28800 -25200 -21600|-2717640000|B10a4bf0Ch9j7gBcm58gCh9j7gB3aml4gChk5g3gD3dg2rgCk9e" ++
    "n8gDevongCevvogDevongCevvogDevongCevvogDevongCevvogDfi7bgCevvogDevongCevvogDevongC82g8gDlt8" ++
    "7gC9ps4gDk5sbgCevvogDfi7bgCedh4gDfi7bgCevvogDevongCevvogDevongCevvogDevongCevvogDevongCevvo" ++
    "gDfi7bgCedh4gDfi7bgCevvogDevongCevvogDevongCevvogDevongCd8jsgDgn4jgCd8jsgDh9j7gCcm58gDh9j7g" ++
    "Ccm58gDh9j7gCd8jsgDgn4jgCd8jsgDgn4jgCd8jsgDh9j7gCcm58gDh9j7gCcm58gDh9j7gCd8jsgDgn4jgCd8jsgD" ++
    "gn4jgCd8jsgDgn4jgCd8jsgDh9j7gCcm58gDh9j7gCcm58gDh9j7gCd8jsgDgn4jgCd8jsgDgn4jgCd8jsgDh9j7gCc" ++
    "m58gDh9j7gCcm58gDh9j7gCaupcgD|MST7MDT,M3.2.0,M11.1.0"),
   ("America/Cambridge_Bay",
    "0 -25200 -21600 -18000|-1577923200|BkpcfogC3dg2rgBp000cgCevongBevvogCevongBevvogCevongBevvo" ++
    "gCevongBevvogCfi7bgBedh4gCfi7bgBevvogCevongBevvogCevongBevvogCevongBevvogCevongBevvogCfi7bg" ++
    "Bedh4gCfi7bgBevvogCevongBevvogCevongBevvogCevongBd8jsgCgn4jgBd8jsgCh9j7gBcm58gCh9j7gBcm58gC" ++
    "h9j7gBd8jsgCgn4jgBd8jsgCgn4jgBd8jsgCh9j7gBcm58gCh9j7gBcm58gCh9j7gBd8jsgCgn4jgBd8jsgCgn4jgBd" ++
    "8jsgCgn4jgBd8jsgCtvkvgDhrqqgCtdkdgBd8jsgCgn4jgBd8jsgCgn4jgBd8jsgCh9j7gBcm58gCh9j7gBcm58gCh9" ++
    "j7gBaupcgC|MST7MDT,M3.2.0,M11.1.0"),
   ("America/Campo_Grande",
    "-13108 -14400 -10800|-1767212492|Bgm9ndsCertm0Bf7ssgCeqfvgBflkeggCb6j00Birps0C9utrgBk3f0gCa" ++
    "1i7gBk3f0gC7d67gBa47j4gC6qnjgBrm1ggC4rejgBk63cgC7d67gBk63cgC9s9fgBk63cgC9utrgBgjs44gCauibgB" ++
    "ienggC976fgBkr6cgC8knrgBkoi0gC8knrgBlb0kgC9pl3gBkoi0gC9pl3gBk63cgC976fgBlb0kgC8297gBlb0kgCa" ++
    "c3ngBjjkogCac3ngBjjkogC9pl3gBjjkogCauibgBj3qggCc0r7gBienggCauibgBienggCc3fjgBienggCauibgBjj" ++
    "kogCac3ngBlb0kgC8knrgBk63cgC9pl3gBlg9cgC91tngBjjkogCac3ngBlb0kgC976fgBj164gCac3ngBk63cgC9pl" ++
    "3gBk63cgCac3ngBjjkogCac3ngBjjkogCauibgBjjkogC9pl3gBk63cgC9pl3gBk63cgCac3ngBjjkogCac3ngBjjko" ++
    "gCac3ngBjjkogCac3ngBlb0kgC8knrgB|<-04>4"),
   ("America/Cancun",
    "-20824 -21600 -18000 -14400|-1514743200|B1od82t0CuppmgBceva9gCgn4jgBd8jsgCtvkvgD9pl3gC6tj0g" ++
    "Bd8jsgCh9j7gBcm58gCh9j7gBfiecgCc3fjgBfiecgCgn4jgBd8jsgCgn4jgBd8jsgCh9j7gBcm58gCh9j7gBcm58gC" ++
    "h9j7gBcm58gCh9j7gBd8jsgCgn4jgBd8jsgCgn4jgBd8jsgCh9j7gBcm58gCh9j7gBcm58gCh9j7gBd8jsgCgn4jgBd" ++
    "8jsgCgn4jgB82g8gC|EST5"),
   ("America/Caracas",
    "-16064 -16060 -16200 -14400|-2524505536|Bkpe4fsC1hnlg0cD18c59h8C7sk5o0D|<-04>4"),
   ("America/Cayenne",
    "-12560 -14400 -10800|-1846269040|B1ksu2hgC|<-03>3"),
   ("America/Cayman",
    "-19532 -18430 -18000|-2524502068|Bkoh39iC|EST5"),
   ("America/Chicago",
    "-21036 -21600 -18000|-2717647200|B10a4bf0Ch9j7gBcm58gCh9j7gBj164gCbh0vgBc3mkgChs1rgBevvogCc" ++
    "3fjgBhs8sgCclu7gBh9q8gCclu7gBh9q8gCclu7gBh9q8gCclu7gBh9q8gCclu7gBhs8sgCclu7gBh9q8gCclu7gBh9" ++
    "q8gCclu7gBh9q8gCclu7gBh9q8gCclu7gBhs8sgCc3fjgBhs8sgCclu7gBh9q8gCclu7gBcm58gClapjgBd8jsgCclu" ++
    "7gBh9q8gCclu7gBhs8sgCc3fjgBhs8sgCclu7gBh9q8gCclu7gBb1dogC3dg2rgBh9q8gCclu7gBh9q8gCclu7gBh9q" ++
    "8gCclu7gBh9q8gCclu7gBhs8sgCc3fjgBhs8sgCclu7gBh9q8gCclu7gBh9q8gCclu7gBh9q8gCclu7gBh9q8gCfi7b" ++
    "gBevvogCevongBevvogCevongBevvogCevongBevvogCevongBevvogCfi7bgBevvogCevongBevvogCevongBevvog" ++
    "CevongBevvogCevongBevvogCfi7bgBedh4gCfi7bgBevvogCevongBevvogCevongBevvogCevongBevvogCevongB" ++
    "evvogCfi7bgBevvogCevongBevvogCevongB5ologCo72ngB9ps4gCk5sbgBevvogCfi7bgBedh4gCfi7bgBevvogCe" ++
    "vongBevvogCevongBevvogCevongBevvogCevongBevvogCfi7bgBedh4gCfi7bgBevvogCevongBevvogCevongBev" ++
    "vogCevongBd8jsgCgn4jgBd8jsgCh9j7gBcm58gCh9j7gBcm58gCh9j7gBd8jsgCgn4jgBd8jsgCgn4jgBd8jsgCh9j" ++
    "7gBcm58gCh9j7gBcm58gCh9j7gBd8jsgCgn4jgBd8jsgCgn4jgBd8jsgCgn4jgBd8jsgCh9j7gBcm58gCh9j7gBcm58" ++
    "gCh9j7gBd8jsgCgn4jgBd8jsgCgn4jgBd8jsgCh9j7gBcm58gCh9j7gBcm58gCh9j7gBaupcgC|CST6CDT,M3.2.0,M" ++
    "11.1.0"),
   ("America/Chihuahua",
    "-25460 -25200 -21600 -18000|-1514739600|B53kgo0C37aangBdlpogCclu7gBf2k4gC1s6jrogDgn4jgCd8js" ++
    "gDgn4jgCtvs0gBd8jsgCh9j7gBcm58gCh9j7gBfiecgCc3fjgBfiecgCgn4jgBd8jsgCgn4jgBd8jsgCh9j7gBcm58g" ++
    "Ch9j7gBcm58gCh9j7gBcm58gCh9j7gBd8jsgCgn4jgBd8jsgCgn4jgBd8jsgCh9j7gBcm58gCh9j7gBcm58gCh9j7gB" ++
    "d8jsgCgn4jgBd8jsgCgn4jgBd8jsgCgn4jgBd8jsgCh9j7gBcm58gCh9j7gBcm58gCh9j7gBd8jsgCgn4jgBd8jsgCg" ++
    "n4jgBd8jsgCh9j7gBcm58gC|CST6"),
   ("America/Ciudad_Juarez",
    "-25556 -25200 -21600 -18000|-1514739600|B53kgo0C37aangBdlpogCclu7gBf2k4gC1s6jrogDgn4jgCd8js" ++
    "gDgn4jgCtvs0gBd8jsgCh9j7gBcm58gCh9j7gBfiecgCc3fjgBfiecgCgn4jgBd8jsgCgn4jgBd8jsgCh9j7gBcm58g" ++
    "Ch9j7gBcm58gCh9j7gBcm58gCh9j7gBd8jsgCgn4jgBd8jsgCgn4jgBbh80gCjjdngBacaogCjjdngBacaogCjjdngB" ++
    "acaogCjjdngBacaogCjjdngBacaogCjjdngBaupcgCjjdngBacaogCjjdngBacaogCjjdngBacaogCjjdngBacaogCj" ++
    "jdngBaupcgCjjdngBacaogClifmgB|MST7MDT,M3.2.0,M11.1.0"),
   ("America/Costa_Rica",
    "-20173 -21600 -18000|-1545071027|B1mkscojC8297gBltf8gC8297gBa0140gCddljgBgi2sgC4m5rgB|CST6"),
   ("America/Coyhaique",
    "-17296 -16965 -18000 -14400 -10800|-2524504304|Biqia1lC62p7gbB21vvblDo73nrB7ls1g5DhhhbrCcjg" ++
    "sgDhervgCcjgsgDhervgCcjgsgDhervgCcjgsgDhhgbgCcjgsgD95ajfgC50ucgD4ccrfgC46f40Dk5lag0Ec3fjgDj" ++
    "jkogEac3ngDg4t0gEclu7gDh9q8gEclu7gDhs8sgEc3fjgDgnbkgEd8crgDhs8sgEc3fjgDhs8sgEclu7gDh9q8gEcl" ++
    "u7gDh9q8gEclu7gDhs8sgEc3fjgDhs8sgEc3fjgDhs8sgEclu7gDh9q8gEclu7gDh9q8gEclu7gDh9q8gEclu7gDhs8" ++
    "sgEc3fjgDhs8sgEc3fjgDhs8sgEevongDevvogEclu7gDh9q8gEclu7gDhs8sgEc3fjgDfiecgEeda3gDhs8sgEclu7" ++
    "gDh9q8gEclu7gDh9q8gEclu7gDh9q8gEclu7gDhs8sgEc3fjgDhs8sgEdqrfgDg4t0gEclu7gDg4t0gEfi7bgDfiecg" ++
    "Eclu7gDhs8sgEc3fjgDhs8sgEc3fjgDhs8sgEc3fjgDhs8sgEclu7gDh9q8gEclu7gDh9q8gEclu7gDhs8sgEc3fjgD" ++
    "hs8sgEdqrfgDg4t0gEclu7gDh9q8gEeda3gDfiecgEh9j7gD8kusgEkoavgDacaogEjjdngDaupcgEj0v3gDaupcgE1" ++
    "io3fgD7g1kgEmfmrgD7g1kgEmfmrgD7g1kgEjjdngDcm58gEh9j7gDcm58gEh9j7gDcm58gEh9j7gDd8jsgEgn4jgDc" ++
    "m58gEhs1rgDcm58gE|<-03>3"),
   ("America/Creston",
    "-27964 -25200 -28800|-2713882436|BuphmlkC1i5rsgB|MST7"),
   ("America/Cuiaba",
    "-13460 -14400 -10800|-1767212140|Bgm9n2sCertm0Bf7ssgCeqfvgBflkeggCb6j00Birps0C9utrgBk3f0gCa" ++
    "1i7gBk3f0gC7d67gBa47j4gC6qnjgBrm1ggC4rejgBk63cgC7d67gBk63cgC9s9fgBk63cgC9utrgBgjs44gCauibgB" ++
    "ienggC976fgBkr6cgC8knrgBkoi0gC8knrgBlb0kgC9pl3gBkoi0gC9pl3gBk63cgC976fgBlb0kgC8297gBlb0kgCa" ++
    "c3ngBjjkogCac3ngBjjkogC9pl3gBjjkogCauibgBj3qggCc0r7gBienggCauibgBienggCc3fjgBienggCauibgBjj" ++
    "kogCac3ngBlb0kgC8knrgB1jg1sgC91tngBjjkogCac3ngBlb0kgC976fgBj164gCac3ngBk63cgC9pl3gBk63cgCac" ++
    "3ngBjjkogCac3ngBjjkogCauibgBjjkogC9pl3gBk63cgC9pl3gBk63cgCac3ngBjjkogCac3ngBjjkogCac3ngBjjk" ++
    "ogCac3ngBlb0kgC8knrgB|<-04>4"),
   ("America/Curacao",
    "-16547 -16200 -14400|-1826738653|B1hnlfh5C|AST4"),
   ("America/Danmarkshavn",
    "-4480 -10800 -7200 0|-1686091520|B1rsqcqgCecvi0Bevs80Cevs80Bevs80Cevs80Bevs80Cevs80Bevs80Cf" ++
    "ias0Bevs80Cevs80Bevs80Cevs80Bevs80Cevs80Bevs80Cevs80Bevs80Cevs80Bevs80Cfias0Bevs80Cevs80Bev" ++
    "s80Cevs80Bevs80Cevs80Bevs80Cevs80Bevs80Cevs80B85850D|GMT0"),
   ("America/Dawson",
    "-33460 -32400 -28800 -25200|-2188996940|Bgj4f7sCg4lvgBh9q8gCd5hegBkuclhgC3dg2rgBicsgjgDfias" ++
    "0B7ggik0C63h1cgDevongCevvogDevongCevvogDfi7bgCedh4gDfi7bgCevvogDevongCevvogDevongCevvogDevo" ++
    "ngCd8jsgDgn4jgCd8jsgDh9j7gCcm58gDh9j7gCcm58gDh9j7gCd8jsgDgn4jgCd8jsgDgn4jgCd8jsgDh9j7gCcm58" ++
    "gDh9j7gCcm58gDh9j7gCd8jsgDgn4jgCd8jsgDgn4jgCd8jsgDgn4jgCd8jsgDh9j7gCcm58gDh9j7gCcm58gDh9j7g" ++
    "Cd8jsgDgn4jgCd8jsgDgn4jgCd8jsgDh9j7gCcm58gDh9j7gCcm58gDh9j7gCaupcgDjjdngCacaogDjjdngCacaogD" ++
    "jjdngCaupcgDjjdngCacaogDjjdngCacaogDjjdngCacaogDjjdngCacaogDjjdngCacaogDjjdngCaupcgDjjdngCa" ++
    "caogDjjdngCacaogDjjdngCacaogDjjdngCacaogD|MST7"),
   ("America/Dawson_Creek",
    "-28856 -28800 -25200|-2713881544|B107mib8Cg4lvgBlss18gC3dg2rgB1f9iogCclu7gBh9q8gCclu7gBh9q8" ++
    "gCclu7gBhs8sgCc3fjgBhs8sgCclu7gBh9q8gCclu7gBh9q8gCclu7gBh9q8gCclu7gBh9q8gCclu7gBhs8sgCclu7g" ++
    "Bh9q8gCclu7gBh9q8gCclu7gBh9q8gCclu7gBh9q8gCclu7gBhs8sgCc3fjgBhs8sgCevongBevvogCevongBevvogC" ++
    "evongBevvogCfi7bgBedh4gCfi7bgBevvogCevongBevvogCevongBevvogCevongBevvogCevongBevvogCfi7bgBe" ++
    "vvogC|MST7"),
   ("America/Denver",
    "-25196 -25200 -21600|-2717643600|B10a4bf0Ch9j7gBcm58gCh9j7gBcm58gChs1rgBc3mkgC4jhfgBjfipggC" ++
    "3dg2rgBicsnkgCfi7bgBedh4gCfi7bgBevvogCevongBevvogCevongBevvogCevongBevvogCevongBevvogCfi7bg" ++
    "BevvogCevongBevvogCevongB5ologCo72ngB9ps4gCk5sbgBevvogCfi7bgBedh4gCfi7bgBevvogCevongBevvogC" ++
    "evongBevvogCevongBevvogCevongBevvogCfi7bgBedh4gCfi7bgBevvogCevongBevvogCevongBevvogCevongBd" ++
    "8jsgCgn4jgBd8jsgCh9j7gBcm58gCh9j7gBcm58gCh9j7gBd8jsgCgn4jgBd8jsgCgn4jgBd8jsgCh9j7gBcm58gCh9" ++
    "j7gBcm58gCh9j7gBd8jsgCgn4jgBd8jsgCgn4jgBd8jsgCgn4jgBd8jsgCh9j7gBcm58gCh9j7gBcm58gCh9j7gBd8j" ++
    "sgCgn4jgBd8jsgCgn4jgBd8jsgCh9j7gBcm58gCh9j7gBcm58gCh9j7gBaupcgC|MST7MDT,M3.2.0,M11.1.0"),
   ("America/Detroit",
    "-19931 -21600 -18000 -14400|-2051202469|B9nusd5Cp4on3gD3dg2rgC2d9b8gDclu7gChj5rlcDb9aqkCevv" ++
    "ogDevongC47hgcgDevongC5ologDo72ngCevvogDevongCevvogDfi7bgCedh4gDfi7bgCevvogDevongCevvogDevo" ++
    "ngCevvogDevongCevvogDevongCevvogDfi7bgCedh4gDfi7bgCevvogDevongCevvogDevongCevvogDevongCd8js" ++
    "gDgn4jgCd8jsgDh9j7gCcm58gDh9j7gCcm58gDh9j7gCd8jsgDgn4jgCd8jsgDgn4jgCd8jsgDh9j7gCcm58gDh9j7g" ++
    "Ccm58gDh9j7gCd8jsgDgn4jgCd8jsgDgn4jgCd8jsgDgn4jgCd8jsgDh9j7gCcm58gDh9j7gCcm58gDh9j7gCd8jsgD" ++
    "gn4jgCd8jsgDgn4jgCd8jsgDh9j7gCcm58gDh9j7gCcm58gDh9j7gCaupcgD|EST5EDT,M3.2.0,M11.1.0"),
   ("America/Dominica",
    "-14736 -14400|-1846266804|B|AST4"),
   ("America/Edmonton",
    "-27232 -25200 -21600|-1998663968|Batjo5gCg4lvgBdr2ggC3jsvgBrgoogCfi7bgBedh4gCclu7gBhs8sgCc3" ++
    "fjgBhs8sgCclu7gBh8kikgC3dg2rgB1f9iogCclu7gBn40fcgCevongBevvogCevongBevvogCevongBevvogCevong" ++
    "BevvogCfi7bgBedh4gCfi7bgBevvogCevongBevvogCevongBevvogCevongBevvogCevongBevvogCfi7bgBedh4gC" ++
    "fi7bgBevvogCevongBevvogCevongBevvogCevongBd8jsgCgn4jgBd8jsgCh9j7gBcm58gCh9j7gBcm58gCh9j7gBd" ++
    "8jsgCgn4jgBd8jsgCgn4jgBd8jsgCh9j7gBcm58gCh9j7gBcm58gCh9j7gBd8jsgCgn4jgBd8jsgCgn4jgBd8jsgCgn" ++
    "4jgBd8jsgCh9j7gBcm58gCh9j7gBcm58gCh9j7gBd8jsgCgn4jgBd8jsgCgn4jgBd8jsgCh9j7gBcm58gCh9j7gBcm5" ++
    "8gCh9j7gBaupcgC|MST7MDT,M3.2.0,M11.1.0"),
   ("America/Eirunepe",
    "-16768 -18000 -14400|-1767208832|Bgm9nc0Certm0Bf7ssgCeqfvgBflkeggCb6j00Birps0C9utrgBk3f0gCa" ++
    "1i7gBk3f0gC7d67gBa47j4gC6qnjgBrm1ggC4rejgBk63cgC7d67gBk63cgC9s9fgBk63cgC9utrgBgjs44gCauibgB" ++
    "ienggC976fgBkr6cgC8knrgB5b9r4gCac3ngBdfj7ogC51t1bgB|<-05>5"),
   ("America/El_Salvador",
    "-21408 -21600 -18000|-1546279392|B1ucadm0Cc3fjgBhs8sgCc3fjgB|CST6"),
   ("America/Fort_Nelson",
    "-29447 -28800 -25200|-2713880953|B107mhopCg4lvgBlss18gC3dg2rgB1f9iogCclu7gBh9q8gCclu7gBh9q8" ++
    "gCclu7gBhs8sgCc3fjgBhs8sgCclu7gBh9q8gCclu7gBh9q8gCclu7gBh9q8gCclu7gBh9q8gCclu7gBhs8sgCclu7g" ++
    "Bh9q8gCclu7gBh9q8gCclu7gBh9q8gCclu7gBh9q8gCclu7gBhs8sgCc3fjgBhs8sgCevongBevvogCevongBevvogC" ++
    "evongBevvogCfi7bgBedh4gCfi7bgBevvogCevongBevvogCevongBevvogCevongBevvogCevongBevvogCfi7bgBe" ++
    "vvogCevongBevvogCevongBevvogCevongBevvogCevongBevvogCfi7bgBedh4gCfi7bgBevvogCevongBevvogCev" ++
    "ongBevvogCevongBevvogCevongBevvogCfi7bgBedh4gCfi7bgBevvogCevongBevvogCevongBevvogCevongBd8j" ++
    "sgCgn4jgBd8jsgCh9j7gBcm58gCh9j7gBcm58gCh9j7gBd8jsgCgn4jgBd8jsgCgn4jgBd8jsgCh9j7gBcm58gCh9j7" ++
    "gBcm58gCh9j7gBd8jsgCgn4jgBd8jsgCgn4jgBd8jsgCgn4jgBd8jsgCh9j7gBcm58gCh9j7gBcm58gCh9j7gBd8jsg" ++
    "Cgn4jgBd8jsgCgn4jgBd8jsgCh9j7gBcm58gCh9j7gBcm58gCh9j7gBaupcgCjjdngBacaogCjjdngBacaogCjjdngB" ++
    "aupcgCjjdngBacaogCjjdngBacaogCjjdngBacaogCjjdngBacaogCjjdngBacaogC|MST7"),
   ("America/Fortaleza",
    "-9240 -10800 -7200|-1767216360|Bgm9nm8Certm0Bf7ssgCeqfvgBflkeggCb6j00Birps0C9utrgBk3f0gCa1i" ++
    "7gBk3f0gC7d67gBa47j4gC6qnjgBrm1ggC4rejgBk63cgC7d67gBk63cgC9s9fgBk63cgC9utrgBgjs44gCauibgBie" ++
    "nggC976fgBkr6cgC8knrgBkoi0gC8knrgBlb0kgC9pl3gB923vsgCc3fjgBienggC14pngBtddcgCac3ngB|<-03>3"),
   ("America/Glace_Bay",
    "-14388 -14400 -10800|-2131646412|Besdn9cCg4lvgBlss18gC3dg2rgB73qkcgCclu7gBhffdogCevongBevvo" ++
    "gCevongBevvogCevongBevvogCevongBevvogCfi7bgBedh4gCfi7bgBevvogCevongBevvogCevongBevvogCevong" ++
    "BevvogCevongBevvogCfi7bgBedh4gCfi7bgBevvogCevongBevvogCevongBevvogCevongBd8jsgCgn4jgBd8jsgC" ++
    "h9j7gBcm58gCh9j7gBcm58gCh9j7gBd8jsgCgn4jgBd8jsgCgn4jgBd8jsgCh9j7gBcm58gCh9j7gBcm58gCh9j7gBd" ++
    "8jsgCgn4jgBd8jsgCgn4jgBd8jsgCgn4jgBd8jsgCh9j7gBcm58gCh9j7gBcm58gCh9j7gBd8jsgCgn4jgBd8jsgCgn" ++
    "4jgBd8jsgCh9j7gBcm58gCh9j7gBcm58gCh9j7gBaupcgC|AST4ADT,M3.2.0,M11.1.0"),
   ("America/Goose_Bay",
    "-14500 -12652 -9052 -12600 -9000 -14400 -10800 -7200|-2713895900|B107mgj8Cg4lvgBfe6tngD11jo" ++
    "ucEc3fjgDhs8sgEc3fjgDhs8sgEc3fjgDienggEbh0vgDienggEc3fjgDhs8sgEc3fjgDhs8sgE360bogDienggEc3f" ++
    "jgDhs8sgEc3fjgDhs8sgEc3fjgDhs8sgEc3fjgDienggEc3fjgDgnbkgEclu7gDh9q8gEclu7gDh9q8gEclu7gDh9q8" ++
    "gEclu7gDh9q8gEclu7gDhs8sgEclu7gDh9q8gEclu7gDh9q8gEclu7gDh9q8gEclu7gDh9q8gEfi7bgDevvogEevong" ++
    "DevvogEevongDevvogEevongDevvogEevongDevvogEfi7bgDb424gF39go8Gfi7bgFevvogGevongFevvogGevongF" ++
    "evvogGevongFevvogGevongFevvogGfi7bgFevvogGevongFevvogGevongFevvogGevongFevvogGevongFevvogGf" ++
    "i7bgFedh4gGfi7bgFevvogGevongFevvogGevongFevvogGevongFevvogGevongFevvogGfi7bgFedh4gGfi7bgFev" ++
    "vogGevongFevvogGevongFevvogGevongFd8ctcGgn4jgFd8jsgHh9fn0Fcm8p0Gh9j7gFcm58gGh9j7gFd8jsgGgn4" ++
    "jgFd8jsgGgn4jgFd8jsgGh9j7gFcm58gGh9j7gFcm58gGh9j7gFd8jsgGgn4jgFd8jsgGgn4jgFd8jsgGgn4jgFd8js" ++
    "gGh9j7gFcm58gGh9j7gFcm58gGh9j7gFd8jsgGgn4jgFd8jsgGgn4jgFd8jsgGh9j7gFcm58gGh9j7gFcm58gGh9j7g" ++
    "FaupcgGjjdngFacaogGjjdngFacaogGjjdngFaupcgGjjdngFacaogGjjkmkF|AST4ADT,M3.2.0,M11.1.0"),
   ("America/Grand_Turk",
    "-17072 -18430 -18000 -14400|-2524504528|Bkoh5meC1v7jc7iDevongCevvogDevongCevvogDevongCevvog" ++
    "Dfi7bgCedh4gDfi7bgCevvogDevongCevvogDevongCevvogDevongCd8jsgDgn4jgCd8jsgDh9j7gCcm58gDh9j7gC" ++
    "cm58gDh9j7gCd8jsgDgn4jgCd8jsgDgn4jgCd8jsgDh9j7gCcm58gDh9j7gCcm58gDh9j7gCd8jsgDgn4jgCd8jsgDg" ++
    "n4jgCd8jsgDgn4jgCd8jsgDh9j7gCcm58gDh9j7gCcm58gDh9j7gCd8jsgDgn4jgCd8jsgDgn4jgCd8jsgDh9j7gCcm" ++
    "58gDh9j7gCcm58gDh9j7gCaupcgDjjdngCacaogDjjdngCacaogDjjdngCaupcgDjjdngCacaogDjjdngCacaogDjjd" ++
    "ngCacaogDjjdngCacaogDjjdngCacaogD3e55rgC|EST5EDT,M3.2.0,M11.1.0"),
   ("America/Grenada",
    "-14820 -14400|-1846266780|B|AST4"),
   ("America/Guadeloupe",
    "-14768 -14400|-1848254032|B|AST4"),
   ("America/Guatemala",
    "-21724 -21600 -18000|-1617040676|B1jrfgc4C7fqjgB8ltocgCa6qvgB71m2kgCdqrfgBdontcgCclu7gB|CST" ++
    "6"),
   ("America/Guayaquil",
    "-19160 -18840 -18000 -14400|-2524502440|B16hq6u0C1q75eloD5lqbgC|<-05>5"),
   ("America/Guyana",
    "-13959 -14400 -13500 -10800|-1843589241|B3boqtpC1oqb2jsDflceo4B|<-04>4"),
   ("America/Halifax",
    "-15264 -14400 -10800|-2131645536|Bcv6cp0Cf2d3gB1e4shgCg4lvgB1e4efgC976fgBkj98gCa1i7gBjh0cgC" ++
    "ahcfgBk0qkgC9utrgBk0qkgCb16ngBiuhogCc63vgBiuhogC9s9fgBiuhogCc63vgBiuhogC9pl3gBk63cgC9cf7gBk" ++
    "j98gCaeo3gBjh0cgCbjlbgBhpkggCc63vgBhpkggCcoijgBiuhogC9pl3gBlb0kgC9s9fgBk63cgC8knrgBiuhogCc6" ++
    "3vgBhpkggCc63vgBk3f0gC9s9fgBic34gCc63vgBhpkggCc63vgBav0dgC3dg2rgBh9q8gCclu7gBh9q8gCclu7gBh9" ++
    "q8gCclu7gBh9q8gCclu7gB1fs1cgCclu7gBh9q8gCclu7gBh9q8gCclu7gBh9q8gCclu7gB1fs1cgCclu7gBh9q8gCc" ++
    "lu7gBh9q8gCclu7gBh9q8gCclu7gB2drpsgCevongBevvogCevongBevvogCevongBevvogCfi7bgBedh4gCfi7bgBe" ++
    "vvogCevongBevvogCevongBevvogCevongBevvogCevongBevvogCfi7bgBevvogCevongBevvogCevongBevvogCev" ++
    "ongBevvogCevongBevvogCfi7bgBedh4gCfi7bgBevvogCevongBevvogCevongBevvogCevongBevvogCevongBevv" ++
    "ogCfi7bgBedh4gCfi7bgBevvogCevongBevvogCevongBevvogCevongBd8jsgCgn4jgBd8jsgCh9j7gBcm58gCh9j7" ++
    "gBcm58gCh9j7gBd8jsgCgn4jgBd8jsgCgn4jgBd8jsgCh9j7gBcm58gCh9j7gBcm58gCh9j7gBd8jsgCgn4jgBd8jsg" ++
    "Cgn4jgBd8jsgCgn4jgBd8jsgCh9j7gBcm58gCh9j7gBcm58gCh9j7gBd8jsgCgn4jgBd8jsgCgn4jgBd8jsgCh9j7gB" ++
    "cm58gCh9j7gBcm58gCh9j7gBaupcgC|AST4ADT,M3.2.0,M11.1.0"),
   ("America/Havana",
    "-19768 -19776 -18000 -14400|-2524501832|B11dn6e8C2n1kegDa1i7gCaue2cgD7fqjgCmftsgD8297gCmfts" ++
    "gD7fqjgC2ifesgD7fqjgCmftsgD7fqjgChk8bggD9utrgCjrhsgDac3ngCffq0gDcoijgChs8sgDc3fjgCj164gDevo" ++
    "ngCevvogDevongCevvogDfi7bgCevvogDd8crgCgnbkgDdb17gCgkn8gDddljgCgi2sgDevongCevvogDfi7bgCedh4" ++
    "gDfi7bgCfiecgDclu7gCd8jsgDh9j7gCcm58gDh9j7gCh9q8gDclu7gCh9q8gDclu7gCh9q8gDclu7gCh9q8gDd8crg" ++
    "CgnbkgDd8crgCcm58gDh9j7gCcm58gDh9j7gCd8jsgDgn4jgCd8jsgDgn4jgCedh4gDg4lvgCedh4gDfias0Ceddk0D" ++
    "fias0Ceddk0Dfias0Ceddk0Dfias0Ceddk0Dfias0Cevs80Devs80Cevs80Dfias0Cdqv00Dh9mo0Ccm1o0Dhs5c0Cc" ++
    "m1o0Dh9mo0Ccm1o0Dh9mo0Cd8gc0Dgn840Cd8gc0Dgn840Ccm1o0D2drmc0Cauls0Dj12k0Cbh4g0Diek00Cauls0Dj" ++
    "12k0Cbh4g0Dj12k0Cbh4g0Djjh80Cbh4g0D|CST5CDT,M3.2.0/0,M11.1.0/1"),
   ("America/Hermosillo",
    "-26632 -25200 -21600|-1514739600|B53kgo0C37aangBdlpogCclu7gBf2k4gC9epqjgB1inq4lgCgn4jgBd8js" ++
    "gCgn4jgBd8jsgCgn4jgB|MST7"),
   ("America/Indiana/Indianapolis",
    "-20678 -21600 -18000 -14400|-2717647200|B10a4bf0Ch9j7gBcm58gCh9j7gBkbohogC8297gBb1dogC3dg2r" ++
    "gBh9q8gCclu7gBh9q8gCclu7gBh9q8gCclu7gBh9q8gCclu7gBhs8sgCc3fjgBhs8sgCclu7gBh9q8gCclu7gBh9q8g" ++
    "Cclu7gBh9q8gCclu7gBh9q8gC297trgBh9q8gCab277gDevongCevvogDevongC11af54gDh9j7gCaupcgD|EST5EDT" ++
    ",M3.2.0,M11.1.0"),
   ("America/Indiana/Knox",
    "-20790 -21600 -18000|-2717647200|B10a4bf0Ch9j7gBcm58gCh9j7gBkus8ogC3dg2rgB1f9iogCclu7gBh9q8" ++
    "gCclu7gBh9q8gCclu7gBhs8sgCc3fjgBhs8sgCclu7gBh9q8gCclu7gBh9q8gCclu7gBh9q8gCclu7gBh9q8gCfi7bg" ++
    "BevvogCevongBevvogCclu7gBh9q8gCclu7gBh9q8gCevongBevvogCfi7bgBevvogCevongBevvogC1cvh7gB39hns" ++
    "gCevongBevvogCevongBevvogCevongBevvogCevongBevvogCfi7bgBevvogCevongBevvogCevongB5ologCo72ng" ++
    "B9ps4gCk5sbgBevvogCfi7bgBedh4gCfi7bgBevvogCevongBevvogCevongBevvogCevongBevvogCevongBevvogC" ++
    "fi7bgBedh4gCfi7bgBevvogCevongBevvogCevongBevvogCevongBd8jsgCgn4jgBd8jsgCh9j7gBcm58gCh9j7gBc" ++
    "m58gCh9j7gBd8jsgCekavvgBaupcgC|CST6CDT,M3.2.0,M11.1.0"),
   ("America/Indiana/Marengo",
    "-20723 -21600 -18000 -14400|-2717647200|B10a4bf0Ch9j7gBcm58gCh9j7gBkus8ogC3dg2rgB57r3cgCclu" ++
    "7gB2d9b8gCclu7gBh9q8gCclu7gBhs8sgCclu7gBh9q8gCclu7gBh9q8gCclu7gBh9q8gCclu7gBh9q8gCclu7gBhs8" ++
    "sgC7ggf3gDevongCevvogDevongCevvogDfi7bgCevvogDevongCevvogDevongC17pkkgDk5sbgCsjts0gDh9j7gCa" ++
    "upcgD|EST5EDT,M3.2.0,M11.1.0"),
   ("America/Indiana/Petersburg",
    "-20947 -21600 -18000 -14400|-2717647200|B10a4bf0Ch9j7gBcm58gCh9j7gBkus8ogC3dg2rgB90ccvgCc3m" ++
    "kgBhs8sgCclu7gBh9q8gCclu7gBh9q8gCclu7gBh9q8gCclu7gBh9q8gCclu7gBhs8sgCevongBevvogCevongBevvo" ++
    "gCevongBevvogCevongBevvogC1dhvrgBevvogCevongBevvogCevongBevvogCevongBevvogCevongBevvogCfi7b" ++
    "gBevvogCevongBevvogCevongB5ologCo72ngB9ps4gCk5sbgBevvogCfi7bgBedh4gCro7mvgBaupcgCtvkvgD|EST" ++
    "5EDT,M3.2.0,M11.1.0"),
   ("America/Indiana/Tell_City",
    "-20823 -21600 -18000 -14400|-2717647200|B10a4bf0Ch9j7gBcm58gCh9j7gBkus8ogC3dg2rgB90ccvgCc3m" ++
    "kgBhs8sgCclu7gBh9q8gCclu7gBh9q8gCclu7gBh9q8gCclu7gBh9q8gCclu7gBhs8sgCevongBevvogCevongBevvo" ++
    "gCevongBevvogC39hgrgBevvogCevongBevvogDevl70CevvogDevongC11rorsgBaupcgC|CST6CDT,M3.2.0,M11." ++
    "1.0"),
   ("America/Indiana/Vevay",
    "-20416 -21600 -18000 -14400|-2717647200|B10a4bf0Ch9j7gBcm58gCh9j7gBkus8ogC3dg2rgB81qcsgCe3j" ++
    "nrgDevongCevvogDevongCevvogDfi7bgCevvogDevongCvdt5ggDh9j7gCaupcgD|EST5EDT,M3.2.0,M11.1.0"),
   ("America/Indiana/Vincennes",
    "-21007 -21600 -18000 -14400|-2717647200|B10a4bf0Ch9j7gBcm58gCh9j7gBkus8ogC3dg2rgBh9q8gCclu7" ++
    "gB65qrsgCclu7gBh9q8gCclu7gBhs1rgCc3mkgBhs8sgCclu7gBh9q8gCclu7gBh9q8gCclu7gBh9q8gCclu7gBh9q8" ++
    "gCfi7bgBevvogCc3fjgBhs8sgCevongBevvogCevongBevvogC4mh5jgDevongCevvogDevongC11rorsgBaupcgCtv" ++
    "kvgD|EST5EDT,M3.2.0,M11.1.0"),
   ("America/Indiana/Winamac",
    "-20785 -21600 -18000 -14400|-2717647200|B10a4bf0Ch9j7gBcm58gCh9j7gBkus8ogC3dg2rgBh9q8gCclu7" ++
    "gBh9q8gCclu7gBh9q8gCclu7gBh9q8gCclu7gBhs8sgCc3fjgBhs8sgCclu7gBh9q8gCclu7gBh9q8gCclu7gBh9q8g" ++
    "Cclu7gBh9q8gCfi7bgBevvogCevongBevvogCclu7gBh9q8gCclu7gBh9q8gCclu7gBh9q8gCclu7gBhs8sgC7ggf3g" ++
    "DevongCevvogDevongC11rorsgBaupcgD|EST5EDT,M3.2.0,M11.1.0"),
   ("America/Inuvik",
    "0 -28800 -25200 -21600|-536457600|Bi5lm90CevongBevvogCevongBevvogCevongBevvogCevongBevvogCf" ++
    "i7bgBedh4gCfi7bgBevvogCevongBevvogDevl70CevvogDevongCevvogDevongCevvogDfi7bgCedh4gDfi7bgCev" ++
    "vogDevongCevvogDevongCevvogDevongCd8jsgDgn4jgCd8jsgDh9j7gCcm58gDh9j7gCcm58gDh9j7gCd8jsgDgn4" ++
    "jgCd8jsgDgn4jgCd8jsgDh9j7gCcm58gDh9j7gCcm58gDh9j7gCd8jsgDgn4jgCd8jsgDgn4jgCd8jsgDgn4jgCd8js" ++
    "gDh9j7gCcm58gDh9j7gCcm58gDh9j7gCd8jsgDgn4jgCd8jsgDgn4jgCd8jsgDh9j7gCcm58gDh9j7gCcm58gDh9j7g" ++
    "CaupcgD|MST7MDT,M3.2.0,M11.1.0"),
   ("America/Iqaluit",
    "0 -14400 -18000 -21600|-865296000|B2v8mj0Cp000cgBevongCevvogBevongCevvogBevongCevvogBevongC" ++
    "evvogBfi7bgCedh4gBfi7bgCevvogBevongCevvogBevongCevvogBevongCevvogBevongCevvogBfi7bgCedh4gBf" ++
    "i7bgCevvogBevongCevvogBevongCevvogBevongCd8jsgBgn4jgCd8jsgBh9j7gCcm58gBh9j7gCcm58gBh9j7gCd8" ++
    "jsgBgn4jgCd8jsgBgn4jgCd8jsgBh9j7gCcm58gBh9j7gCcm58gBh9j7gCd8jsgBgn4jgCd8jsgBgn4jgCd8jsgBgn4" ++
    "jgCd8jsgBh9j7gDcm8p0CtvkvgBh9j7gCd8jsgBgn4jgCd8jsgBgn4jgCd8jsgBh9j7gCcm58gBh9j7gCcm58gBh9j7" ++
    "gCaupcgB|EST5EDT,M3.2.0,M11.1.0"),
   ("America/Jamaica",
    "-18430 -18000 -14400|-1827687170|B1q7qp3iCo72ngB9ps4gCk5sbgBevvogCfi7bgBedh4gCfi7bgBevvogCe" ++
    "vongBevvogCevongBevvogCevongBevvogCevongBevvogCfi7bgBedh4gCfi7bgB|EST5"),
   ("America/Juneau",
    "54139 -32261 -28800 -25200 -32400|-3225223727|Bus8d7kC1703purD3dg2rgCm5e88gDevongCevvogDevo" ++
    "ngCevvogDfi7bgCevvogDevongCevvogDevongC5ologDo72ngC9ps4gDk5sbgCevvogDfi7bgCedh4gDfi7bgCevvo" ++
    "gDevongCevvogDevongC1cvo8gDevongCevvogDfi7bgCedh4gDfi7bgEf0390CevongEevvogCevongEevvogCevon" ++
    "gEd8jsgCgn4jgEd8jsgCh9j7gEcm58gCh9j7gEcm58gCh9j7gEd8jsgCgn4jgEd8jsgCgn4jgEd8jsgCh9j7gEcm58g" ++
    "Ch9j7gEcm58gCh9j7gEd8jsgCgn4jgEd8jsgCgn4jgEd8jsgCgn4jgEd8jsgCh9j7gEcm58gCh9j7gEcm58gCh9j7gE" ++
    "d8jsgCgn4jgEd8jsgCgn4jgEd8jsgCh9j7gEcm58gCh9j7gEcm58gCh9j7gEaupcgC|AKST9AKDT,M3.2.0,M11.1.0"),
   ("America/Kentucky/Louisville",
    "-20582 -21600 -18000 -14400|-2717647200|B10a4bf0Ch9j7gBcm58gCh9j7gB1di6sgCa46jgBifef8gCclu7" ++
    "gBb1dogC3dg2rgBh9j9cC2scikB3llb0gCc3fjgBhs8sgCclu7gBh9q8gCclu7gBh9q8gCclu7gBh9q8gCclu7gBh9q" ++
    "8gCclu7gBhs8sgCevongBevvogCevongBevvogCevongBevvogCevongBevvogCfi7bgBevvogC6igmjgDevongCevv" ++
    "ogDevongCevvogDevongCevvogDfi7bgCevvogDevongCevvogDevongC17pkkgDk5sbgCevvogDfi7bgCedh4gDfi7" ++
    "bgCevvogDevongCevvogDevongCevvogDevongCevvogDevongCevvogDfi7bgCedh4gDfi7bgCevvogDevongCevvo" ++
    "gDevongCevvogDevongCd8jsgDgn4jgCd8jsgDh9j7gCcm58gDh9j7gCcm58gDh9j7gCd8jsgDgn4jgCd8jsgDgn4jg" ++
    "Cd8jsgDh9j7gCcm58gDh9j7gCcm58gDh9j7gCd8jsgDgn4jgCd8jsgDgn4jgCd8jsgDgn4jgCd8jsgDh9j7gCcm58gD" ++
    "h9j7gCcm58gDh9j7gCd8jsgDgn4jgCd8jsgDgn4jgCd8jsgDh9j7gCcm58gDh9j7gCcm58gDh9j7gCaupcgD|EST5ED" ++
    "T,M3.2.0,M11.1.0"),
   ("America/Kentucky/Monticello",
    "-20364 -21600 -18000 -14400|-2717647200|B10a4bf0Ch9j7gBcm58gCh9j7gBkus8ogC3dg2rgBl7efogCevo" ++
    "ngBevvogCevongBevvogCevongBevvogCfi7bgBevvogCevongBevvogCevongB5ologCo72ngB9ps4gCk5sbgBevvo" ++
    "gCfi7bgBedh4gCfi7bgBevvogCevongBevvogCevongBevvogCevongBevvogCevongBevvogCfi7bgBedh4gCfi7bg" ++
    "BevvogCevongBevvogCevongBevvogCevongBd8jsgCgn4jgBd8jsgCh9j7gBcm58gCh9j7gBcm58gCh9j7gBd8jsgC" ++
    "gn4jgBd8jsgCgn4jgBd8jsgCh9j7gBcm58gCh9j7gBcm58gCh9j7gBd8jsgCgn4jgBd8jsgCgn4jgBd8jsgCgn4jgBd" ++
    "8jsgCh9j7gBcm58gCtvkvgDh9j7gCd8jsgDgn4jgCd8jsgDgn4jgCd8jsgDh9j7gCcm58gDh9j7gCcm58gDh9j7gCau" ++
    "pcgD|EST5EDT,M3.2.0,M11.1.0")]

end ClusterMetrics.Zone.Table
