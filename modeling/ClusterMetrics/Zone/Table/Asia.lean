/-! # Zones of Asia

Each entry pairs a zone name with its encoded history. -/

namespace ClusterMetrics.Zone.Table

/-- The zones of **Asia**. -/
def asia : List (String × String) :=
  [("Asia/Aden",
    "10794 10800|-631162794|B|<+03>-3"),
   ("Asia/Almaty",
    "18468 18000 21600 25200|-1441170468|B5oksqkC1fo73jgDf2d3gCevvogDf2d3gCevvogDf2d3gCf2k4gDf03" ++
    "90Cevs80Devs80Cevs80Devs80Cevs80Devs80Cevs80Devs80Cevs80Devs80Cevs80Dfias0Ctvs0gB97a00C5oen" ++
    "gDevs80Cevs80Devs80Cevs80Devs80Cevs80Devs80Cfias0Dh9mo0Ccm1o0Dh9mo0Ccm1o0Dh9mo0Ccm1o0Dhs5c0" ++
    "Cc3j40Dhs5c0Cc3j40Dhs5c0Ccm1o0Dh9mo0Ccm1o0Dh9mo0Ccm1o0Dhs5c0Ci5pkr0B|<+05>-5"),
   ("Asia/Amman",
    "8624 7200 10800|-1230776624|B17st8ogC9kcbgBhf30gCcj9rgBhf30gCcj9rgBhhncgCf51fgBetbcgCcj9rgB" ++
    "hcekgCcj9rgB63ma4gCf2d3gBf7ssgCevongBevvogCevongBevvogCfi7bgBhhncgCce13gBgnbkgCd8crgBfvk8gC" ++
    "ddljgBg4t0gCeda3gBevvogCevongBevvogCdqrfgBgnbkgCd8gc0Bgn840Cdqv00Bg4pg0Cdqv00Bg4pg0Cdqv00Bn" ++
    "i380C703s0Bffmg0Cf2gk0Bet7s0Cf2gk0Bevs80Cevs80Bevs80Ch9mo0Bcm1o0Cgn840Bdqv00Cevs80Bevs80Ch9" ++
    "mo0Bcm1o0Ch9mo0Bcm1o0Chs5c0Bc3j40Chs5c0Bc3j40Chs5c0Bcm1o0Ch9mo0Bcm1o0C1jt0ngB82g8gChs5c0Bc3" ++
    "j40Chs5c0Bcm1o0Ch9mo0Bcm1o0Ch9mo0Bcm1o0Ch9mo0Bcm1o0Ch9mo0Bcm1o0Chs5c0Bc3j40Chs5c0B9pok0C|<+" ++
    "03>-3"),
   ("Asia/Anadyr",
    "42596 43200 46800 50400 39600|-1441194596|B5okrp4C1fo73jgDf2d3gCu2gcgBevvogCf2d3gBf2k4gCf03" ++
    "90Bevs80Cevs80Bevs80Cevs80Bevs80Cevs80Bevs80Cevs80Bevs80Cevs80Bevs80Cfias0Btvs0gE97a00B5oen" ++
    "gCevs80Bevs80Cevs80Bevs80Cevs80Bevs80Cevs80Bfias0Ch9mo0Bcm1o0Ch9mo0Bcm1o0Ch9mo0Bcm1o0Chs5c0" ++
    "Bc3j40Chs5c0Bc3j40Chs5c0Bcm1o0Ch9mo0Bcm1o0Ch9mo0Bcm1o0Chs5c0Bc3j40Chs5c0Bc3j40Chs5c0Bc3j40C" ++
    "hs5c0Bcm1o0Ch9mo0Bcm1o0Ch9mo0BuiakgEc3j40B|<+12>-12"),
   ("Asia/Aqtau",
    "12064 14400 18000 21600|-1441164064|B5okq30C1g79k7gDu29bgCevvogDf2d3gCf2k4gDf0390Cevs80Devs" ++
    "80Cevs80Devs80Cevs80Devs80Cevs80Devs80Cevs80Devs80Cevs80Dfias0Ctvs0gB97a00C5oengDevs80Cevs8" ++
    "0Devs80Cevs80Devs80BevvogCevs80Bfias0Ch9mo0Bcm1o0Ch9mo0Bcm1o0Ch9mo0Bcm1o0Chs5c0Bc3j40Chs5c0" ++
    "Bc3j40Chs5c0Bcm1o0Ch9mo0Bcm1o0Ch9mo0Bcm1o0C|<+05>-5"),
   ("Asia/Aqtobe",
    "13720 14400 18000 21600|-1441165720|B5okrmoC1fo73jgD1d4pvgCevvogDf2d3gCf2k4gDf0390Cevs80Dev" ++
    "s80Cevs80Devs80Cevs80Devs80Cevs80Devs80Cevs80Devs80Cevs80Dfias0Ctvs0gB97a00C5oengDevs80Cevs" ++
    "80Devs80Cevs80Devs80Cevs80Devs80Cfias0Dh9mo0Ccm1o0Dh9mo0Ccm1o0Dh9mo0Ccm1o0Dhs5c0Cc3j40Dhs5c" ++
    "0Cc3j40Dhs5c0Ccm1o0Dh9mo0Ccm1o0Dh9mo0Ccm1o0Dhs5c0C|<+05>-5"),
   ("Asia/Ashgabat",
    "14012 14400 18000 21600|-1441166012|B5okrvsC1fo73jgDf2d3gCevvogDf2d3gCevvogDf2d3gCf2k4gDf03" ++
    "90Cevs80Devs80Cevs80Devs80Cevs80Devs80Cevs80Devs80Cevs80Devs80Cevs80Dfias0Ctvs0gB97a00C|<+0" ++
    "5>-5"),
   ("Asia/Atyrau",
    "12464 10800 18000 21600 14400|-1441164464|B5oku00C1g79gn0Du29bgCevvogDf2d3gCf2k4gDf0390Cevs" ++
    "80Devs80Cevs80Devs80Cevs80Devs80Cevs80Devs80Cevs80Devs80Cevs80Dfias0Ctvs0gE97a00C5oengDevs8" ++
    "0Cevs80Devs80Cevs80Devs80Cevs80Devs80Cfias0Dh9mo0Ccm1o0Dh9mo0Ccm1o0Dh9mo0CuiakgEc3j40Chs5c0" ++
    "Ec3j40Chs5c0Ecm1o0Ch9mo0Ecm1o0Ch9mo0Ecm1o0C|<+05>-5"),
   ("Asia/Baghdad",
    "10660 10656 10800 14400|-2524532260|Bqaj2o4C1sg0argDcj9rgCetbcgDf51fgCf2k4gDf2d3gCevvogDetb" ++
    "cgCevs80Devs80Cevs80Devs80Cevs80Devs80Cevs80Devs80Cevs80Dfias0Cf2nl0Df2gk0Cf2gk0Df2gk0Cevs8" ++
    "0Df2gk0Cevs80Df2gk0Cevs80Df2gk0Cf2gk0Df2gk0Cevs80Df2gk0Cevs80Df2gk0Cevs80Df2gk0Cf2gk0Df2gk0" ++
    "Cevs80Df2gk0Cevs80Df2gk0Cevs80Df2gk0Cf2gk0Df2gk0Cevs80Df2gk0Cevs80Df2gk0Cevs80Df2gk0C|<+03>" ++
    "-3"),
   ("Asia/Bahrain",
    "12140 12600 14400 10800|-897880940|B29nr5kCqn6eboD|<+03>-3"),
   ("Asia/Baku",
    "11964 10800 14400 18000|-1441163964|Bus0tocCmkr3bgDf2d3gCevvogDf2d3gCevvogDf2d3gCf2k4gDf039" ++
    "0Cevs80Devs80Cevs80Devs80Cevs80Devs80Cevs80Devs80Cevs80Devs80Cevs80Dfias0Ctvs0gBevs80C3ohnl" ++
    "0Dh9mo0Cclu7gDh9mo0Ccm1o0Dh9mo0Ccm1o0Dhs5c0Cc3j40Dhs5c0Cc3j40Dhs5c0Ccm1o0Dh9mo0Ccm1o0Dh9mo0" ++
    "Ccm1o0Dhs5c0Cc3j40Dhs5c0Cc3j40Dhs5c0Cc3j40Dhs5c0Ccm1o0Dh9mo0Ccm1o0Dh9mo0Ccm1o0Dhs5c0Cc3j40D" ++
    "hs5c0Cc3j40Dhs5c0Ccm1o0Dh9mo0Ccm1o0Dh9mo0Ccm1o0Dh9mo0C|<+04>-4"),
   ("Asia/Bangkok",
    "24124 25200|-1570084924|B|<+07>-7"),
   ("Asia/Barnaul",
    "20100 21600 25200 28800|-1579844100|B9ssop4C1fo73jgDf2d3gCevvogDf2d3gCevvogDf2d3gCf2k4gDf03" ++
    "90Cevs80Devs80Cevs80Devs80Cevs80Devs80Cevs80Devs80Cevs80Devs80Cevs80Dfias0Ctvs0gB97a00C5oen" ++
    "gDevs80Cevs80Devs80Cevs80Devs80Cevs80D55p2gC9q6m0Bfias0Ch9mo0Bcm1o0Ch9mo0Bcm1o0Ch9mo0Bcm1o0" ++
    "Chs5c0Bc3j40Chs5c0Bc3j40Chs5c0Bcm1o0Ch9mo0Bcm1o0Ch9mo0Bcm1o0Chs5c0Bc3j40Chs5c0Bc3j40Chs5c0B" ++
    "c3j40Chs5c0Bcm1o0Ch9mo0Bcm1o0Ch9mo0Bcm1o0Chs5c0Bc3j40C3brbbgB1altogC|<+07>-7"),
   ("Asia/Beirut",
    "8520 7200 10800|-2840149320|B15qt898Chc7jgBd5vggCf2d3gBeasogCg4lvgBg4t0gCc3fjgBvjtksgCcj9rg" ++
    "Bhf30gCcj9rgBhf30gCcj9rgBhhncgCcj9rgBhf30gCcj9rgBa2o4cgC8a6bgBhf30gCcj9rgBhf30gCcj9rgBhf30g" ++
    "Ccj9rgBhhncgCcj9rgBhf30gCcj9rgBhcekgCcj9rgB5830ggCdqrfgBg7hcgCdqrfgBg7hcgCdqrfgBg7hcgCdqrfg" ++
    "BirtcgCb93rgBgv8ogCd343gBg7hcgCdqrfgBg7hcgCdqrfgBga5ogCcr6vgBedh4gCevongBevvogCevongBevvogC" ++
    "evongBfiecgCevongBevvogCevongBevvogCevongBevvogC|EET-2EEST,M3.5.0/0,M10.5.0/0"),
   ("Asia/Bishkek",
    "17904 18000 21600 25200|-1441169904|B5oks90C1fo73jgDf2d3gCevvogDf2d3gCevvogDf2d3gCf2k4gDf03" ++
    "90Cevs80Devs80Cevs80Devs80Cevs80Devs80Cevs80Devs80Cevs80Devs80Cevs80Dfias0Crj9k0Bih4rgCdqrf" ++
    "gBg4t0gCdqrfgBg4t0gCdqrfgBg4t0gCdqrfgBg4t0gCeda3gBf08hoCh9j7gBcm58gCh9j7gBcm58gChs1rgBc3mkg" ++
    "Chs1rgBc3mkgChs1rgBcm58gCh9j7gBcm58gCh9j7gBcm58gChs1rgBc3mkgC|<+06>-6"),
   ("Asia/Brunei",
    "27580 27000 28800|-1383464380|B6dqha4C|<+08>-8"),
   ("Asia/Chita",
    "27232 28800 32400 36000|-1579419232|B9sfir0C1fo73jgDf2d3gCevvogDf2d3gCevvogDf2d3gCf2k4gDf03" ++
    "90Cevs80Devs80Cevs80Devs80Cevs80Devs80Cevs80Devs80Cevs80Devs80Cevs80Dfias0Ctvs0gB97a00C5oen" ++
    "gDevs80Cevs80Devs80Cevs80Devs80Cevs80Devs80Cfias0Dh9mo0Ccm1o0Dh9mo0Ccm1o0Dh9mo0Ccm1o0Dhs5c0" ++
    "Cc3j40Dhs5c0Cc3j40Dhs5c0Ccm1o0Dh9mo0Ccm1o0Dh9mo0Ccm1o0Dhs5c0Cc3j40Dhs5c0Cc3j40Dhs5c0Cc3j40D" ++
    "hs5c0Ccm1o0Dh9mo0Ccm1o0Dh9mo0Ccm1o0Dhs5c0Cc3j40D3brbbgB1am190C|<+09>-9"),
   ("Asia/Colombo",
    "19164 19172 19800 21600 23400|-2840159964|Boee8voC11ronocDjm3roE2u0l4oC1fj0vvgEclvvoD8stqg8" ++
    "C|<+0530>-5:30"),
   ("Asia/Damascus",
    "8712 7200 10800|-1577931912|B8t108CdqrfgBg4t0gCdqrfgBg4t0gCdqrfgBg4t0gCeda3gB148fl0gCcoijgB" ++
    "hf30gCcglfgBhkbogCcj9rgBhf30gCcglfgBgv8ogCd5ofgBhf30gCcj9rgBhhncgCcj9rgBhf30gCcj9rgBhf30gCc" ++
    "j9rgBhf30gCcj9rgBhhncgCcj9rgBhf30gCcj9rgBhf30gCcj9rgBhf30gCcj9rgBhhncgCcj9rgBhf30gCa46jgBju" ++
    "68gCa46jgB4agdsgCeda3gBfnn4gCeda3gB19ec4gCjbgjgBbp54gCk37vgBb6mggCiuangBce84gCf51fgBevvogCe" ++
    "vongBf2d3gCf2d3gBfl2ogCefufgBeg5ggCf2d3gBffq0gCf2d3gBevvogCf2d3gBf2k4gCf2d3gBetbcgCf51fgBeq" ++
    "n0gCf7lrgBevvogCf2d3gBf2k4gCf2d3gBevvogCf2d3gBevvogCf2d3gBevvogCf2d3gBf2k4gCf2d3gBevvogCf2d" ++
    "3gBevvogCealngBfiecgChs1rgBcm58gChc7jgBc128gChs1rgBcm58gCh9j7gBcm58gCh9j7gBcm58gCh9j7gBcm58" ++
    "gCh9j7gBcm58gChs1rgBc3mkgChs1rgBc3mkgChs1rgBcm58gCh9j7gBcm58gCh9j7gBcm58gCh9j7gBcm58gChs1rg" ++
    "Bc3mkgChs1rgBc3mkgC|<+03>-3"),
   ("Asia/Dhaka",
    "21700 21200 23400 19800 21600 25200|-2524543300|B1gl9vvkCijqj8D8vgcgC8h77vgE1m95sboFg2540E|" ++
    "<+06>-6"),
   ("Asia/Dili",
    "30140 28800 32400|-1830412800|Bsb657gC1051vc0Bmtiq4gC|<+09>-9"),
   ("Asia/Dubai",
    "13272 14400|-1577936472|B|<+04>-4"),
   ("Asia/Dushanbe",
    "16512 18000 21600 25200|-1441168512|B5okqtgC1fo73jgDf2d3gCevvogDf2d3gCevvogDf2d3gCf2k4gDf03" ++
    "90Cevs80Devs80Cevs80Devs80Cevs80Devs80Cevs80Devs80Cevs80Devs80Cevs80Dfias0Csb4ggB|<+05>-5"),
   ("Asia/Famagusta",
    "8148 7200 10800|-1518920148|B1i7d4dkCevongBhpkggCc8obgBeasogCeda3gBfiecgCf2d3gBetbcgCevongB" ++
    "fiecgCeda3gBevvogCevongBevvogCevongBevvogCevongBevvogCfi7bgBevvogCevongBevvogCevongBevvogCe" ++
    "vongBevvogCevongBevvogCevongBevvogCfi7bgBevvogCevongBevvogCevongBevvogCevongBevvogCevongBev" ++
    "vogCevongBfiecgCevongBevvogCevongBevvogCha19gBcm1o0Chs5c0Bc3j40Chs5c0Bc3j40Chs5c0Bcm1o0Ch9m" ++
    "o0Bcm1o0Ch9mo0Bcm1o0Chs5c0Bc3j40Chs5c0Bc3j40Chs5c0Bc3j40Chs5c0Bcm1o0Ch9mo0Bcm1o0Ch9mo0Bcm1o" ++
    "0Chs5c0Bc3j40Chs5c0Bc3j40Chs5c0Bcm1o0Ch9mo0Bcm1o0Ch9mo0Bcm1o0Ch9mo0Bcm1o0C1frts0B|EET-2EEST" ++
    ",M3.5.0/3,M10.5.0/4"),
   ("Asia/Gaza",
    "8272 7200 10800|-2185409872|B159p12gCa1lo0B3rtk0C1qqjo0Bce4k0Chk880Bcgp00Chk880Bdlm80Cgcmk0" ++
    "Bdlm80Cgcmk0B9skm30CbrifgBhf30gCcj9rgBhf6h0CcgsggBhk4ngCcgsggBhhgbgCcgsggBhhgbgCcgsggBhhgbg" ++
    "CcgsggBhk4ngCcgsggBhhgbgCcgsggBhhgbgCcjgsgBhervgC2s230B6laicgC8297gBfiecgCauibgB4k7i4gC3eno" ++
    "0B3diqo0C97a00Bj12k0Cbh0vgBlb0kgC976fgBi460gCce13gBh9q8gCc3fjgBjjkogCac3ngBgnbkgCclu7gBh9q8" ++
    "gCd8crgBh9q8gCd8crgBh4hggCcr6vgBh4hggCc8obgBhn04gCcr6vgBhn04gCdqv00Bg4pg0Cdqv00Bg4pg0Cdqv00" ++
    "Bh9mo0CevongBfiecgCevongBevvogCevongBevvogCevongBevvogCevongBevvogCdqv00Bg4pg0Ce5k0gBenrjgC" ++
    "ealngBfnn4gCdj5cgBg7abgCclu7gBh9q8gCd8gc0BgpshsCb93pkBj6eucCa1i5kBju68gCeddk0Bfias0CevongBe" ++
    "vvogCh9j7gBcopkgCh72c0BcopkgChs1rgBc3mkgChs1rgBc3mkgChs1rgBcjdc0Chc7jgBcm58gCh9mo0Bcm1o0Chp" ++
    "h00Bc8rs0ChpkggBevvogCevongBedh4gCfi7bgBdr2ggCg4lvgBcm58gCh9j7gBcm58gChs1rgBc3mkgChs1rgBc3m" ++
    "kgChs1rgBcm58gCh9j7gBcm58gCh9j7gBcm58gChs1rgBc3mkgChs1rgBc3mkgChs1rgBc3mkgChs1rgBcm58gCgn4j" ++
    "gBd8jsgCg4lvgBdr2ggCevongBevvogCeda3gBfiecgCd8crgB419sgCib3gBcm58gCc3fjgB3er8gC1n8bgBcm58gC" ++
    "bh0vgB3er8gC29mvgBcm58gCac3ngB419sgC2s5jgBcm58gC9pl3gB3er8gC4jhfgBc3mkgC976fgB3er8gC5603gBc" ++
    "3mkgC8297gB419sgC5oengBcm58gC6tbvgB3er8gC6tbvgBcm58gC5oengB419sgC7fqjgBcm58gC5603gB3er8gC97" ++
    "6fgBc3mkgC4jhfgB3er8gC9pl3gBc3mkgC3ek7gB419sgCac3ngBcm58gC29mvgB3er8gCbh0vgBcm58gC14pngB419" ++
    "sgCc3fjgBcm58gCib3gB419sgCclu7gBg4t0gCeda3gBevvogCevongBdr2ggCg4lvgBd8jsgCgn4jgBcm58gCh9j7g" ++
    "Bcm58gChs1rgBc3mkgChs1rgBc3mkgChs1rgBc3mkgChs1rgBcm58gCh9j7gBcm58gCh9j7gBcm58gChs1rgBc3mkgC" ++
    "hs1rgBc3mkgCh9j7gBd8jsgCg4lvgBdr2ggCfi7bgBedh4gCeda3gBfiecgCdqrfgB3er8gCib3gBc3mkgCd8crgB3e" ++
    "r8gC14pngBc3mkgCc3fjgB419sgC1n8bgBcm58gCauibgB3er8gC2s5jgBcm58gC9pl3gB419sgC3ek7gBcm58gC976" ++
    "fgB419sgC4jhfgBc3mkgC8knrgB3er8gC5oengBc3mkgC7fqjgB419sgC6atbgBcm58gC6atbgB3er8gC7fqjgBcm58" ++
    "gC5oengB3er8gC8297gBcm58gC4jhfgB419sgC8knrgBcm58gC412rgB3er8gCac3ngBc3mkgC2s5jgB419sgCauibg" ++
    "Bc3mkgC29mvgB419sgCbh0vgBcm58gC14pngB3er8gC|EET-2EEST,M3.4.4/50,M10.4.4/50"),
   ("Asia/Hebron",
    "8423 7200 10800|-2185410023|B159p177Ca1lo0B3rtk0C1qqjo0Bce4k0Chk880Bcgp00Chk880Bdlm80Cgcmk0" ++
    "Bdlm80Cgcmk0B9skm30CbrifgBhf30gCcj9rgBhf6h0CcgsggBhk4ngCcgsggBhhgbgCcgsggBhhgbgCcgsggBhhgbg" ++
    "CcgsggBhk4ngCcgsggBhhgbgCcgsggBhhgbgCcjgsgBhervgC2s230B6laicgC8297gBfiecgCauibgB4k7i4gC3eno" ++
    "0B3diqo0C97a00Bj12k0Cbh0vgBlb0kgC976fgBi460gCce13gBh9q8gCc3fjgBjjkogCac3ngBgnbkgCclu7gBh9q8" ++
    "gCd8crgBh9q8gCd8crgBh4hggCcr6vgBh4hggCc8obgBhn04gCcr6vgBhn04gCdqv00Bg4pg0Cdqv00Bg4pg0Cdqv00" ++
    "Bh9mo0CevongBfiecgCevongBevvogCevongBevvogCevongBevvogCevongBevvogCdqv00Bg4pg0Ce5k0gBenrjgC" ++
    "ealngBfnn4gCdj5cgBg7abgCctrbgBh1t4gCd8gc0Bgn840Cbbo7gBj6eucCa1i5kB2cicgC2hk3gBevvogCeddk0Bf" ++
    "ias0CevongBevvogCh9j7gBcopkgCh72c0BcopkgChs1rgBc3mkgChs1rgBc3mkgChs1rgBcjdc0Chc7jgBcm58gCh9" ++
    "mo0Bcm1o0Chph00Bc8rs0ChpkggBevvogCevongBedh4gCfi7bgBdr2ggCg4lvgBcm58gCh9j7gBcm58gChs1rgBc3m" ++
    "kgChs1rgBc3mkgChs1rgBcm58gCh9j7gBcm58gCh9j7gBcm58gChs1rgBc3mkgChs1rgBc3mkgChs1rgBc3mkgChs1r" ++
    "gBcm58gCgn4jgBd8jsgCg4lvgBdr2ggCevongBevvogCeda3gBfiecgCd8crgB419sgCib3gBcm58gCc3fjgB3er8gC" ++
    "1n8bgBcm58gCbh0vgB3er8gC29mvgBcm58gCac3ngB419sgC2s5jgBcm58gC9pl3gB3er8gC4jhfgBc3mkgC976fgB3" ++
    "er8gC5603gBc3mkgC8297gB419sgC5oengBcm58gC6tbvgB3er8gC6tbvgBcm58gC5oengB419sgC7fqjgBcm58gC56" ++
    "03gB3er8gC976fgBc3mkgC4jhfgB3er8gC9pl3gBc3mkgC3ek7gB419sgCac3ngBcm58gC29mvgB3er8gCbh0vgBcm5" ++
    "8gC14pngB419sgCc3fjgBcm58gCib3gB419sgCclu7gBg4t0gCeda3gBevvogCevongBdr2ggCg4lvgBd8jsgCgn4jg" ++
    "Bcm58gCh9j7gBcm58gChs1rgBc3mkgChs1rgBc3mkgChs1rgBc3mkgChs1rgBcm58gCh9j7gBcm58gCh9j7gBcm58gC" ++
    "hs1rgBc3mkgChs1rgBc3mkgCh9j7gBd8jsgCg4lvgBdr2ggCfi7bgBedh4gCeda3gBfiecgCdqrfgB3er8gCib3gBc3" ++
    "mkgCd8crgB3er8gC14pngBc3mkgCc3fjgB419sgC1n8bgBcm58gCauibgB3er8gC2s5jgBcm58gC9pl3gB419sgC3ek" ++
    "7gBcm58gC976fgB419sgC4jhfgBc3mkgC8knrgB3er8gC5oengBc3mkgC7fqjgB419sgC6atbgBcm58gC6atbgB3er8" ++
    "gC7fqjgBcm58gC5oengB3er8gC8297gBcm58gC4jhfgB419sgC8knrgBcm58gC412rgB3er8gCac3ngBc3mkgC2s5jg" ++
    "B419sgCauibgBc3mkgC29mvgB419sgCbh0vgBcm58gC14pngB3er8gC|EET-2EEST,M3.4.4/50,M10.4.4/50"),
   ("Asia/Ho_Chi_Minh",
    "25590 25200 28800 32400|-1851577590|Btp5ermC227pvgDe2s40B1fev10C7o8ds0B47h9bgCegsbo0B|<+07>" ++
    "-7"),
   ("Asia/Hong_Kong",
    "27402 28800 32400 30600|-2056690800|B12e7jd0C8sog0D6vni8C3lar8oBclu7gCif09oBauls0Cj12k0Bcm1" ++
    "o0Cevs80Bcm1o0Ch9mo0Bcm1o0Ch9mo0Bcm1o0Ch9mo0Bd8gc0Ch9mo0Bcm1o0Ch9j7gBbh80gCiegfgBbh80gCj0v3" ++
    "gBaupcgCj0v3gBbh80gCiegfgBbh80gCiegfgBbh80gCiegfgBbh80gCj0v3gBaupcgCj0v3gBaupcgCj0v3gBbh80g" ++
    "CiegfgBbh80gCiegfgBdr2ggCevongBevvogCevongBevvogCfi7bgBevvogCevongBevvogCevongBevvogCevongB" ++
    "evvogCevongBevvogCfi7bgBevvogCevongB5ologCo72ngBevvogCevongBevvogCevongB2d9b8gCd8crgB|HKT-8"),
   ("Asia/Hovd",
    "21996 21600 25200 28800|-2032927596|B243frgcC4trqvgDf2d3gCf2k4gDevongCevvogDevongCevvogDevo" ++
    "ngCevvogDevongCevvogDevongCevvogDevongCevvogDfi7bgCevvogDevongCevvogDevongCevvogDevongCevvo" ++
    "gDevongCevvogDevongCfiecgDevongCevvogDevongCevvogDevongC2dpchgDclu7gCevvogDevongCevvogDevon" ++
    "gCevvogDevongCevvogDevongCevvogDfi7bgC7vgicgDevhmgCf06pgDevhmgC|<+07>-7"),
   ("Asia/Irkutsk",
    "25025 25200 28800 32400|-1575874625|B9p3gqhC1fo73jgDf2d3gCevvogDf2d3gCevvogDf2d3gCf2k4gDf03" ++
    "90Cevs80Devs80Cevs80Devs80Cevs80Devs80Cevs80Devs80Cevs80Devs80Cevs80Dfias0Ctvs0gB97a00C5oen" ++
    "gDevs80Cevs80Devs80Cevs80Devs80Cevs80Devs80Cfias0Dh9mo0Ccm1o0Dh9mo0Ccm1o0Dh9mo0Ccm1o0Dhs5c0" ++
    "Cc3j40Dhs5c0Cc3j40Dhs5c0Ccm1o0Dh9mo0Ccm1o0Dh9mo0Ccm1o0Dhs5c0Cc3j40Dhs5c0Cc3j40Dhs5c0Cc3j40D" ++
    "hs5c0Ccm1o0Dh9mo0Ccm1o0Dh9mo0Ccm1o0Dhs5c0Cc3j40D3brbbgC|<+08>-8"),
   ("Asia/Jakarta",
    "25632 26400 27000 32400 28800 25200|-1451719200|B89sm40C8qh998D39eqn8C2eblsoE1s4nvoCcrd648F" ++
    "|WIB-7"),
   ("Asia/Jayapura",
    "33768 32400 34200|-1172913768|Bb43u2oCi5pq3oB|WIT-9"),
   ("Asia/Jerusalem",
    "8454 8440 7200 10800 14400|-2840149254|B13nj0keCl2j2boDa1lo0C3rtk0D1qqjo0Cce4k0Dhk880Ccgp00" ++
    "Dhk880Cdlm80Dgcmk0Cdlm80Dgcmk0C1es9c0E8a9s0D50qs0Cet7s0Df5500Cdlm80Dcgp00Cga280Diek00Cd8gc0" ++
    "Devs80Ceddk0Dcm1o0Cmfqc0D7fu40Cmfqc0D7fu40Cltbo0D9pok0Ch9mo0Dc3j40Cfp84f0D8297gCfiecgDauibg" ++
    "C4k7i4gD3eno0C3diqo0D97a00Cj12k0Dbh0vgClb0kgD976fgCi460gDce13gCh9q8gDc3fjgCjjkogDac3ngCgnbk" ++
    "gDclu7gCh9q8gDd8crgCh9q8gDd8crgCh4hggDcr6vgCh4hggDc8obgChn04gDcr6vgCfvk8gDf7lrgCfah8gDeiirg" ++
    "Cfd5kgDe047gCh4ohgDclu7gCienggDed6j0Cf7ssgDdqrfgCfah8gDfq4fgCe5k0gDfi7bgCfd5kgDdqrfgCfnql0D" ++
    "fng3gCe88cgDf51fgCeqn0gDe047gCfvk8gDfng3gCe88cgDf51fgCeqn0gDe047gCgi2sgDf51fgCeqn0gDeiirgCf" ++
    "d5kgD|IST-2IDT,M3.4.4/26,M10.5.0"),
   ("Asia/Kabul",
    "16608 14400 16200|-2524538208|B1jn6f50C|<+0430>-4:30"),
   ("Asia/Kamchatka",
    "38076 39600 43200 46800|-1487759676|B75210cC1fo73jgDf2d3gCevvogDf2d3gCevvogDf2d3gCf2k4gDf03" ++
    "90Cevs80Devs80Cevs80Devs80Cevs80Devs80Cevs80Devs80Cevs80Devs80Cevs80Dfias0Ctvs0gB97a00C5oen" ++
    "gDevs80Cevs80Devs80Cevs80Devs80Cevs80Devs80Cfias0Dh9mo0Ccm1o0Dh9mo0Ccm1o0Dh9mo0Ccm1o0Dhs5c0" ++
    "Cc3j40Dhs5c0Cc3j40Dhs5c0Ccm1o0Dh9mo0Ccm1o0Dh9mo0Ccm1o0Dhs5c0Cc3j40Dhs5c0Cc3j40Dhs5c0Cc3j40D" ++
    "hs5c0Ccm1o0Dh9mo0Ccm1o0Dh9mo0CuiakgBc3j40C|<+12>-12"),
   ("Asia/Karachi",
    "16092 19800 23400 18000 21600|-1988166492|B11hcdg4C2ttnvgB5j9jggD1fgcp88EevongD5a4tsgEcj9rg" ++
    "Ddj5cgEgf7fgD|PKT-5"),
   ("Asia/Kathmandu",
    "20476 19800 20700|-1577943676|B1u2bcp4C|<+0545>-5:45"),
   ("Asia/Khandyga",
    "32533 28800 32400 36000 39600|-1579424533|B9sfo0lC1fo73jgDf2d3gCevvogDf2d3gCevvogDf2d3gCf2k" ++
    "4gDf0390Cevs80Devs80Cevs80Devs80Cevs80Devs80Cevs80Devs80Cevs80Devs80Cevs80Dfias0Ctvs0gB97a0" ++
    "0C5oengDevs80Cevs80Devs80Cevs80Devs80Cevs80Devs80Cfias0Dh9mo0Ccm1o0Dh9mo0Ccm1o0Dh9mo0Ccm1o0" ++
    "Dhs5c0Cc3j40Dhs5c0Cc3j40Dhs5c0Ccm1o0Dh9mo0Ccm1o0Dh9mo0C5ge30D75g4gEhs5c0Dc3j40Ehs5c0Dc3j40E" ++
    "hs5c0Dc3j40Ehs5c0Dcm1o0Eh9mo0Dcm1o0Eh9mo0Dcm1o0Ehs5c0Dc3j40Edvt6gD2trhlgC|<+09>-9"),
   ("Asia/Kolkata",
    "21208 21200 19270 19800 23400|-3645237208|Beirko8C11rbkcaD11jrjreEijp7gD8vgcgE2ttnvgD|IST-5" ++
    ":30"),
   ("Asia/Krasnoyarsk",
    "22286 21600 25200 28800|-1577513486|B9qlkpeC1fo73jgDf2d3gCevvogDf2d3gCevvogDf2d3gCf2k4gDf03" ++
    "90Cevs80Devs80Cevs80Devs80Cevs80Devs80Cevs80Devs80Cevs80Devs80Cevs80Dfias0Ctvs0gB97a00C5oen" ++
    "gDevs80Cevs80Devs80Cevs80Devs80Cevs80Devs80Cfias0Dh9mo0Ccm1o0Dh9mo0Ccm1o0Dh9mo0Ccm1o0Dhs5c0" ++
    "Cc3j40Dhs5c0Cc3j40Dhs5c0Ccm1o0Dh9mo0Ccm1o0Dh9mo0Ccm1o0Dhs5c0Cc3j40Dhs5c0Cc3j40Dhs5c0Cc3j40D" ++
    "hs5c0Ccm1o0Dh9mo0Ccm1o0Dh9mo0Ccm1o0Dhs5c0Cc3j40D3brbbgC|<+07>-7"),
   ("Asia/Kuala_Lumpur",
    "24406 24925 25200 26400 27000 32400 28800|-2177477206|B44qbvpCpu7i7dD84p5mgEdqud8F3be3n8E12" ++
    "4j00gG|<+08>-8"),
   ("Asia/Kuching",
    "26480 27000 28800 30000 32400|-1383463280|B6dqg7oC2h7nvoD7fsugCml49gD7fsugCmiftgD7fsugCmift" ++
    "gD7fsugCmiftgD7fsugCml49gD7fsugCmiftgD7fsugC58p5gE3be5fgC|<+08>-8"),
   ("Asia/Kuwait",
    "11516 10800|-631163516|B|<+03>-3"),
   ("Asia/Macau",
    "27250 28800 32400 36000|-2056692850|B12ts6j2Caml7gDghrrgCdgh0gDcj9rgC1s7l50Bhevg0Ccjdc0Bghv" ++
    "c0Cih8c0Bcm1o0Cevs80Bcjdc0Ch9mo0Bcm1o0Ch9mo0Bcm1o0Chcb40Bd5s00Ch9mo0Bcm1o0Ch9mo0Bbh4g0Ciek0" ++
    "0Bbh4g0Cj12k0Bauls0Cj1etoBbh80gCiegfgBbh80gCiegfgBbh80gCiegfgBbh80gCj0v3gBaupcgCj0v3gBaupcg" ++
    "Cj0v3gBbh80gCiegfgBbh80gCiegfgBdr2ggCevl70Bf0390Cevl70Bf0390Cfi7bgBevvogCevongBevvogCevongB" ++
    "evvogCevongBevvogCevongBevvogCfi7bgBevvogCevongB5ologCo72ngBevvogCevongBevvogCevongB2d9b8gC" ++
    "d8crgB|CST-8"),
   ("Asia/Magadan",
    "36192 36000 39600 43200|-1441188192|B5oksi0C1fo73jgDf2d3gCevvogDf2d3gCevvogDf2d3gCf2k4gDf03" ++
    "90Cevs80Devs80Cevs80Devs80Cevs80Devs80Cevs80Devs80Cevs80Devs80Cevs80Dfias0Ctvs0gB97a00C5oen" ++
    "gDevs80Cevs80Devs80Cevs80Devs80Cevs80Devs80Cfias0Dh9mo0Ccm1o0Dh9mo0Ccm1o0Dh9mo0Ccm1o0Dhs5c0" ++
    "Cc3j40Dhs5c0Cc3j40Dhs5c0Ccm1o0Dh9mo0Ccm1o0Dh9mo0Ccm1o0Dhs5c0Cc3j40Dhs5c0Cc3j40Dhs5c0Cc3j40D" ++
    "hs5c0Ccm1o0Dh9mo0Ccm1o0Dh9mo0Ccm1o0Dhs5c0Cc3j40D3brbbgB1cvrp0C|<+11>-11"),
   ("Asia/Makassar",
    "28656 28800 32400|-1172908656|B8n2hvgC3ctk7gB|WITA-8"),
   ("Asia/Manila",
    "-57368 29032 28800 32400|-3944621032|B1jdj7h8C12u2ui0D688vgC4jt0kgD3n4ingC7rkkogD4e8ngCleh8" ++
    "0gDel77gCbt09ggD5lqbgC|PST-8"),
   ("Asia/Muscat",
    "14064 14400|-1577937264|B|<+04>-4"),
   ("Asia/Nicosia",
    "8008 7200 10800|-1518920008|B1i7d498CevongBhpkggCc8obgBeasogCeda3gBfiecgCf2d3gBetbcgCevongB" ++
    "fiecgCeda3gBevvogCevongBevvogCevongBevvogCevongBevvogCfi7bgBevvogCevongBevvogCevongBevvogCe" ++
    "vongBevvogCevongBevvogCevongBevvogCfi7bgBevvogCevongBevvogCevongBevvogCevongBevvogCevongBev" ++
    "vogCevongBfiecgCevongBevvogCevongBevvogCha19gB|EET-2EEST,M3.5.0/3,M10.5.0/4"),
   ("Asia/Novokuznetsk",
    "20928 21600 25200 28800|-1441259328|B5ong30C1fo73jgDf2d3gCevvogDf2d3gCevvogDf2d3gCf2k4gDf03" ++
    "90Cevs80Devs80Cevs80Devs80Cevs80Devs80Cevs80Devs80Cevs80Devs80Cevs80Dfias0Ctvs0gB97a00C5oen" ++
    "gDevs80Cevs80Devs80Cevs80Devs80Cevs80Devs80Cfias0Dh9mo0Ccm1o0Dh9mo0Ccm1o0Dh9mo0Ccm1o0Dhs5c0" ++
    "Cc3j40Dhs5c0Cc3j40Dhs5c0Ccm1o0Dh9mo0Ccm1o0Dh9mo0Ccm1o0Dhs5c0Cc3j40Dhs5c0Cc3j40Dhs5c0Cc3j40D" ++
    "hs5c0Ccm1o0Dh9mo0Ccm1o0Dh9mo0CuiakgBc3j40C|<+07>-7"),
   ("Asia/Novosibirsk",
    "19900 21600 25200 28800|-1579476700|B9shhvsC1fo73jgDf2d3gCevvogDf2d3gCevvogDf2d3gCf2k4gDf03" ++
    "90Cevs80Devs80Cevs80Devs80Cevs80Devs80Cevs80Devs80Cevs80Devs80Cevs80Dfias0Ctvs0gB97a00C5oen" ++
    "gDevs80Cevs80D4jaegCacla0Bevs80Cevs80Bevs80Cevs80Bfias0Ch9mo0Bcm1o0Ch9mo0Bcm1o0Ch9mo0Bcm1o0" ++
    "Chs5c0Bc3j40Chs5c0Bc3j40Chs5c0Bcm1o0Ch9mo0Bcm1o0Ch9mo0Bcm1o0Chs5c0Bc3j40Chs5c0Bc3j40Chs5c0B" ++
    "c3j40Chs5c0Bcm1o0Ch9mo0Bcm1o0Ch9mo0Bcm1o0Chs5c0Bc3j40C3brbbgB1kfmcgC|<+07>-7"),
   ("Asia/Omsk",
    "17610 18000 21600 25200|-1582088010|B9v1bjqC1fo73jgDf2d3gCevvogDf2d3gCevvogDf2d3gCf2k4gDf03" ++
    "90Cevs80Devs80Cevs80Devs80Cevs80Devs80Cevs80Devs80Cevs80Devs80Cevs80Dfias0Ctvs0gB97a00C5oen" ++
    "gDevs80Cevs80Devs80Cevs80Devs80Cevs80Devs80Cfias0Dh9mo0Ccm1o0Dh9mo0Ccm1o0Dh9mo0Ccm1o0Dhs5c0" ++
    "Cc3j40Dhs5c0Cc3j40Dhs5c0Ccm1o0Dh9mo0Ccm1o0Dh9mo0Ccm1o0Dhs5c0Cc3j40Dhs5c0Cc3j40Dhs5c0Cc3j40D" ++
    "hs5c0Ccm1o0Dh9mo0Ccm1o0Dh9mo0Ccm1o0Dhs5c0Cc3j40D3brbbgC|<+06>-6"),
   ("Asia/Oral",
    "12324 10800 18000 21600 14400|-1441164324|B5oktrkC1fo7030D1d4pvgCevvogDf2d3gCf2k4gDf0390Cev" ++
    "s80Devs80Cevs80Devs80Cevs80Devs80Cevs80Devs80Ctvs0gEevs80Cfias0Eevs80Cevs80E97a00Ckoeg0Eevs" ++
    "80Cevs80Eevs80Cevs80Eevs80Cevs80Efias0Ch9mo0Ecm1o0Ch9mo0Ecm1o0Ch9mo0Ecm1o0Chs5c0Ec3j40Chs5c" ++
    "0Ec3j40Chs5c0Ecm1o0Ch9mo0Ecm1o0Ch9mo0Ecm1o0C|<+05>-5"),
   ("Asia/Phnom_Penh",
    "25180 25590 25200 28800 32400|-2004073180|B4hdpf6Ctp5ermD227pvgEe2s40C|<+07>-7"),
   ("Asia/Pontianak",
    "26240 27000 32400 28800 25200|-1172906240|B8m5h88C3dqij8B2eblsoD1s4nvoBcrd648Dmi9dfoE|WIB-7"),
   ("Asia/Pyongyang",
    "30180 30600 32400|-1948782180|B3gs9asC31efqroB2hsso0C|KST-9"),
   ("Asia/Qatar",
    "12368 14400 10800|-1577935568|B1h9ftcgC|<+03>-3"),
   ("Asia/Qostanay",
    "15268 14400 18000 21600|-1441167268|B5okt74C1fo73jgD1d4pvgCevvogDf2d3gCf2k4gDf0390Cevs80Dev" ++
    "s80Cevs80Devs80Cevs80Devs80Cevs80Devs80Cevs80Devs80Cevs80Dfias0Ctvs0gB97a00C5oengDevs80Cevs" ++
    "80Devs80Cevs80Devs80Cevs80Devs80Cfias0Dh9mo0Ccm1o0Dh9mo0Ccm1o0Dh9mo0Ccm1o0Dhs5c0Cc3j40Dhs5c" ++
    "0Cc3j40Dhs5c0Ccm1o0Dh9mo0Ccm1o0Dh9mo0Ccm1o0DinlmmgC|<+05>-5"),
   ("Asia/Qyzylorda",
    "15712 14400 18000 21600|-1441167712|B5oktl0C1fo73jgD1d4pvgCevvogDf2d3gCf2k4gDf0390Cevs80Dev" ++
    "s80Cevs80Devs80Cevs80Devs80Cevs80Devs80Cevs80Devs80Cevs80Dfias0C1772g0Dkoeg0Cevs80Devs80Cev" ++
    "s80Devs80Cevs80Devs80Cfias0Dh9mo0Ccm1o0Dh9mo0Ccm1o0Dh9mo0Ccm1o0Dhs5c0Cc3j40Dhs5c0Cc3j40Dhs5" ++
    "c0Ccm1o0Dh9mo0Ccm1o0Dh9mo0Ccm1o0DdrbragC|<+05>-5"),
   ("Asia/Riyadh",
    "11212 10800|-719636812|B|<+03>-3"),
   ("Asia/Sakhalin",
    "34248 32400 39600 43200 36000|-2031039048|B15jvp9oC11fd130Df2d3gCevvogDf2d3gCevvogDf2d3gCf2" ++
    "k4gDf0390Cevs80Devs80Cevs80Devs80Cevs80Devs80Cevs80Devs80Cevs80Devs80Cevs80Dfias0Ctvs0gE97a" ++
    "00C5oengDevs80Cevs80Devs80Cevs80Devs80Cevs80Devs80Cfias0Dh9mo0Ctvs0gEcm1o0Ch9mo0Ecm1o0Chs5c" ++
    "0Ec3j40Chs5c0Ec3j40Chs5c0Ecm1o0Ch9mo0Ecm1o0Ch9mo0Ecm1o0Chs5c0Ec3j40Chs5c0Ec3j40Chs5c0Ec3j40" ++
    "Chs5c0Ecm1o0Ch9mo0Ecm1o0Ch9mo0Ecm1o0Chs5c0Ec3j40C3brbbgE1altogC|<+11>-11"),
   ("Asia/Samarkand",
    "16073 14400 18000 21600|-1441168073|B5oku09C1fo73jgD1d4pvgCevvogDf2d3gCf2k4gDf0390Cevs80Dev" ++
    "s80Cevs80Devs80Cevs80Devs80Cevs80Devs80Cevs80Devs80Cevs80Dfias0Cevs80Devs80C|<+05>-5"),
   ("Asia/Seoul",
    "30472 30600 32400 36000 34200|-1948782472|B3gs9k0C127uu3oD8i3fgCgkn8gDd8crgCgkn8gDdb17gCjjk" ++
    "ogDac3ngC2c4e0gB11p3g8Eaeo3gBktqogEauibgBhs8sgEbh0vgBienggEbh0vgBienggEbh0vgBienggEbh0vgBqr" ++
    "logCo6rrooDcm1o0Ch9mo0Dcm1o0C|KST-9"),
   ("Asia/Shanghai",
    "29143 28800 32400|-2177481943|Bh62nqnCe2ojgBje0mcgCb16ngBcjgsgCj3jfgB7dd8gC3btvngBl0f4gCbec" ++
    "jgBg4t0gCgf7fgBevvogCcj9rgBhf30gC272jgB12nhl9gCauibgBh9q8gCclu7gBhs8sgCc3fjgBhs8sgCclu7gBh9" ++
    "q8gCclu7gBh9q8gCclu7gB|CST-8"),
   ("Asia/Singapore",
    "24925 25200 26400 27000 32400 28800|-2038200925|Bpu7i7dC84p5mgDdqud8E3be3n8D124j00gF|<+08>-" ++
    "8"),
   ("Asia/Srednekolymsk",
    "36892 36000 39600 43200|-1441188892|B5okt7sC1fo73jgDf2d3gCevvogDf2d3gCevvogDf2d3gCf2k4gDf03" ++
    "90Cevs80Devs80Cevs80Devs80Cevs80Devs80Cevs80Devs80Cevs80Devs80Cevs80Dfias0Ctvs0gB97a00C5oen" ++
    "gDevs80Cevs80Devs80Cevs80Devs80Cevs80Devs80Cfias0Dh9mo0Ccm1o0Dh9mo0Ccm1o0Dh9mo0Ccm1o0Dhs5c0" ++
    "Cc3j40Dhs5c0Cc3j40Dhs5c0Ccm1o0Dh9mo0Ccm1o0Dh9mo0Ccm1o0Dhs5c0Cc3j40Dhs5c0Cc3j40Dhs5c0Cc3j40D" ++
    "hs5c0Ccm1o0Dh9mo0Ccm1o0Dh9mo0Ccm1o0Dhs5c0Cc3j40D3brbbgC|<+11>-11"),
   ("Asia/Taipei",
    "29160 28800 32400|-2335248360|B178cmb8C7fu400Bje8g0CbecjgBg4t0gCgf7fgBevvogCcj9rgBhf30gCcj9" ++
    "rgBhf30gCcj9rgBhf30gCcj9rgBcgsggCk5sbgBce84gChk4ngBce84gChk4ngBce84gCf2d3gBf2k4gCf2d3gBevvo" ++
    "gCf2d3gBevvogCf2d3gBevvogCf2d3gBk3f0gCa1i7gBk0qkgCa1i7gBbo4ncgCf2d3gBevvogCf2d3gB3gposgC7ie" ++
    "vgB|CST-8"),
   ("Asia/Tashkent",
    "16631 18000 21600 25200|-1441168631|B5okr17C1fo73jgDf2d3gCevvogDf2d3gCevvogDf2d3gCf2k4gDf03" ++
    "90Cevs80Devs80Cevs80Devs80Cevs80Devs80Cevs80Devs80Cevs80Devs80Cevs80Dfias0Ctvs0gB|<+05>-5"),
   ("Asia/Tbilisi",
    "10751 10800 14400 18000|-1441162751|Bus0sifCmkr3bgDf2d3gCevvogDf2d3gCevvogDf2d3gCf2k4gDf039" ++
    "0Cevs80Devs80Cevs80Devs80Cevs80Devs80Cevs80Devs80Cevs80Devs80Cevs80Dfias0Ctvs0gBevl70Cevong" ++
    "BevvogCevongBevvogCtvkvgDevongCfiecgD1f9bngCcm58gDh9j7gCcm58gDhs1rgCc3mkgDhs1rgCc3mkgDhs1rg" ++
    "Ccm58gDh9j7gCcm58gDh9j7gCcm58gD7fqjgCacla0Bc3j40C|<+04>-4"),
   ("Asia/Tehran",
    "12344 12600 16200 14400 18000|-1090466744|B1796tvgChhjs0Dcons8Eauls0D82co0Bg7fk8C9f3jgBf58g" ++
    "gCfaa7gB9v6o8gCbm9ngBevvogCf51fgBetbcgCf51fgBetbcgCf51fgBetbcgCf51fgBetbcgCf51fgBevvogCf51f" ++
    "gBetbcgCf51fgBetbcgCf51fgBetbcgCf51fgBevvogCf51fgBetbcgCf51fgBetbcgCf51fgBetbcgCf51fgBevvog" ++
    "Cf51fgB2b254gCf51fgBevvogCf51fgBetbcgCf51fgBetbcgCf51fgBetbcgCf51fgBevvogCf51fgBetbcgCf51fg" ++
    "BetbcgCf51fgBetbcgCf51fgBevvogCf51fgBetbcgCf51fgBetbcgCf51fgBetbcgCf51fgBevvogCf51fgBetbcgC" ++
    "f51fgB|<+0330>-3:30"),
   ("Asia/Thimphu",
    "21516 19800 21600|-706341516|B15nme1kC|<+06>-6"),
   ("Asia/Tokyo",
    "33539 32400 36000|-2587712400|B1onmng0Cauls0Bgn840Cd8gc0Bjjh80Cac780Bjjh80Cac780B|JST-9"),
   ("Asia/Tomsk",
    "20391 21600 25200 28800|-1578807591|B9rt4i7C1fo73jgDf2d3gCevvogDf2d3gCevvogDf2d3gCf2k4gDf03" ++
    "90Cevs80Devs80Cevs80Devs80Cevs80Devs80Cevs80Devs80Cevs80Devs80Cevs80Dfias0Ctvs0gB97a00C5oen" ++
    "gDevs80Cevs80Devs80Cevs80Devs80Cevs80Devs80Cfias0Dh9mo0Ccm1o0Dh9mo0Ccm1o0Dh9mo0Ccm1o0Dhs5c0" ++
    "Cc3j40Dhs5c0Cc3j40Dhs5c0Ccm1o0D2hnk0Ceo2kgBcm1o0Ch9mo0Bcm1o0Chs5c0Bc3j40Chs5c0Bc3j40Chs5c0B" ++
    "c3j40Chs5c0Bcm1o0Ch9mo0Bcm1o0Ch9mo0Bcm1o0Chs5c0Bc3j40C3brbbgB1fs1cgC|<+07>-7"),
   ("Asia/Ulaanbaatar",
    "25652 25200 28800 32400|-2032931252|B243fri4C4trqvgDf2d3gCf2k4gDevongCevvogDevongCevvogDevo" ++
    "ngCevvogDevongCevvogDevongCevvogDevongCevvogDfi7bgCevvogDevongCevvogDevongCevvogDevongCevvo" ++
    "gDevongCevvogDevongCfiecgDevongCevvogDevongCevvogDevongC2dpchgDclu7gCevvogDevongCevvogDevon" ++
    "gCevvogDevongCevvogDevongCevvogDfi7bgC7vgicgDevhmgCf06pgDevhmgC|<+08>-8"),
   ("Asia/Urumqi",
    "21020 21600|-1325483420|B|<+06>-6"),
   ("Asia/Ust-Nera",
    "34374 28800 32400 43200 39600 36000|-1579426374|B9sfpq6C1fo73jgDf262gEevvogDf2d3gEevvogDf2d" ++
    "3gEf2k4gDf0390Eevs80Devs80Eevs80Devs80Eevs80Devs80Eevs80Devs80Eevs80Devs80Eevs80Dfias0Etvs0" ++
    "gF97a00E5oengDevs80Eevs80Devs80Eevs80Devs80Eevs80Devs80Efias0Dh9mo0Ecm1o0Dh9mo0Ecm1o0Dh9mo0" ++
    "Ecm1o0Dhs5c0Ec3j40Dhs5c0Ec3j40Dhs5c0Ecm1o0Dh9mo0Ecm1o0Dh9mo0Ecm1o0Dhs5c0Ec3j40Dhs5c0Ec3j40D" ++
    "hs5c0Ec3j40Dhs5c0Ecm1o0Dh9mo0Ecm1o0Dh9mo0Ecm1o0Dhs5c0Ec3j40Ddvt6gE2trhlgF|<+10>-10"),
   ("Asia/Vientiane",
    "24624 25590 25200 28800 32400|-2004072624|B4hdotqCtp5ermD227pvgEe2s40C1fev10D7ht9fgC|<+07>-" ++
    "7"),
   ("Asia/Vladivostok",
    "31651 32400 36000 39600|-1487321251|B74krsjC1fo73jgDf2d3gCevvogDf2d3gCevvogDf2d3gCf2k4gDf03" ++
    "90Cevs80Devs80Cevs80Devs80Cevs80Devs80Cevs80Devs80Cevs80Devs80Cevs80Dfias0Ctvs0gB97a00C5oen" ++
    "gDevs80Cevs80Devs80Cevs80Devs80Cevs80Devs80Cfias0Dh9mo0Ccm1o0Dh9mo0Ccm1o0Dh9mo0Ccm1o0Dhs5c0" ++
    "Cc3j40Dhs5c0Cc3j40Dhs5c0Ccm1o0Dh9mo0Ccm1o0Dh9mo0Ccm1o0Dhs5c0Cc3j40Dhs5c0Cc3j40Dhs5c0Cc3j40D" ++
    "hs5c0Ccm1o0Dh9mo0Ccm1o0Dh9mo0Ccm1o0Dhs5c0Cc3j40D3brbbgC|<+10>-10"),
   ("Asia/Yakutsk",
    "31138 28800 32400 36000|-1579423138|B9sfml2C1fo73jgDf2d3gCevvogDf2d3gCevvogDf2d3gCf2k4gDf03" ++
    "90Cevs80Devs80Cevs80Devs80Cevs80Devs80Cevs80Devs80Cevs80Devs80Cevs80Dfias0Ctvs0gB97a00C5oen" ++
    "gDevs80Cevs80Devs80Cevs80Devs80Cevs80Devs80Cfias0Dh9mo0Ccm1o0Dh9mo0Ccm1o0Dh9mo0Ccm1o0Dhs5c0" ++
    "Cc3j40Dhs5c0Cc3j40Dhs5c0Ccm1o0Dh9mo0Ccm1o0Dh9mo0Ccm1o0Dhs5c0Cc3j40Dhs5c0Cc3j40Dhs5c0Cc3j40D" ++
    "hs5c0Ccm1o0Dh9mo0Ccm1o0Dh9mo0Ccm1o0Dhs5c0Cc3j40D3brbbgC|<+09>-9"),
   ("Asia/Yangon",
    "23087 23400 32400|-1577946287|Bl01267C2qequoB|<+0630>-6:30"),
   ("Asia/Yekaterinburg",
    "14553 13505 14400 18000 21600|-1688270553|B2r7a6oCa92iq1D1fo73jgEf2d3gDevvogEf2d3gDevvogEf2" ++
    "d3gDf2k4gEf0390Devs80Eevs80Devs80Eevs80Devs80Eevs80Devs80Eevs80Devs80Eevs80Devs80Efias0Dtvs" ++
    "0gC97a00D5oengEevs80Devs80Eevs80Devs80Eevs80Devs80Eevs80Dfias0Eh9mo0Dcm1o0Eh9mo0Dcm1o0Eh9mo" ++
    "0Dcm1o0Ehs5c0Dc3j40Ehs5c0Dc3j40Ehs5c0Dcm1o0Eh9mo0Dcm1o0Eh9mo0Dcm1o0Ehs5c0Dc3j40Ehs5c0Dc3j40" ++
    "Ehs5c0Dc3j40Ehs5c0Dcm1o0Eh9mo0Dcm1o0Eh9mo0Dcm1o0Ehs5c0Dc3j40E3brbbgD|<+05>-5"),
   ("Asia/Yerevan",
    "10680 10800 14400 18000|-1441162680|Bus0sg8Cmkr3bgDf2d3gCevvogDf2d3gCevvogDf2d3gCf2k4gDf039" ++
    "0Cevs80Devs80Cevs80Devs80Cevs80Devs80Cevs80Devs80Cevs80Devs80Cevs80Dfias0Ctvs0gBevs80Cevs80" ++
    "Bevs80Cevs80Bevs80Cevs80Bevs80C1shs3gDh9mo0Ccm1o0Dh9mo0Ccm1o0Dhs5c0Cc3j40Dhs5c0Cc3j40Dhs5c0" ++
    "Ccm1o0Dh9mo0Ccm1o0Dh9mo0Ccm1o0Dhs5c0Cc3j40Dhs5c0Cc3j40Dhs5c0Cc3j40Dhs5c0Ccm1o0Dh9mo0Ccm1o0D" ++
    "h9mo0Ccm1o0Dhs5c0Cc3j40Dhs5c0C|<+04>-4")]

end ClusterMetrics.Zone.Table
