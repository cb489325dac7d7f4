/-! # Zones of the oceans, Australia and the polar regions

Each entry pairs a zone name with its encoded history. -/

namespace ClusterMetrics.Zone.Table

/-- The zones of the **oceans, Australia and the polar regions**. -/
def oceans : List (String × String) :=
  [("Antarctica/Casey",
    "0 28800 39600|-31536000|B16bmed0Cbbh6gB1hjk9gC9kcbgB4ccrfgC19jksgBha19gCd82a0Bgi9tgCcqvugBh" ++
    "9mpsCd85okBgnincCd85okBgnincCd0j64B|<+08>-8"),
   ("Antarctica/Davis",
    "0 25200 18000|-409190400|B7an7ogA3vvivgB1694q9gCbrpggB1h3bvgC9kjcgB|<+07>-7"),
   ("Antarctica/DumontDUrville",
    "0 36000|-725846400|B4nfqf0A4gf8h0B|<+10>-10"),
   ("Antarctica/Macquarie",
    "0 36000 39600|-2214259200|Bft0ok0Ceddk0B1sn1b0Ar89ct0Bibc980Cevs80Bh9mo0Cauls0Bj12k0Cauls0B" ++
    "j12k0Cbh4g0Bj12k0C9pok0Bk5vs0Cac780Bjjh80Cac780Bjjh80Cac780Bjjh80Cauls0Bjjh80Cac780Bjjh80Ca" ++
    "c780Bjjh80Cac780Bjjh80Cac780Bjjh80Cac780Bjjh80Ccm1o0Bhs5c0Cc3j40Bhs5c0Cac780Bjjh80Cac780Bjj" ++
    "h80Cac780Bj12k0Cc3j40Biek00Cc3j40Biek00Cbh4g0Biek00Cbh4g0Biek00Ccm1o0Bfias0Ceddk0Bfias0Cedd" ++
    "k0Bfias0Ceddk0Bfias0Ceddk0Bfias0Cevs80Bfias0Ceddk0Bfias0Ceddk0Bfias0Ceddk0Bfias0Ceddk0Bcm1o" ++
    "0Ch9mo0Bg4pg0Ceddk0Bfias0Ceddk0Bfias0Ceddk0Bfias0Ceddk0Bfias0Cevs80Bevs80Ceddk0Bg4pg0Cevs80" ++
    "Bevs80Cevs80Bevs80C1cvko0B|AEST-10AEDT,M10.1.0,M4.1.0/3"),
   ("Antarctica/Mawson",
    "0 21600 18000|-501206400|B1kbjru0C|<+05>-5"),
   ("Antarctica/McMurdo",
    "0 43200 46800|-441849600|Bhmu570C97a00Bk5vs0Cauls0Bjjh80Cac780Bjjh80Cac780Bjjh80Cac780Bjjh8" ++
    "0Cac780Bjjh80Cac780Bjjh80Cauls0Bjjh80Cac780Bjjh80Cac780Bjjh80Cac780Bjjh80Cac780Bjjh80Cac780" ++
    "Bjjh80Cauls0Bjjh80Cac780Bhs5c0Cd8gc0Bgn840Cd8gc0Bgn840Cd8gc0Bgn840Cdqv00Bg4pg0Cdqv00Bg4pg0C" ++
    "dqv00Bg4pg0Cdqv00Bgn840Cd8gc0Bgn840Cd8gc0Bgn840Cdqv00Bg4pg0Cdqv00Bg4pg0Cdqv00Bgn840Cd8gc0Bg" ++
    "n840Cd8gc0Bgn840Cdqv00Bg4pg0Cdqv00Bg4pg0Cdqv00Bg4pg0Cdqv00Bg4pg0C|NZST-12NZDT,M9.5.0,M4.1.0" ++
    "/3"),
   ("Antarctica/Palmer",
    "0 -10800 -14400 -7200|-157766400|B4rslgCip90gBb93rgCip90gBdtfrgCevvogBfi7bgCevvogBevongCevv" ++
    "ogB41e5jgD8297gB7goj8gCdb88gBclu7gCh9q8gBclu7gChs8sgBc3fjgChs8sgBc3fjgChs8sgBevongCevvogBcl" ++
    "u7gCh9q8gBclu7gChs8sgBc3fjgCfiecgBeda3gChs8sgBclu7gCh9q8gBclu7gCh9q8gBclu7gCh9q8gBclu7gChs8" ++
    "sgBc3fjgChs8sgBdqrfgCg4t0gBclu7gCg4t0gBfi7bgCfiecgBclu7gChs8sgBc3fjgChs8sgBc3fjgChs8sgBc3fj" ++
    "gChs8sgBclu7gCh9q8gBclu7gCh9q8gBclu7gChs8sgBc3fjgChs8sgBdqrfgCg4t0gBclu7gCh9q8gBeda3gCfiecg" ++
    "Bh9j7gC8kusgBkoavgCacaogBjjdngCaupcgBj0v3gCaupcgB1io3fgC7g1kgB|<-03>3"),
   ("Antarctica/Rothera",
    "0 -10800|218246400|B|<-03>3"),
   ("Antarctica/Syowa",
    "0 10800|-407808000|B|<+03>-3"),
   ("Antarctica/Troll",
    "0 7200|1111885200|B|<+00>0<+02>-2,M3.5.0/1,M10.5.0/3"),
   ("Antarctica/Vostok",
    "0 25200 18000|-380073600|B11v9bsgAmgivgBrcjg1gC|<+05>-5"),
   ("Atlantic/Azores",
    "-6160 -6872 -7200 -3600 0 3600|-2713904240|Bqaj3ogC469nngDb6mggC9sd00Dip1vgCb9asgDip1vgCb9a" ++
    "sgDip1vgCbbv8gDip1vgCb9asgDip1vgC2bcj40De2s40C1e4i00Ddqv00Cfias0Deddk0Cg4pg0Deddk0Cg4pg0Ddq" ++
    "v00C1e4i00Ddqv00Cevs80Devs80C1di3c0Devs80Ceddk0Dfias0Cg4pg0Ddqv00Cevs80Devs80Ceddk0Dfias0Cg" ++
    "4pg0Dhs5c0C82co0Dijso0Ceqjg0Df2gk0Cd5s00D3ek7gE97a00D5ologCbh4g0D2s5jgEauls0D5674gCauls0D3e" ++
    "k7gEac780D5674gCauls0D3ek7gEac780D5674gCd8gc0Devs80Cf06pgDevs80Cevs80Devs80Cevs80Devs80Cevs" ++
    "80Devs80Cevs80Dfias0Cevs80Devs80Cevs80Devs80Cevs80Devs80Cevs80Devs80Cevs80Dfias0Cevs80Devs8" ++
    "0Cevs80Devs80Cevs80Devs80Cevs80Devs80Cevs80Devs80Cevs80Dfias0Cevs80Devs80Cevs80Devs80Cevs80" ++
    "Devs80Cevs80Df10qmgEevs80Devs80Eevs80Devs80Efias0Devs80Eevs80Devs80Eevs80Devs80Eevs80Devs80" ++
    "Eevs80Devs80Eevs80Devs80Efias0Devs80Eevs80Devs80Eevs80D7g1kgE7fqjgF6lic0E8a9s0Devs80Eevs80D" ++
    "evs80Eevs80Dfias0E|<-01>1<+00>,M3.5.0/0,M10.5.0/1"),
   ("Atlantic/Bermuda",
    "-15558 -11958 -14400 -10800|-1664307642|Bel77gAg28kgBcoijgAajspdgCb9v27qDn25fgCcm58gDiegfgC" ++
    "aupcgDjjdngCacaogDjjdngC1e4lggD9pl3gCkoi0gD8knrgClb0kgD8knrgCltf8gD8297gCltf8gD8297gCltf8gD" ++
    "8knrgC3fsoogDclu7gCgejc4gDevongCevvogDevongCevvogDfi7bgCedh4gDfi7bgCevvogDevongCevvogDevong" ++
    "CevvogDevongCevvogDevongCevvogDfi7bgCedh4gDfi7bgCevvogDevongCevvogDevongCevvogDevongCd8jsgD" ++
    "gn4jgCd8jsgDh9j7gCcm58gDh9j7gCcm58gDh9j7gCd8jsgDgn4jgCd8jsgDgn4jgCd8jsgDh9j7gCcm58gDh9j7gCc" ++
    "m58gDh9j7gCd8jsgDgn4jgCd8jsgDgn4jgCd8jsgDgn4jgCd8jsgDh9j7gCcm58gDh9j7gCcm58gDh9j7gCd8jsgDgn" ++
    "4jgCd8jsgDgn4jgCd8jsgDh9j7gCcm58gDh9j7gCcm58gDh9j7gCaupcgD|AST4ADT,M3.2.0,M11.1.0"),
   ("Atlantic/Canary",
    "-3696 -3600 0 3600|-1509663504|Bn3r6hgCvgmfn0Dedh4gCevs80Devs80Cevs80Devs80Cevs80Devs80Cevs" ++
    "80Dfias0Cevs80Devs80Cevs80Devs80Cevs80Devs80Cevs80Devs80Cevs80Devs80Cevs80Dfias0Cevs80Devs8" ++
    "0Cevs80Devs80Cevs80Devs80Cevs80Devs80Cevs80Devs80Cfias0D|WET0WEST,M3.5.0/1,M10.5.0"),
   ("Atlantic/Cape_Verde",
    "-5644 -7200 -3600|-1830376800|Bsqtsc0C2ttnvgBsa6upgC|<-01>1"),
   ("Atlantic/Faroe",
    "-1624 0 3600|-1955748776|B24rchpoCevs80Bevs80Cevs80Bevs80Cevs80Bevs80Cfias0Bevs80Cevs80Bevs" ++
    "80Cevs80Bevs80Cevs80Bevs80Cevs80Bevs80Cevs80Bevs80Cfias0Bevs80Cevs80Bevs80Cevs80Bevs80Cevs8" ++
    "0Bevs80Cevs80Bevs80Cevs80Bfias0C|WET0WEST,M3.5.0/1,M10.5.0"),
   ("Atlantic/Madeira",
    "-4056 -3600 0 3600|-1830380400|B469nngCb6mggB9sd00Cip1vgBb9asgCip1vgBb9asgCip1vgBbbv8gCip1v" ++
    "gBb9asgCip1vgB2bcj40Ce2s40B1e4i00Cdqv00Bfias0Ceddk0Bg4pg0Ceddk0Bg4pg0Cdqv00B1e4i00Cdqv00Bev" ++
    "s80Cevs80B1di3c0Cevs80Beddk0Cfias0Bg4pg0Cdqv00Bevs80Cevs80Beddk0Cfias0Bg4pg0Chs5c0B82co0Cij" ++
    "so0Beqjg0Cf2gk0Bd5s00C3ek7gD97a00C5ologBbh4g0C2s5jgDauls0C5674gBauls0C3ek7gDac780C5674gBaul" ++
    "s0C3ek7gDac780C5674gBd8gc0Cevs80Bf06pgCevs80Bevs80Cevs80Bevs80Cevs80Bevs80Cevs80Bevs80Cfias" ++
    "0Bevs80Cevs80Bevs80Cevs80Bevs80Cevs80Bevs80Cevs80Bevs80Cfias0Bevs80Cevs80Bevs80Cevs80Bevs80" ++
    "Cevs80Bevs80Cevs80Bevs80Cevs80Bevs80Cfias0Bevs80Cevs80Bevs80Cevs80Bevs80Cevs80Bevs80Cf1j9ag" ++
    "Deddk0Cevs80Devs80Cevs80Dfias0Cevs80Devs80Cevs80DevvogCevs80Devs80Cevs80Devs80Cevs80Devs80C" ++
    "evs80Dfias0Cevs80Devs80Cevs80Devs80Cevs80Devs80Cevs80Devs80Cevs80Devs80Cfias0D|WET0WEST,M3." ++
    "5.0/1,M10.5.0"),
   ("Atlantic/Reykjavik",
    "-5280 -3600 0|-1956609120|B8j16j0Ck0qkgBa1i7gCm5ccgB7t0fgCm5ccgB18bs7gC7qj4gBgp79fgCf0390B9" ++
    "ps4gCkoavgB9pok0Ck5vs0Bac780Cj12k0Bauls0Cj12k0Bauls0Cj12k0Bauls0Cjjh80Bac780Cjjh80Bd8gc0Cgn" ++
    "840Bd8gc0Cgn840Bd8gc0Ch9mo0Bcm1o0Cgn840Bd8gc0Ch9mo0Bd8gc0Cgn840Bd8gc0Cgn840Bd8gc0Cgn840Bd8g" ++
    "c0Cgn840Bd8gc0Ch9mo0Bd8gc0Cgn840Bd8gc0Cgn840Bd8gc0Cgn840Bd8gc0Cgn840Bd8gc0Cgn840Bd8gc0Ch9mo" ++
    "0Bd8gc0Cgn840Bd8gc0Cgn840Bd8gc0Cgn840Bd8gc0Cgn840Bd8gc0Ch9mo0Bd8gc0C|GMT0"),
   ("Atlantic/South_Georgia",
    "-8768 -7200|-2524512832|B|<-02>2"),
   ("Atlantic/St_Helena",
    "-1368 0|-599614632|B|GMT0"),
   ("Atlantic/Stanley",
    "-13884 -14400 -10800 -7200|-1824235716|Bo0lus4Ceda3gBfiecgCeda3gBg4t0gCeda3gBfiecgCeda3gBfi" ++
    "ecgCeda3gBfiecgC7t0fgB15tmv8gCc3fjgDhs1rgCbh80gDiegfgCtddcgBc3mkgChs1rgBc3mkgChs1rgBc3mkgCh" ++
    "s1rgBc3mkgCiegfgBbh80gCiegfgBc3mkgChs1rgBc3mkgChs1rgBc3mkgChs1rgBc3mkgChs1rgBc3mkgCiegfgBc3" ++
    "mkgChs1rgBc3mkgChs1rgBc3mkgChs1rgBc3mkgChs1rgBc3mkgChs8sgBbh80gCj0v3gBaupcgCj0v3gBbh80gCieg" ++
    "fgBbh80gCiegfgBbh80gCiegfgBbh80gCiegfgBbh80gCj0v3gBbh80gCiegfgBbh80gCiegfgBbh80gC|<-03>3"),
   ("Australia/Adelaide",
    "33260 32400 34200 37800|-2364110060|B3vmu2sCgjphgoD6qr40Cn9h100D75ck0Cevs80Devs80Cfias0Dedd" ++
    "k0Cpui400D9pok0Ck5vs0Dac780Cjjh80Dac780Cjjh80Dac780Cjjh80Dauls0Cjjh80Dac780Cjjh80Dac780Cjjh" ++
    "80Dac780Cjjh80Dac780Cjjh80Dac780Cjjh80Dauls0Cjjh80Dac780Cjjh80Dac780Cjjh80Dac780Cjjh80Dbh4g" ++
    "0Chs5c0Dc3j40Ciek00Dc3j40Ciek00Dbh4g0Ciek00Dbh4g0Ciek00Dac780Cjjh80Dc3j40Chs5c0Dauls0Cjjh80" ++
    "Dbh4g0Ciek00Dc3j40Chs5c0Dcm1o0Ch9mo0Dcm1o0Ch9mo0Dcm1o0Ch9mo0Dcm1o0Chs5c0Dc3j40Chs5c0Dc3j40C" ++
    "hs5c0Dcm1o0Ch9mo0Dcm1o0Ch9mo0Dcm1o0Chs5c0Dc3j40Chs5c0Dcm1o0Ch9mo0Dc3j40Chs5c0D|ACST-9:30ACD" ++
    "T,M10.1.0,M4.1.0/3"),
   ("Australia/Brisbane",
    "36728 36000 39600|-2366791928|Bkm28roC6qr40Bn9h100C75ck0Bevs80Cevs80Bfias0Ceddk0Bpui400C9po" ++
    "k0Bgjpc80Cac780Bjjh80Cac780Bjjh80Cac780B|AEST-10"),
   ("Australia/Broken_Hill",
    "33948 36000 32400 34200 37800|-2364110748|B1es7bsC2gqncgDgjphgoE6qr40Dn9h100E75ck0Devs80Eev" ++
    "s80Dfias0Eeddk0Dpui400E9pok0Dk5vs0Eac780Djjh80Eac780Djjh80Eac780Djjh80Eauls0Djjh80Eac780Djj" ++
    "h80Eac780Djjh80Eac780Djjh80Eac780Djjh80Eac780Djjh80Ed8gc0Dh9mo0Eac780Djjh80Eac780Djjh80Eac7" ++
    "80Djjh80Ebh4g0Dhs5c0Ec3j40Diek00Ec3j40Diek00Ebh4g0Diek00Eac780Djjh80Eac780Djjh80Eac780Djjh8" ++
    "0Eauls0Djjh80Eac780Djjh80Eac780Djjh80Ecm1o0Dh9mo0Ecm1o0Dh9mo0Ecm1o0Dh9mo0Ecm1o0Dhs5c0Ec3j40" ++
    "Dhs5c0Ec3j40Dhs5c0Ecm1o0Dh9mo0Ecm1o0Dh9mo0Ecm1o0Dhs5c0Ec3j40Dhs5c0Ecm1o0Dh9mo0Ec3j40Dhs5c0E" ++
    "|ACST-9:30ACDT,M10.1.0,M4.1.0/3"),
   ("Australia/Darwin",
    "31400 32400 34200 37800|-2364108200|B3vms8oCgjphgoD6qr40Cn9h100D75ck0Cevs80Devs80Cfias0Dedd" ++
    "k0C|ACST-9:30"),
   ("Australia/Eucla",
    "30928 31500 35100|-2337928528|Bjqhib4C6qr40Bn9h100C75ck0Bevs80Cevs80Btmh600Cac780B84mig0Cac" ++
    "780B77rn80C8krc0Bds3t80C97a00Bhs5c0Ccm1o0Bh9mo0Ccm1o0B|<+0845>-8:45"),
   ("Australia/Hobart",
    "35356 36000 39600|-2345795356|BjqetssCeddk0Bhs5c0Cac780Bjjh80Cac780Blf8rs0C75ck0Bevs80Cevs8" ++
    "0Bfias0Ceddk0Bm3mos0Cevs80Bh9mo0Cauls0Bj12k0Cauls0Bj12k0Cbh4g0Bj12k0C9pok0Bk5vs0Cac780Bjjh8" ++
    "0Cac780Bjjh80Cac780Bjjh80Cauls0Bjjh80Cac780Bjjh80Cac780Bjjh80Cac780Bjjh80Cac780Bjjh80Cac780" ++
    "Bjjh80Ccm1o0Bhs5c0Cc3j40Bhs5c0Cac780Bjjh80Cac780Bjjh80Cac780Bj12k0Cc3j40Biek00Cc3j40Biek00C" ++
    "bh4g0Biek00Cbh4g0Biek00Ccm1o0Bfias0Ceddk0Bfias0Ceddk0Bfias0Ceddk0Bfias0Ceddk0Bfias0Cevs80Bf" ++
    "ias0Ceddk0Bfias0Ceddk0Bfias0Ceddk0Bfias0Ceddk0Bcm1o0Ch9mo0Bg4pg0Ceddk0Bfias0Ceddk0Bfias0Ced" ++
    "dk0Bfias0Ceddk0Bfias0Cevs80Bevs80Ceddk0Bg4pg0C|AEST-10AEDT,M10.1.0,M4.1.0/3"),
   ("Australia/Lindeman",
    "35756 36000 39600|-2366790956|Bkm27tcC6qr40Bn9h100C75ck0Bevs80Cevs80Bfias0Ceddk0Bpui400C9po" ++
    "k0Bgjpc80Cac780Bjjh80Cac780Bjjh80Cac780Bjjh80Cauls0Bjjh80Cac780B|AEST-10"),
   ("Australia/Lord_Howe",
    "38180 36000 37800 41400 39600|-2364114980|B2gufro4CjjmgoDauibgCjjkogDac3ngCjjkogDac3ngCjjko" ++
    "gDac3ngCjjkogEbh2noChs748Ec3hboCielo8Ec3hboCielo8Ebh2noCielo8Eac5foCjjj08Eac5foCjjj08Eac5fo" ++
    "Cjjj08Eauk3oCjjj08Eac5foCjjj08Eac5foCjjj08EclvvoCh9og8EclvvoCh9og8EclvvoCh9og8EclvvoChs748E" ++
    "c3hboCcm3g8Eh9kvoChs748EclvvoCh9og8EclvvoCh9og8EclvvoChs748Ec3hboChs748EclvvoCh9og8Ec3hboCh" ++
    "s748E|<+1030>-10:30<+11>-11,M10.1.0,M4.1.0"),
   ("Australia/Melbourne",
    "34792 36000 39600|-2364111592|Bkjgfb8C6qr40Bn9h100C75ck0Bevs80Cevs80Bfias0Ceddk0Bpui400C9po" ++
    "k0Bk5vs0Cac780Bjjh80Cac780Bjjh80Cac780Bjjh80Cauls0Bjjh80Cac780Bjjh80Cac780Bjjh80Cac780Bjjh8" ++
    "0Cac780Bjjh80Cac780Bjjh80Cauls0Bjjh80Cac780Bjjh80Cac780Bjjh80Cac780Bjjh80Cbh4g0Bhs5c0Cc3j40" ++
    "Bhs5c0Ccm1o0Biek00Cbh4g0Biek00Cbh4g0Biek00Cac780Bjjh80Cac780Bjjh80Cauls0Bjjh80Cac780Bjjh80C" ++
    "c3j40Bhs5c0Ccm1o0Bh9mo0Ccm1o0Bh9mo0Ccm1o0Bh9mo0Ccm1o0Bhs5c0Cc3j40Bcm1o0Ch9mo0Bhs5c0Ccm1o0Bh" ++
    "9mo0Ccm1o0Bh9mo0Ccm1o0Bhs5c0Cc3j40Bhs5c0Ccm1o0Bh9mo0Cc3j40Bhs5c0C|AEST-10AEDT,M10.1.0,M4.1." ++
    "0/3"),
   ("Australia/Perth",
    "27804 28800 32400|-2337925404|BjqhhtsC6qr40Bn9h100C75ck0Bevs80Cevs80Btmh600Cac780B84mig0Cac" ++
    "780B77rn80C8krc0Bds3t80C97a00Bhs5c0Ccm1o0Bh9mo0Ccm1o0B|AWST-8"),
   ("Australia/Sydney",
    "36292 36000 39600|-2364113092|Bkjggq4C6qr40Bn9h100C75ck0Bevs80Cevs80Bfias0Ceddk0Bpui400C9po" ++
    "k0Bk5vs0Cac780Bjjh80Cac780Bjjh80Cac780Bjjh80Cauls0Bjjh80Cac780Bjjh80Cac780Bjjh80Cac780Bjjh8" ++
    "0Cac780Bjjh80Cac780Bjjh80Cd8gc0Bh9mo0Cac780Bjjh80Cac780Bjjh80Cac780Bjjh80Cbh4g0Bhs5c0Cc3j40" ++
    "Biek00Cc3j40Biek00Cbh4g0Biek00Cac780Bjjh80Cac780Bjjh80Cac780Bjjh80Cauls0Bjjh80Cac780Bjjh80C" ++
    "ac780Bjjh80Ccm1o0Bh9mo0Ccm1o0Bh9mo0Ccm1o0Bh9mo0Ccm1o0Bhs5c0Cc3j40Bcm1o0Ch9mo0Bhs5c0Ccm1o0Bh" ++
    "9mo0Ccm1o0Bh9mo0Ccm1o0Bhs5c0Cc3j40Bhs5c0Ccm1o0Bh9mo0Cc3j40Bhs5c0C|AEST-10AEDT,M10.1.0,M4.1." ++
    "0/3"),
   ("Indian/Antananarivo",
    "11404 10800 14400|-1846293004|B183vsmcC7fu40B|EAT-3"),
   ("Indian/Chagos",
    "17380 18000 21600|-1988167780|B2jmfpgkC|<+06>-6"),
   ("Indian/Christmas",
    "25372 25200|-2364102172|B|<+07>-7"),
   ("Indian/Cocos",
    "23260 23400|-2209012060|B|<+0630>-6:30"),
   ("Indian/Comoro",
    "10384 10800|-1846291984|B|EAT-3"),
   ("Indian/Kerguelen",
    "0 18000|-631152000|B|<+05>-5"),
   ("Indian/Mahe",
    "13308 14400|-1988163708|B|<+04>-4"),
   ("Indian/Maldives",
    "17640 18000|-315636840|B|<+05>-5"),
   ("Indian/Mauritius",
    "13800 14400 18000|-1988164200|B278dpt8Cdb17gBo2g95gCclu7gB|<+04>-4"),
   ("Indian/Mayotte",
    "10856 10800|-1846292456|B|EAT-3"),
   ("Indian/Reunion",
    "13312 14400|-1848886912|B|<+04>-4"),
   ("Pacific/Apia",
    "45184 -41216 -41400 -39600 -36000 50400 46800|-2445424384|Bhcgco0C14lo21oD1p3q8roEfg11gDedd" ++
    "k0E7vaa0F7j0i0Gevs80Ffias0Geddk0Ffias0Geddk0Ffias0Geddk0Ffias0Geddk0Ffias0Geddk0Ffias0Gevs8" ++
    "0Ffias0Geddk0Ffias0Geddk0Ffias0G|<+13>-13"),
   ("Pacific/Auckland",
    "41944 41400 45000 43200 46800|-3192435544|B1nfqpi0C9pl3gBienggDclvvoBh9og8DclvvoBh9og8Dclvv" ++
    "oBh9og8Dd8ejoBgn9s8Dd8ejoBgn9s8Dgn6boBcm3g8Dh9kvoBcm3g8Dh9kvoBcm3g8Dh9kvoBcm3g8Dh9kvoBcm3g8" ++
    "Dhs3joBc3ks8Dhs3joBcm3g8D102303oE97a00Dk5vs0Eauls0Djjh80Eac780Djjh80Eac780Djjh80Eac780Djjh8" ++
    "0Eac780Djjh80Eac780Djjh80Eauls0Djjh80Eac780Djjh80Eac780Djjh80Eac780Djjh80Eac780Djjh80Eac780" ++
    "Djjh80Eauls0Djjh80Eac780Dhs5c0Ed8gc0Dgn840Ed8gc0Dgn840Ed8gc0Dgn840Edqv00Dg4pg0Edqv00Dg4pg0E" ++
    "dqv00Dg4pg0Edqv00Dgn840Ed8gc0Dgn840Ed8gc0Dgn840Edqv00Dg4pg0Edqv00Dg4pg0Edqv00Dgn840Ed8gc0Dg" ++
    "n840Ed8gc0Dgn840Edqv00Dg4pg0Edqv00Dg4pg0Edqv00Dg4pg0Edqv00Dg4pg0E|NZST-12NZDT,M9.5.0,M4.1.0" ++
    "/3"),
   ("Pacific/Bougainville",
    "37336 35312 36000 32400 39600|-2840178136|Be3ekj8C1clb4egD2ugdkgC2176qkgE|<+11>-11"),
   ("Pacific/Chatham",
    "44028 44100 45900 49500|-3192437628|B28i6khoCr3spp4D97a00Ck5vs0Dauls0Cjjh80Dac780Cjjh80Dac7" ++
    "80Cjjh80Dac780Cjjh80Dac780Cjjh80Dac780Cjjh80Dauls0Cjjh80Dac780Cjjh80Dac780Cjjh80Dac780Cjjh8" ++
    "0Dac780Cjjh80Dac780Cjjh80Dauls0Cjjh80Dac780Chs5c0Dd8gc0Cgn840Dd8gc0Cgn840Dd8gc0Cgn840Ddqv00" ++
    "Cg4pg0Ddqv00Cg4pg0Ddqv00Cg4pg0Ddqv00Cgn840Dd8gc0Cgn840Dd8gc0Cgn840Ddqv00Cg4pg0Ddqv00Cg4pg0D" ++
    "dqv00Cgn840Dd8gc0Cgn840Dd8gc0Cgn840Ddqv00Cg4pg0Ddqv00Cg4pg0Ddqv00Cg4pg0Ddqv00Cg4pg0D|<+1245" ++
    ">-12:45<+1345>,M9.5.0/2:45,M4.1.0/3:45"),
   ("Pacific/Chuuk",
    "-49972 36428 36000 32400|-3944628428|B1kl8ps0Cctmv9cD42glggCkr043gD42e14gC|<+10>-10"),
   ("Pacific/Easter",
    "-26248 -25200 -21600 -18000|-1178124152|B120jutoCc3fjgBjjkogCac3ngBg4t0gCclu7gBh9q8gCclu7gB" ++
    "hs8sgCc3fjgBgnbkgCd8crgBhs8sgCc3fjgBhs8sgCclu7gBh9q8gCclu7gBh9q8gCclu7gBhs8sgCc3fjgBhs8sgCc" ++
    "3fjgBhs8sgCclu7gBh9q8gCtvog0Dclu7gCh9q8gDclu7gChs8sgDc3fjgChs8sgDc3fjgChs8sgDevongCevvogDcl" ++
    "u7gCh9q8gDclu7gChs8sgDc3fjgCfiecgDeda3gChs8sgDclu7gCh9q8gDclu7gCh9q8gDclu7gCh9q8gDclu7gChs8" ++
    "sgDc3fjgChs8sgDdqrfgCg4t0gDclu7gCg4t0gDfi7bgCfiecgDclu7gChs8sgDc3fjgChs8sgDc3fjgChs8sgDc3fj" ++
    "gChs8sgDclu7gCh9q8gDclu7gCh9q8gDclu7gChs8sgDc3fjgChs8sgDdqrfgCg4t0gDclu7gCh9q8gDeda3gCfiecg" ++
    "Dh9j7gC8kusgDkoavgCacaogDjjdngCaupcgDj0v3gCaupcgD1io3fgC7g1kgDmfmrgC7g1kgDmfmrgC7g1kgDjjdng" ++
    "Ccm58gDh9j7gCcm58gDh9j7gCcm58gDh9j7gCd8jsgD|<-06>6<-05>,M9.1.6/22,M4.1.6/22"),
   ("Pacific/Efate",
    "40396 39600 43200|-1829387596|B1q87lkcC82co0B8tgasgCevongBevvogCevongBfiecgCeda3gBfiecgCevo" ++
    "ngBevvogCevongBevvogCevongBevvogCevongBevvogCevongBfiecgC9pl3gBmftsgC7fqjgB|<+11>-11"),
   ("Pacific/Fakaofo",
    "-41096 -39600 46800|-2177411704|B38cch18C|<+13>-13"),
   ("Pacific/Fiji",
    "42944 43200 46800|-1709985344|B2e2eph0C9pok0Bkoeg0C97a00B95ik40C9pok0Bh9mo0Cauls0Bj12k0C7fu" ++
    "40Bmfqc0C7fu40Bn2900C6tbvgBnkr4gC6b0s0Bnknk0C6b0s0Bo7680C5oi80Bo7680C5oi80Bo7680C5oi80Bopks" ++
    "0C563k0Bs8ck0C29qg0B|<+12>-12"),
   ("Pacific/Funafuti",
    "43012 43200|-2177495812|B|<+12>-12"),
   ("Pacific/Galapagos",
    "-21504 -18000 -21600|-1230746496|B1jn8tugC6fshkgB5lqbgC|<-06>6"),
   ("Pacific/Gambier",
    "-32388 -32400|-1806678012|B|<-09>9"),
   ("Pacific/Guadalcanal",
    "38388 39600|-1806748788|B|<+11>-11"),
   ("Pacific/Guam",
    "-51660 34740 36000 32400 39600|-3944626740|B1kl8ps0C16g2q4kD2fdt0gCe0id0gE1fuengC6681ogE1a8" ++
    "9scCc3tjkE5oengCjjkogEauibgCj164gEauibgC24kfsgE5oengC23nfogE77thcCk63akEac3ngC|ChST-10"),
   ("Pacific/Honolulu",
    "-37886 -37800 -34200 -36000|-2334101314|B1329kkaC1obggB86fj3gC3dg2rgB1ioaggD|HST10"),
   ("Pacific/Kanton",
    "0 -43200 -39600 46800|-1020470400|B17iiaa0Ceaud7gD|<+13>-13"),
   ("Pacific/Kiritimati",
    "-37760 -38400 -36000 50400|-2177415040|B2a1tac0Ceaued0D|<+14>-14"),
   ("Pacific/Kosrae",
    "-47284 39116 39600 32400 36000 43200|-3944631116|B1kl8ps0CctmucsD42gp10Cgr6ev0E3vpl4gD42e14" ++
    "gCmna330FrgaivgC|<+11>-11"),
   ("Pacific/Kwajalein",
    "40160 39600 36000 32400 -43200 43200|-2177492960|B11re7dgC3vpl4gD2lotsgBo3v6b0EmevsngF|<+12" ++
    ">-12"),
   ("Pacific/Majuro",
    "41088 39600 32400 36000 43200|-2177493888|Bctn0agC42gp10Bgr6ev0D3vpl4gC2l6f8gBo4hkv0E|<+12>" ++
    "-12"),
   ("Pacific/Marquesas",
    "-33480 -34200|-1806676920|B|<-0930>9:30"),
   ("Pacific/Midway",
    "-42568 -39600 -36000|-2177410232|B1k3sbr8C7fqjgB|SST11"),
   ("Pacific/Nauru",
    "40060 41400 32400 43200|-1545131260|Bkajfm4C2r4fh8Bvdt07oD|<+12>-12"),
   ("Pacific/Niue",
    "-40780 -40800 -39600|-543069620|Bb0ajgkC|<-11>11"),
   ("Pacific/Norfolk",
    "40312 40320 41400 45000 39600 43200|-2177493112|B1f0no7oCmcrkf8Dac780C165jvo0E3ohic8F|<+11>" ++
    "-11<+12>,M10.1.0,M4.1.0/3"),
   ("Pacific/Noumea",
    "39948 39600 43200|-1829387148|B1tv1tesC700bgBmvo4gC72kngBgmgn5gC7fu40B|<+11>-11"),
   ("Pacific/Pago_Pago",
    "45432 -40968 -39600|-2445424632|Bhcgco0C|SST11"),
   ("Pacific/Palau",
    "-54124 32276 32400|-3944624276|B1kl8ps0C|<+09>-9"),
   ("Pacific/Pitcairn",
    "-31220 -30600 -28800|-2177421580|B2rgq4okC|<-08>8"),
   ("Pacific/Pohnpei",
    "-48428 37972 39600 32400 36000|-3944629972|B1kl8ps0Cctmt94D42gp10Cgr6ev0E3vpl4gD42e14gC|<+1" ++
    "1>-11"),
   ("Pacific/Port_Moresby",
    "35320 35312 36000|-2840176120|Be3eik8C|<+10>-10"),
   ("Pacific/Rarotonga",
    "48056 -38344 -37800 -34200 -36000|-2209555256|B1hl9100Coglej0D976fgEjjj08Dac5foEjjj08Dac5fo" ++
    "Ejjj08Dauk3oEjjj08Dac5foEjjj08Dac5foEjjj08Dac5foEjjj08Dac5foEjjj08Dac5foEjjj08Dauk3oEjjj08D" ++
    "ac5foEjjj08Dac5foEjjj08Dac5foE|<-10>10"),
   ("Pacific/Saipan",
    "-51420 34980 32400 36000 39600|-3944626980|B1kl8ps0C18tmn4kDe2cd8gE1fuengD6681ogE1a89scDc3t" ++
    "jkE5oengDjjkogEauibgDj164gEauibgD24kfsgE5oengD23nfogE77thcDk63akEac3ngD|ChST-10"),
   ("Pacific/Tahiti",
    "-35896 -36000|-1806674504|B|<-10>10"),
   ("Pacific/Tarawa",
    "41524 43200|-2177494324|B|<+12>-12"),
   ("Pacific/Tongatapu",
    "44352 44400 46800 50400|-767189952|BecogugC14eipu0Ddgdg0Cj12k0D6tbvgCn2cggD6tbvgCdsmfcgD5oi" ++
    "80C|<+13>-13"),
   ("Pacific/Wake",
    "39988 43200|-2177492788|B|<+12>-12"),
   ("Pacific/Wallis",
    "44120 43200|-2177496920|B|<+12>-12")]

end ClusterMetrics.Zone.Table
