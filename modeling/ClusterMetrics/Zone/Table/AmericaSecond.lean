/-! # Zones of the Americas, second part

Each entry pairs a zone name with its encoded history. -/

namespace ClusterMetrics.Zone.Table

/-- The zones of the **Americas** from the letter K on. -/
def americaSecond : List (String × String) :=
  [("America/La_Paz",
    "-16356 -12756 -14400|-1205954844|Bd0fngC|<-04>4"),
   ("America/Lima",
    "-18492 -18516 -18000 -14400|-2524503108|Bheq78oCrlm2bsD7d67gCeipsgDevongCevvogDevongC1b1jd4" ++
    "gD7d67gCml6kgD7d67gC2iskogD7d67gC3gv1kgD7d67gC|<-05>5"),
   ("America/Los_Angeles",
    "-28378 -28800 -25200|-2717640000|B10a4bf0Ch9j7gBcm58gCh9j7gBkus8ogC3dg2rgB29qjicCo4e9kB17s5" ++
    "g0Cc3j40Bhs5c0Ccm1o0Bh9mo0Ccm1o0Bh9mo0Ccm1o0Bh9mo0Ccm1o0Bh9mo0Ccm1o0Bhs5c0Ccm1o0Bh9mo0Ccm1o" ++
    "0Bh9mo0Ccm1o0Bh9mo0Ccm1o0Bh9mo0Ccm1o0Bhs5c0Cc3j40Bhs5c0Cevs80Bevs80Cevs80Bevs80Cevs80Bevs80" ++
    "Cfias0Beddk0Cfias0BevvogCevongBevvogCevongBevvogCevongBevvogCevongBevvogCfi7bgBevvogCevongB" ++
    "evvogCevongB5ologCo72ngB9ps4gCk5sbgBevvogCfi7bgBedh4gCfi7bgBevvogCevongBevvogCevongBevvogCe" ++
    "vongBevvogCevongBevvogCfi7bgBedh4gCfi7bgBevvogCevongBevvogCevongBevvogCevongBd8jsgCgn4jgBd8" ++
    "jsgCh9j7gBcm58gCh9j7gBcm58gCh9j7gBd8jsgCgn4jgBd8jsgCgn4jgBd8jsgCh9j7gBcm58gCh9j7gBcm58gCh9j" ++
    "7gBd8jsgCgn4jgBd8jsgCgn4jgBd8jsgCgn4jgBd8jsgCh9j7gBcm58gCh9j7gBcm58gCh9j7gBd8jsgCgn4jgBd8js" ++
    "gCgn4jgBd8jsgCh9j7gBcm58gCh9j7gBcm58gCh9j7gBaupcgC|PST8PDT,M3.2.0,M11.1.0"),
   ("America/Maceio",
    "-8572 -10800 -7200|-1767217028|Bgm9ob4Certm0Bf7ssgCeqfvgBflkeggCb6j00Birps0C9utrgBk3f0gCa1i" ++
    "7gBk3f0gC7d67gBa47j4gC6qnjgBrm1ggC4rejgBk63cgC7d67gBk63cgC9s9fgBk63cgC9utrgBgjs44gCauibgBie" ++
    "nggC976fgBkr6cgC8knrgBkoi0gC8knrgBlb0kgC9pl3gB5ancggC9pl3gB3diu8gCc3fjgBienggC14pngBtddcgCa" ++
    "c3ngB|<-03>3"),
   ("America/Managua",
    "-20708 -20712 -21600 -18000|-2524500892|B19qc744C14hcaroD1m1ifgC3qrekgD84tjgClqqsgD84tjgCaq" ++
    "qfugDlvehgC854kgD3oc4bgC7otkcgDeda3gCha19gDclqn0C|CST6"),
   ("America/Manaus",
    "-14404 -14400 -10800|-1767211196|Bgm9m5cCertm0Bf7ssgCeqfvgBflkeggCb6j00Birps0C9utrgBk3f0gCa" ++
    "1i7gBk3f0gC7d67gBa47j4gC6qnjgBrm1ggC4rejgBk63cgC7d67gBk63cgC9s9fgBk63cgC9utrgBgjs44gCauibgB" ++
    "ienggC976fgBkr6cgC8knrgB5b9r4gCac3ngB|<-04>4"),
   ("America/Martinique",
    "-14660 -14400 -10800|-1851537340|B20qj9fsCeda3gB|AST4"),
   ("America/Matamoros",
    "-23400 -21600 -18000|-1514743200|B1u9u5l0Ch9j7gB6vpe0gCgn4jgBd8jsgCgn4jgBd8jsgCgn4jgBd8jsgC" ++
    "h9j7gBcm58gCh9j7gBfiecgCc3fjgBfiecgCgn4jgBd8jsgCgn4jgBd8jsgCh9j7gBcm58gCh9j7gBcm58gCh9j7gBc" ++
    "m58gCh9j7gBd8jsgCgn4jgBd8jsgCgn4jgBbh80gC|CST6CDT,M3.2.0,M11.1.0"),
   ("America/Mazatlan",
    "-25540 -25200 -21600|-1514739600|B53kgo0C37aangBdlpogCclu7gBf2k4gC9epqjgB1inq4lgCgn4jgBd8js" ++
    "gCgn4jgBd8jsgCgn4jgBd8jsgCh9j7gBcm58gCh9j7gBfiecgCc3fjgBfiecgCgn4jgBd8jsgCgn4jgBd8jsgCh9j7g" ++
    "Bcm58gCh9j7gBcm58gCh9j7gBcm58gCh9j7gBd8jsgCgn4jgBd8jsgCgn4jgBd8jsgCh9j7gBcm58gCh9j7gBcm58gC" ++
    "h9j7gBd8jsgCgn4jgBd8jsgCgn4jgBd8jsgCgn4jgBd8jsgCh9j7gBcm58gCh9j7gBcm58gCh9j7gBd8jsgCgn4jgBd" ++
    "8jsgCgn4jgBd8jsgCh9j7gBcm58gCh9j7gB|MST7"),
   ("America/Menominee",
    "-21027 -21600 -18000|-2659759773|BuitootCh9j7gBcm58gCh9j7gBkus8ogC3dg2rgBh9q8gCclu7gBicsnkg" ++
    "Cfi7bgB2avgogC47h9bgB5ologCo72ngB9ps4gCk5sbgBevvogCfi7bgBedh4gCfi7bgBevvogCevongBevvogCevon" ++
    "gBevvogCevongBevvogCevongBevvogCfi7bgBedh4gCfi7bgBevvogCevongBevvogCevongBevvogCevongBd8jsg" ++
    "Cgn4jgBd8jsgCh9j7gBcm58gCh9j7gBcm58gCh9j7gBd8jsgCgn4jgBd8jsgCgn4jgBd8jsgCh9j7gBcm58gCh9j7gB" ++
    "cm58gCh9j7gBd8jsgCgn4jgBd8jsgCgn4jgBd8jsgCgn4jgBd8jsgCh9j7gBcm58gCh9j7gBcm58gCh9j7gBd8jsgCg" ++
    "n4jgBd8jsgCgn4jgBd8jsgCh9j7gBcm58gCh9j7gBcm58gCh9j7gBaupcgC|CST6CDT,M3.2.0,M11.1.0"),
   ("America/Merida",
    "-21508 -21600 -18000|-1514743200|B1od82t0Cpjt3gBck56sgCgn4jgBd8jsgCgn4jgBd8jsgCgn4jgBd8jsgC" ++
    "h9j7gBcm58gCh9j7gBfiecgCc3fjgBfiecgCgn4jgBd8jsgCgn4jgBd8jsgCh9j7gBcm58gCh9j7gBcm58gCh9j7gBc" ++
    "m58gCh9j7gBd8jsgCgn4jgBd8jsgCgn4jgBd8jsgCh9j7gBcm58gCh9j7gBcm58gCh9j7gBd8jsgCgn4jgBd8jsgCgn" ++
    "4jgBd8jsgCgn4jgBd8jsgCh9j7gBcm58gCh9j7gBcm58gCh9j7gBd8jsgCgn4jgBd8jsgCgn4jgBd8jsgCh9j7gBcm5" ++
    "8gCh9j7gB|CST6"),
   ("America/Metlakatla",
    "54822 -31578 -28800 -25200 -32400|-3225223727|Bus8ci9C1703qk6D3dg2rgCm5e88gDevongCevvogDevo" ++
    "ngCevvogDfi7bgCevvogDevongCevvogDevongC5ologDo72ngC9ps4gDk5sbgCevvogDfi7bgCedh4gDfi7bgCevvo" ++
    "gDevongCevvogDevongCevvogDevongCevvogDevongCevvogDfi7bgCedh4gDfi7bgCu37b8gEaupcgCjjdngEacao" ++
    "gCjjdngEacaogCpuejgE|AKST9AKDT,M3.2.0,M11.1.0"),
   ("America/Mexico_City",
    "-23796 -25200 -21600 -18000|-1514739600|B53kgo0C37aangBdlpogCclu7gBf2k4gC6e2abgDbh0vgC1btfc" ++
    "gD99qrgC2hfqcgDb93rgC5e3fsgDdqrfgC1av1shgDgn4jgCd8jsgDgn4jgCd8jsgDgn4jgCd8jsgDh9j7gCcm58gDh" ++
    "9j7gCfiecgDc3fjgCfiecgDgn4jgCd8jsgDgn4jgCd8jsgDh9j7gCcm58gDh9j7gCcm58gDh9j7gCcm58gDh9j7gCd8" ++
    "jsgDgn4jgCd8jsgDgn4jgCd8jsgDh9j7gCcm58gDh9j7gCcm58gDh9j7gCd8jsgDgn4jgCd8jsgDgn4jgCd8jsgDgn4" ++
    "jgCd8jsgDh9j7gCcm58gDh9j7gCcm58gDh9j7gCd8jsgDgn4jgCd8jsgDgn4jgCd8jsgDh9j7gCcm58gDh9j7gC|CST" ++
    "6"),
   ("America/Miquelon",
    "-13480 -14400 -10800 -7200|-1847650520|B20ouj4oC6gf08gDgn4jgCd8jsgDh9j7gCcm58gDh9j7gCcm58gD" ++
    "h9j7gCd8jsgDgn4jgCd8jsgDgn4jgCd8jsgDh9j7gCcm58gDh9j7gCcm58gDh9j7gCd8jsgDgn4jgCd8jsgDgn4jgCd" ++
    "8jsgDgn4jgCd8jsgDh9j7gCcm58gDh9j7gCcm58gDh9j7gCd8jsgDgn4jgCd8jsgDgn4jgCd8jsgDh9j7gCcm58gDh9" ++
    "j7gCcm58gDh9j7gCaupcgD|<-03>3<-02>,M3.2.0,M11.1.0"),
   ("America/Moncton",
    "-15548 -18000 -14400 -10800|-2715882052|Bhd5i4kCesdjogDg4lvgCdo2ms0D7fqjgCmftsgD7fqjgCmftsg" ++
    "D7fqjgCmftsgD7fqjgCmftsgD7fqjgCmftsgD7fqjgClqqsgD9pl3gCjm94gDa9fbgCihbsgDc0r7gCb45l0D3dg2rg" ++
    "Ch9q8gDclu7gCh9q8gDclu7gCh9q8gDclu7gCh9q8gDclu7gChs8sgDc3fjgChs8sgDclu7gCh9q8gDclu7gCh9q8gD" ++
    "clu7gCh9q8gDclu7gCh9q8gDclu7gChs8sgDclu7gCh9q8gDevongCevvogDevongCevvogDevongCevvogDfi7bgCe" ++
    "vvogDevongCevvogDevongCevvogDevongCevvogDevongCevvogDfi7bgCedh4gDfi7bgCevvogDevongCevvogDev" ++
    "ongCevvogDevongCevvogDevongCevvogDfi7bgCevvogDevongC1cvo8gDevongCevvogDevongCevvogDfi7bgCed" ++
    "h4gDfi7bgCevvogDevongCevvogDevongCevvogDevongCevvogDevongCevvogDfi7bgCedh4gDfi7bgCevvogDevo" ++
    "ngCevvogDevongCevvogDevongCd8jsgDgn4jgCd8jsgDh9j7gCcm58gDh9j7gCcm58gDh9j7gCd8jsgDgn4jgCd8js" ++
    "gDgn4jgCd8ctcDh9j7gCcm58gDh9j7gCcm58gDh9j7gCd8jsgDgn4jgCd8jsgDgn4jgCd8jsgDgn4jgCd8jsgDh9j7g" ++
    "Ccm58gDh9j7gCcm58gDh9j7gCd8jsgDgn4jgCd8jsgDgn4jgCd8jsgDh9j7gCcm58gDh9j7gCcm58gDh9j7gCav0bkD" ++
    "|AST4ADT,M3.2.0,M11.1.0"),
   ("America/Monterrey",
    "-24076 -25200 -21600 -18000|-1514743200|B53kk8gC37aangBdlpogCclu7gBf2k4gC1klgqggDh9j7gC6vpe" ++
    "0gDgn4jgCd8jsgDgn4jgCd8jsgDgn4jgCd8jsgDh9j7gCcm58gDh9j7gCfiecgDc3fjgCfiecgDgn4jgCd8jsgDgn4j" ++
    "gCd8jsgDh9j7gCcm58gDh9j7gCcm58gDh9j7gCcm58gDh9j7gCd8jsgDgn4jgCd8jsgDgn4jgCd8jsgDh9j7gCcm58g" ++
    "Dh9j7gCcm58gDh9j7gCd8jsgDgn4jgCd8jsgDgn4jgCd8jsgDgn4jgCd8jsgDh9j7gCcm58gDh9j7gCcm58gDh9j7gC" ++
    "d8jsgDgn4jgCd8jsgDgn4jgCd8jsgDh9j7gCcm58gDh9j7gC|CST6"),
   ("America/Montevideo",
    "-13491 -14400 -10800 -12600 -9000 -7200 -5400|-1567455309|B36qksdCf2d3gDf2ic8CevqfoDf2ic8Ce" ++
    "vqfoD742fo8CclvvoDh9og8CclvvoDh9og8CclvvoDh9og8CclvvoDhs748Cc3hboDhs748Cc3hboDfick8CevqfoDh" ++
    "9og8CclvvoDa7088C1969noE7d7voCf7c7s8EedbroC565c8F412rgC4or74gFeda3gC2g88ogEffknoC1a0p08F43n" ++
    "7gC1nue4gF6tbvgC1cvo8gG4jfn8Eedh4gC97bo8F8297gC1jt7ogF6atbgCmftsgF7fqjgCnkr4gF6atbgC4joggFq" ++
    "gt7gC793ccgF688vgCnkr4gF6tbvgCjjkogF9pl3gCjjkogFauibgCjjkogFac3ngCj164gFauibgCarpmcgFfiecgC" ++
    "g4t0gFclu7gCgnbkgFd8crgCh9q8gFclu7gCh9q8gFclu7gCh9q8gFd8crgCgnbkgFd8crgCgnbkgFd8crgCh9q8gFc" ++
    "lu7gCh9q8gFclu7gCh9q8gFclu7gC|<-03>3"),
   ("America/Montserrat",
    "-14932 -14400|-1846266608|B|AST4"),
   ("America/Nassau",
    "-18570 -18000 -14400|-1825095030|Bsbrb66C2gam3gB2hr4gClapjgBhddndgCevongBevvogCfi7bgBedh4gC" ++
    "fi7bgBevvogCevongBevvogCevongBevvogCevongBevvogCevongBevvogCfi7bgBevvogCevongBevvogCevongBe" ++
    "vvogCevongBevvogCevongBevvogCfi7bgBedh4gCfi7bgBevvogCevongBevvogCevongBevvogCevongBevvogCev" ++
    "ongBevvogCfi7bgBedh4gCfi7bgBevvogCevongBevvogCevongBevvogCevongBd8jsgCgn4jgBd8jsgCh9j7gBcm5" ++
    "8gCh9j7gBcm58gCh9j7gBd8jsgCgn4jgBd8jsgCgn4jgBd8jsgCh9j7gBcm58gCh9j7gBcm58gCh9j7gBd8jsgCgn4j" ++
    "gBd8jsgCgn4jgBd8jsgCgn4jgBd8jsgCh9j7gBcm58gCh9j7gBcm58gCh9j7gBd8jsgCgn4jgBd8jsgCgn4jgBd8jsg" ++
    "Ch9j7gBcm58gCh9j7gBcm58gCh9j7gBaupcgC|EST5EDT,M3.2.0,M11.1.0"),
   ("America/New_York",
    "-17762 -18000 -14400|-2717650800|B10a4bf0Ch9j7gBcm58gCh9j7gBcm58gChs1rgBedh4gCclu7gBhs8sgCc" ++
    "3fjgBhs8sgCclu7gBh9q8gCclu7gBh9q8gCclu7gBh9q8gCclu7gBh9q8gCclu7gBhs8sgCclu7gBh9q8gCclu7gBh9" ++
    "q8gCclu7gBh9q8gCclu7gBh9q8gCclu7gBhs8sgCc3fjgBhs8sgCclu7gBh9q8gCclu7gBh9q8gCclu7gBh9q8gCclu" ++
    "7gBh9q8gCclu7gBhs8sgCc3fjgBhs8sgCclu7gBh9q8gCclu7gBb1dogC3dg2rgBh9q8gCclu7gBh9q8gCclu7gBh9q" ++
    "8gCclu7gBh9q8gCclu7gBhs8sgCc3fjgBhs8sgCclu7gBh9q8gCclu7gBh9q8gCclu7gBh9q8gCclu7gBh9q8gCfi7b" ++
    "gBevvogCevongBevvogCevongBevvogCevongBevvogCevongBevvogCfi7bgBevvogCevongBevvogCevongBevvog" ++
    "CevongBevvogCevongBevvogCfi7bgBedh4gCfi7bgBevvogCevongBevvogCevongBevvogCevongBevvogCevongB" ++
    "evvogCfi7bgBevvogCevongBevvogCevongB5ologCo72ngB9ps4gCk5sbgBevvogCfi7bgBedh4gCfi7bgBevvogCe" ++
    "vongBevvogCevongBevvogCevongBevvogCevongBevvogCfi7bgBedh4gCfi7bgBevvogCevongBevvogCevongBev" ++
    "vogCevongBd8jsgCgn4jgBd8jsgCh9j7gBcm58gCh9j7gBcm58gCh9j7gBd8jsgCgn4jgBd8jsgCgn4jgBd8jsgCh9j" ++
    "7gBcm58gCh9j7gBcm58gCh9j7gBd8jsgCgn4jgBd8jsgCgn4jgBd8jsgCgn4jgBd8jsgCh9j7gBcm58gCh9j7gBcm58" ++
    "gCh9j7gBd8jsgCgn4jgBd8jsgCgn4jgBd8jsgCh9j7gBcm58gCh9j7gBcm58gCh9j7gBaupcgC|EST5EDT,M3.2.0,M" ++
    "11.1.0"),
   ("America/Nome",
    "46702 -39698 -39600 -36000 -32400 -28800|-3225223727|Bus8kg1C1703t7uD3dg2rgCm5e88gDevongCev" ++
    "vogDevongCevvogDfi7bgCevvogDevongCevvogDevongC5ologDo72ngC9ps4gDk5sbgCevvogDfi7bgCedh4gDfi7" ++
    "bgCevvogDevongCevvogDevongCevvogDevongCevvogDevongCevvogDfi7bgCedh4gDfi7bgEevongFevongEevvo" ++
    "gFevongEevvogFevongEd8jsgFgn4jgEd8jsgFh9j7gEcm58gFh9j7gEcm58gFh9j7gEd8jsgFgn4jgEd8jsgFgn4jg" ++
    "Ed8jsgFh9j7gEcm58gFh9j7gEcm58gFh9j7gEd8jsgFgn4jgEd8jsgFgn4jgEd8jsgFgn4jgEd8jsgFh9j7gEcm58gF" ++
    "h9j7gEcm58gFh9j7gEd8jsgFgn4jgEd8jsgFgn4jgEd8jsgFh9j7gEcm58gFh9j7gEcm58gFh9j7gEaupcgF|AKST9A" ++
    "KDT,M3.2.0,M11.1.0"),
   ("America/Noronha",
    "-7780 -7200 -3600|-1767217820|Bgm9ljcCertm0Bf7ssgCeqfvgBflkeggCb6j00Birps0C9utrgBk3f0gCa1i7" ++
    "gBk3f0gC7d67gBa47j4gC6qnjgBrm1ggC4rejgBk63cgC7d67gBk63cgC9s9fgBk63cgC9utrgBgjs44gCauibgBien" ++
    "ggC976fgBkr6cgC8knrgBkoi0gC8knrgBlb0kgC9pl3gB923vsgCc3fjgBienggCib3gBtvs0gCac3ngB|<-02>2"),
   ("America/North_Dakota/Beulah",
    "-24427 -25200 -21600 -18000|-2717643600|B10a4bf0Ch9j7gBcm58gCh9j7gBkus8ogC3dg2rgBk9en8gCevo" ++
    "ngBevvogCevongBevvogCevongBevvogCevongBevvogCfi7bgBevvogCevongBevvogCevongB5ologCo72ngB9ps4" ++
    "gCk5sbgBevvogCfi7bgBedh4gCfi7bgBevvogCevongBevvogCevongBevvogCevongBevvogCevongBevvogCfi7bg" ++
    "Bedh4gCfi7bgBevvogCevongBevvogCevongBevvogCevongBd8jsgCgn4jgBd8jsgCh9j7gBcm58gCh9j7gBcm58gC" ++
    "h9j7gBd8jsgCgn4jgBd8jsgCgn4jgBd8jsgCh9j7gBcm58gCh9j7gBcm58gCh9j7gBd8jsgCgn4jgBd8jsgCgn4jgBd" ++
    "8jsgCgn4jgBd8jsgCh9j7gBcm58gCh9j7gBcm58gCh9j7gBd8jsgCgn4jgBd8jsgCgn4jgBd8jsgCh9j7gBcm58gCh9" ++
    "j7gBcm58gCh9j7gBaupcgCjjdngBacaogCjjdngBacaogCjjdngBaupcgCtvkvgD|CST6CDT,M3.2.0,M11.1.0"),
   ("America/North_Dakota/Center",
    "-24312 -25200 -21600 -18000|-2717643600|B10a4bf0Ch9j7gBcm58gCh9j7gBkus8ogC3dg2rgBk9en8gCevo" ++
    "ngBevvogCevongBevvogCevongBevvogCevongBevvogCfi7bgBevvogCevongBevvogCevongB5ologCo72ngB9ps4" ++
    "gCk5sbgBevvogCfi7bgBedh4gCfi7bgBevvogCevongBevvogCevongBevvogCevongBevvogCevongBevvogCfi7bg" ++
    "Bedh4gCfi7bgBevvogCevongBevvogCevongBevvogCevongBd8jsgCgn4jgBd8jsgCh9j7gBcm58gCh9j7gBcm58gC" ++
    "h9j7gBd8jsgCgn4jgBd8jsgCtvkvgDh9j7gCcm58gDh9j7gCcm58gDh9j7gCd8jsgDgn4jgCd8jsgDgn4jgCd8jsgDg" ++
    "n4jgCd8jsgDh9j7gCcm58gDh9j7gCcm58gDh9j7gCd8jsgDgn4jgCd8jsgDgn4jgCd8jsgDh9j7gCcm58gDh9j7gCcm" ++
    "58gDh9j7gCaupcgD|CST6CDT,M3.2.0,M11.1.0"),
   ("America/North_Dakota/New_Salem",
    "-24339 -25200 -21600 -18000|-2717643600|B10a4bf0Ch9j7gBcm58gCh9j7gBkus8ogC3dg2rgBk9en8gCevo" ++
    "ngBevvogCevongBevvogCevongBevvogCevongBevvogCfi7bgBevvogCevongBevvogCevongB5ologCo72ngB9ps4" ++
    "gCk5sbgBevvogCfi7bgBedh4gCfi7bgBevvogCevongBevvogCevongBevvogCevongBevvogCevongBevvogCfi7bg" ++
    "Bedh4gCfi7bgBevvogCevongBevvogCevongBevvogCevongBd8jsgCgn4jgBd8jsgCh9j7gBcm58gCh9j7gBcm58gC" ++
    "h9j7gBd8jsgCgn4jgBd8jsgCgn4jgBd8jsgCh9j7gBcm58gCh9j7gBcm58gCh9j7gBd8jsgCgn4jgBd8jsgCgn4jgBd" ++
    "8jsgCgn4jgBd8jsgCh9j7gBcm58gCh9j7gBcm58gCh9j7gBd8jsgCgn4jgBd8jsgCtvkvgDh9j7gCcm58gDh9j7gCcm" ++
    "58gDh9j7gCaupcgD|CST6CDT,M3.2.0,M11.1.0"),
   ("America/Nuuk",
    "-12416 -10800 -7200 -3600|-1686083584|B1rsq52gCecvi0Bevs80Cevs80Bevs80Cevs80Bevs80Cevs80Bev" ++
    "s80Cfias0Bevs80Cevs80Bevs80Cevs80Bevs80Cevs80Bevs80Cevs80Bevs80Cevs80Bevs80Cfias0Bevs80Cevs" ++
    "80Bevs80Cevs80Bevs80Cevs80Bevs80Cevs80Bevs80Cevs80Bfias0Ch9mo0Bcm1o0Ch9mo0Bcm1o0Ch9mo0Bcm1o" ++
    "0Chs5c0Bc3j40Chs5c0Bc3j40Chs5c0Bcm1o0Ch9mo0Bcm1o0Ch9mo0Bcm1o0Chs5c0Bc3j40Chs5c0Bc3j40Chs5c0" ++
    "Bc3j40Chs5c0Bcm1o0Ch9mo0Bcm1o0Ch9mo0Bcm1o0Chs5c0Bc3j40Chs5c0Bc3j40Chs5c0Bcm1o0Ch9mo0Bcm1o0C" ++
    "h9mo0Bcm1o0Ch9mo0Bcm1o0Chs5c0Bc3j40Chs5c0Bc3j40Chs5c0Bcm1o0Ch9mo0Bcm1o0Ch9mo0Bcm1o0Chs5c0Bc" ++
    "3j40Chs5c0Bc3j40Cui740D|<-02>2<-01>,M3.5.0/-1,M10.5.0/0"),
   ("America/Ojinaga",
    "-25060 -25200 -21600 -18000|-1514739600|B53kgo0C37aangBdlpogCclu7gBf2k4gC1s6jrogDgn4jgCd8js" ++
    "gDgn4jgCtvs0gBd8jsgCh9j7gBcm58gCh9j7gBfiecgCc3fjgBfiecgCgn4jgBd8jsgCgn4jgBd8jsgCh9j7gBcm58g" ++
    "Ch9j7gBcm58gCh9j7gBcm58gCh9j7gBd8jsgCgn4jgBd8jsgCgn4jgBbh80gCjjdngBacaogCjjdngBacaogCjjdngB" ++
    "acaogCjjdngBacaogCjjdngBacaogCjjdngBaupcgCjjdngBacaogCjjdngBacaogCjjdngBacaogCjjdngBacaogCj" ++
    "jdngBaupcgCjjdngBacaogCtvkvgD|CST6CDT,M3.2.0,M11.1.0"),
   ("America/Panama",
    "-19088 -19176 -18000|-2524502512|Bh6qeuoC|EST5"),
   ("America/Paramaribo",
    "-13240 -13252 -13236 -12600 -10800|-1861906760|Bmi9f8cCa3fo7gD14lo184E|<-03>3"),
   ("America/Phoenix",
    "-26898 -25200 -21600|-2717643600|B10a4bf0Ch9j7gBcm58gCh9j7gBkus8ogC1otkkcB7g1kgCf2d3gBl7emn" ++
    "kCevongB|MST7"),
   ("America/Port-au-Prince",
    "-17360 -17340 -18000 -14400|-2524504240|BpeeklcC1uapl6kDeda3gCevvogDevongCevvogDevongCevvog" ++
    "DevongCevvogDevongCd8nd0Dh9mo0Ccm1o0Dh9mo0Ccm1o0Dh9mo0Cd8gc0Dgn840Cd8gc0Dgn840Cd8gc0Dh9mo0C" ++
    "cm1o0Dh9mo0Ccm1o0Dh9mo0Cd8gc0Dgn840Cd8gc0Dgn840C6vp6vgDh9j7gCcm58gDh9j7gC51g9hgDjjdngCacaog" ++
    "DjjdngCacaogDjjdngCacaogDjjdngC18uhsgD|EST5EDT,M3.2.0,M11.1.0"),
   ("America/Port_of_Spain",
    "-14764 -14400|-1825098836|B|AST4"),
   ("America/Porto_Velho",
    "-15336 -14400 -10800|-1767210264|Bgm9l88Certm0Bf7ssgCeqfvgBflkeggCb6j00Birps0C9utrgBk3f0gCa" ++
    "1i7gBk3f0gC7d67gBa47j4gC6qnjgBrm1ggC4rejgBk63cgC7d67gBk63cgC9s9fgBk63cgC9utrgBgjs44gCauibgB" ++
    "ienggC976fgBkr6cgC8knrgB|<-04>4"),
   ("America/Puerto_Rico",
    "-15865 -14400 -10800|-2233035335|B18gv787C36leogB|AST4"),
   ("America/Punta_Arenas",
    "-17020 -16965 -18000 -14400 -10800|-2524504580|Biqiaa9C62p7gbB21vvblDo73nrB7ls1g5DhhhbrCcjg" ++
    "sgDhervgCcjgsgDhervgCcjgsgDhervgCcjgsgDhhgbgCcjgsgD95ajfgC50ucgD4ccrfgC46f40Dk5lag0Ec3fjgDj" ++
    "jkogEac3ngDg4t0gEclu7gDh9q8gEclu7gDhs8sgEc3fjgDgnbkgEd8crgDhs8sgEc3fjgDhs8sgEclu7gDh9q8gEcl" ++
    "u7gDh9q8gEclu7gDhs8sgEc3fjgDhs8sgEc3fjgDhs8sgEclu7gDh9q8gEclu7gDh9q8gEclu7gDh9q8gEclu7gDhs8" ++
    "sgEc3fjgDhs8sgEc3fjgDhs8sgEevongDevvogEclu7gDh9q8gEclu7gDhs8sgEc3fjgDfiecgEeda3gDhs8sgEclu7" ++
    "gDh9q8gEclu7gDh9q8gEclu7gDh9q8gEclu7gDhs8sgEc3fjgDhs8sgEdqrfgDg4t0gEclu7gDg4t0gEfi7bgDfiecg" ++
    "Eclu7gDhs8sgEc3fjgDhs8sgEc3fjgDhs8sgEc3fjgDhs8sgEclu7gDh9q8gEclu7gDh9q8gEclu7gDhs8sgEc3fjgD" ++
    "hs8sgEdqrfgDg4t0gEclu7gDh9q8gEeda3gDfiecgEh9j7gD8kusgEkoavgDacaogEjjdngDaupcgEj0v3gDaupcgE1" ++
    "io3fgD7g1kgE|<-03>3"),
   ("America/Rankin_Inlet",
    "0 -21600 -18000|-410227200|Bed97c0CevongBevvogCevongBevvogCevongBevvogCevongBevvogCfi7bgBed" ++
    "h4gCfi7bgBevvogCevongBevvogCevongBevvogCevongBevvogCevongBevvogCfi7bgBedh4gCfi7bgBevvogCevo" ++
    "ngBevvogCevongBevvogCevongBd8jsgCgn4jgBd8jsgCh9j7gBcm58gCh9j7gBcm58gCh9j7gBd8jsgCgn4jgBd8js" ++
    "gCgn4jgBd8jsgCh9j7gBcm58gCh9j7gBcm58gCh9j7gBd8jsgCgn4jgBd8jsgCgn4jgBd8jsgCgn4jgBd8jsgCh9j7g" ++
    "Bcm58gC1f9bngBd8jsgCgn4jgBd8jsgCgn4jgBd8jsgCh9j7gBcm58gCh9j7gBcm58gCh9j7gBaupcgC|CST6CDT,M3" ++
    ".2.0,M11.1.0"),
   ("America/Recife",
    "-8376 -10800 -7200|-1767217224|Bgm9oh8Certm0Bf7ssgCeqfvgBflkeggCb6j00Birps0C9utrgBk3f0gCa1i" ++
    "7gBk3f0gC7d67gBa47j4gC6qnjgBrm1ggC4rejgBk63cgC7d67gBk63cgC9s9fgBk63cgC9utrgBgjs44gCauibgBie" ++
    "nggC976fgBkr6cgC8knrgBkoi0gC8knrgBlb0kgC9pl3gB923vsgCc3fjgBienggCib3gBtvs0gCac3ngB|<-03>3"),
   ("America/Regina",
    "-25116 -25200 -21600|-2030202084|Bbrm73kCg4lvgBaqki3gCclu7gBh9q8gCclu7gBh9q8gCclu7gBhs8sgCc" ++
    "3fjgBhs8sgCclu7gB2bhvcgCevongBevvogCeda3gBfiecgCevongBfiecgCevongBevvogCevongB9snhgC3dg2rgB" ++
    "g4t0gCevongBg4t0gCclu7gBh9q8gCclu7gBh9q8gCclu7gBhs8sgCc3fjgBhs8sgCclu7gBh9q8gCclu7gBh9q8gCc" ++
    "lu7gBh9q8gCclu7gBh9q8gCclu7gBhs8sgCclu7gBh9q8gCclu7gB1f9iogCevongBevvogC|CST6"),
   ("America/Resolute",
    "0 -21600 -18000|-704937600|Bn6b2g0CevongBevvogCevongBevvogCevongBevvogCevongBevvogCfi7bgBed" ++
    "h4gCfi7bgBevvogCevongBevvogCevongBevvogCevongBevvogCevongBevvogCfi7bgBedh4gCfi7bgBevvogCevo" ++
    "ngBevvogCevongBevvogCevongBd8jsgCgn4jgBd8jsgCh9j7gBcm58gCh9j7gBcm58gCh9j7gBd8jsgCgn4jgBd8js" ++
    "gCgn4jgBd8jsgCh9j7gBcm58gCh9j7gBcm58gCh9j7gBd8jsgCgn4jgBd8jsgCgn4jgBd8jsgCgn4jgBd8jsgCh9j7g" ++
    "Bcm58gC1f9bngBd8jsgCgn4jgBd8jsgCgn4jgBd8jsgCh9j7gBcm58gCh9j7gBcm58gC1frqbgB|CST6CDT,M3.2.0," ++
    "M11.1.0"),
   ("America/Rio_Branco",
    "-16272 -18000 -14400|-1767209328|Bgm9nrgCertm0Bf7ssgCeqfvgBflkeggCb6j00Birps0C9utrgBk3f0gCa" ++
    "1i7gBk3f0gC7d67gBa47j4gC6qnjgBrm1ggC4rejgBk63cgC7d67gBk63cgC9s9fgBk63cgC9utrgBgjs44gCauibgB" ++
    "ienggC976fgBkr6cgC8knrgBj596kgC51t1bgB|<-05>5"),
   ("America/Santarem",
    "-13128 -14400 -10800|-1767212472|Bgm9nd8Certm0Bf7ssgCeqfvgBflkeggCb6j00Birps0C9utrgBk3f0gCa" ++
    "1i7gBk3f0gC7d67gBa47j4gC6qnjgBrm1ggC4rejgBk63cgC7d67gBk63cgC9s9fgBk63cgC9utrgBgjs44gCauibgB" ++
    "ienggC976fgBkr6cgC8knrgBj596kgC|<-03>3"),
   ("America/Santiago",
    "-16965 -18000 -14400 -10800|-1892661435|B62p7gbA21vvblCo73nrA7ls1g5ChhhbrBcjgsgChervgBcjgsg" ++
    "ChervgBcjgsgChervgBcjgsgChhgbgBcjgsgC95ajfgB50ucgC3mv9vgD3mhbgChn04gB46f40Ck5lag0Dc3fjgCjjk" ++
    "ogDac3ngCg4t0gDclu7gCh9q8gDclu7gChs8sgDc3fjgCgnbkgDd8crgChs8sgDc3fjgChs8sgDclu7gCh9q8gDclu7" ++
    "gCh9q8gDclu7gChs8sgDc3fjgChs8sgDc3fjgChs8sgDclu7gCh9q8gDclu7gCh9q8gDclu7gCh9q8gDclu7gChs8sg" ++
    "Dc3fjgChs8sgDc3fjgChs8sgDevongCevvogDclu7gCh9q8gDclu7gChs8sgDc3fjgCfiecgDeda3gChs8sgDclu7gC" ++
    "h9q8gDclu7gCh9q8gDclu7gCh9q8gDclu7gChs8sgDc3fjgChs8sgDdqrfgCg4t0gDclu7gCg4t0gDfi7bgCfiecgDc" ++
    "lu7gChs8sgDc3fjgChs8sgDc3fjgChs8sgDc3fjgChs8sgDclu7gCh9q8gDclu7gCh9q8gDclu7gChs8sgDc3fjgChs" ++
    "8sgDdqrfgCg4t0gDclu7gCh9q8gDeda3gCfiecgDh9j7gC8kusgDkoavgCacaogDjjdngCaupcgDj0v3gCaupcgD1io" ++
    "3fgC7g1kgDmfmrgC7g1kgDmfmrgC7g1kgDjjdngCcm58gDh9j7gCcm58gDh9j7gCcm58gDh9j7gCd8jsgD|<-04>4<-" ++
    "03>,M9.1.6/24,M4.1.6/24"),
   ("America/Santo_Domingo",
    "-16776 -16800 -18000 -14400 -16200|-2524504824|B18lg9aoCvii2bgD9utrgC2g0bkgE9n2foCk8m08E75a" ++
    "roCncs88E6o4voCn7jg8E6tdnoCn2ao8E7023oCmvmc8Doem9kgC2s940D|AST4"),
   ("America/Sao_Paulo",
    "-11188 -10800 -7200|-1767214412|Bgm9lpcCertm0Bf7ssgCeqfvgBflkeggCb6j00Birps0C9utrgBk3f0gCa1" ++
    "i7gBk3f0gC7d67gBa0blggCaml7gBrm1ggC4rejgBk63cgC7d67gBk63cgC9s9fgBk63cgC9utrgBgjs44gCauibgBi" ++
    "enggC976fgBkr6cgC8knrgBkoi0gC8knrgBlb0kgC9pl3gBkoi0gC9pl3gBk63cgC976fgBlb0kgC8297gBlb0kgCac" ++
    "3ngBjjkogCac3ngBjjkogC9pl3gBjjkogCauibgBj3qggCc0r7gBienggCauibgBienggCc3fjgBienggCauibgBjjk" ++
    "ogCac3ngBlb0kgC8knrgBk63cgC9pl3gBlg9cgC91tngBjjkogCac3ngBlb0kgC976fgBj164gCac3ngBk63cgC9pl3" ++
    "gBk63cgCac3ngBjjkogCac3ngBjjkogCauibgBjjkogC9pl3gBk63cgC9pl3gBk63cgCac3ngBjjkogCac3ngBjjkog" ++
    "Cac3ngBjjkogCac3ngBlb0kgC8knrgB|<-03>3"),
   ("America/Scoresbysund",
    "-5272 -7200 -3600 0|-1686090728|B1rsq8h8Ceddk0Bevl70DevongCevs80Devs80Cevs80Devs80Cevs80Dfi" ++
    "as0Cevs80Devs80Cevs80Devs80Cevs80Devs80Cevs80Devs80Cevs80Devs80Cevs80Dfias0Cevs80Devs80Cevs" ++
    "80Devs80Cevs80Devs80Cevs80Devs80Cevs80Devs80Cfias0Dh9mo0Ccm1o0Dh9mo0Ccm1o0Dh9mo0Ccm1o0Dhs5c" ++
    "0Cc3j40Dhs5c0Cc3j40Dhs5c0Ccm1o0Dh9mo0Ccm1o0Dh9mo0Ccm1o0Dhs5c0Cc3j40Dhs5c0Cc3j40Dhs5c0Cc3j40" ++
    "Dhs5c0Ccm1o0Dh9mo0Ccm1o0Dh9mo0Ccm1o0Dhs5c0Cc3j40Dhs5c0Cc3j40Dhs5c0Ccm1o0Dh9mo0Ccm1o0Dh9mo0C" ++
    "cm1o0Dh9mo0Ccm1o0Dhs5c0Cc3j40Dhs5c0Cc3j40Dhs5c0Ccm1o0Dh9mo0Ccm1o0Dh9mo0Ccm1o0Dhs5c0Cc3j40Dh" ++
    "s5c0Cc3j40Dhs5c0Ctvog0B|<-02>2<-01>,M3.5.0/-1,M10.5.0/0"),
   ("America/Sitka",
    "53927 -32473 -28800 -25200 -32400|-3225223727|Bus8de8C1703po7D3dg2rgCm5e88gDevongCevvogDevo" ++
    "ngCevvogDfi7bgCevvogDevongCevvogDevongC5ologDo72ngC9ps4gDk5sbgCevvogDfi7bgCedh4gDfi7bgCevvo" ++
    "gDevongCevvogDevongCevvogDevongCevvogDevongCevvogDfi7bgCedh4gDfi7bgEf0390CevongEevvogCevong" ++
    "EevvogCevongEd8jsgCgn4jgEd8jsgCh9j7gEcm58gCh9j7gEcm58gCh9j7gEd8jsgCgn4jgEd8jsgCgn4jgEd8jsgC" ++
    "h9j7gEcm58gCh9j7gEcm58gCh9j7gEd8jsgCgn4jgEd8jsgCgn4jgEd8jsgCgn4jgEd8jsgCh9j7gEcm58gCh9j7gEc" ++
    "m58gCh9j7gEd8jsgCgn4jgEd8jsgCgn4jgEd8jsgCh9j7gEcm58gCh9j7gEcm58gCh9j7gEaupcgC|AKST9AKDT,M3." ++
    "2.0,M11.1.0"),
   ("America/St_Johns",
    "-12652 -9052 -12600 -9000 -5400|-1664130548|Bdb17gAh75sgBg4lvgAfncj0B84tjgAlo6ggBevongAevvo" ++
    "gBevongAfiecgBeda3gAfiecgBeda3gAfiecgBeda3gAfiecgBeda3gAfiecgBevongAevvogBevongAfiecgBeda3g" ++
    "AfiecgBeda3gAfiecgBeda3gAfiecgBeda3gAfiecgBevongAfiecgBeda3gAfiecgBeda3gAch010C31e9sDeda3gC" ++
    "g50h0Dc3fjgChs8sgDc3fjgChs8sgDc3fjgCienggDbh0vgCienggDc3fjgChs8sgDc3fjgChs8sgD360bogCienggD" ++
    "c3fjgChs8sgDc3fjgChs8sgDc3fjgChs8sgDc3fjgCienggDc3fjgCgnbkgDclu7gCh9q8gDclu7gCh9q8gDclu7gCh" ++
    "9q8gDclu7gCh9q8gDclu7gChs8sgDclu7gCh9q8gDclu7gCh9q8gDclu7gCh9q8gDclu7gCh9q8gDfi7bgCevvogDev" ++
    "ongCevvogDevongCevvogDevongCevvogDevongCevvogDfi7bgCedh4gDfi7bgCevvogDevongCevvogDevongCevv" ++
    "ogDevongCevvogDevongCevvogDfi7bgCevvogDevongCevvogDevongCevvogDevongCevvogDevongCevvogDfi7b" ++
    "gCedh4gDfi7bgCevvogDevongCevvogDevongCevvogDevongCevvogDevongCevvogDfi7bgCedh4gDfi7bgCevvog" ++
    "DevongCevvogDevongCevvogDevongCd8ctcDgn4jgCd8jsgEh9fn0Ccm8p0Dh9j7gCcm58gDh9j7gCd8jsgDgn4jgC" ++
    "d8jsgDgn4jgCd8jsgDh9j7gCcm58gDh9j7gCcm58gDh9j7gCd8jsgDgn4jgCd8jsgDgn4jgCd8jsgDgn4jgCd8jsgDh" ++
    "9j7gCcm58gDh9j7gCcm58gDh9j7gCd8jsgDgn4jgCd8jsgDgn4jgCd8jsgDh9j7gCcm58gDh9j7gCcm58gDh9j7gCau" ++
    "pcgDjjdngCacaogDjjdngCacaogDjjdngCaupcgDjjdngCacaogDjjkmkC|NST3:30NDT,M3.2.0,M11.1.0"),
   ("America/St_Kitts",
    "-15052 -14400|-1825098548|B|AST4"),
   ("America/St_Lucia",
    "-14640 -14400|-1830369360|B|AST4"),
   ("America/St_Thomas",
    "-15584 -14400|-1846266016|B|AST4"),
   ("America/St_Vincent",
    "-14696 -14400|-1830369304|B|AST4"),
   ("America/Swift_Current",
    "-25880 -25200 -21600|-2030201320|Bbrm6boCg4lvgBlss18gC3dg2rgBh9q8gCdqrfgBg4t0gCclu7gBh9q8gC" ++
    "clu7gBh9q8gCclu7gB74d30gCevongB1cvo8gCevongBevvogCclu7gBhs8sgCc3fjgB9uur4gC|CST6"),
   ("America/Tegucigalpa",
    "-20932 -21600 -18000|-1538503868|B1u4t4csCc3fjgBhs8sgCc3fjgBgi23sgC7ievgB|CST6"),
   ("America/Thule",
    "-16508 -14400 -10800|-1686079492|B267a0n4CevongBevvogCevongBfiecgCh9j7gBcm58gCh9j7gBcm58gCh" ++
    "9j7gBd8jsgCgn4jgBd8jsgCgn4jgBd8jsgCgn4jgBd8jsgCh9j7gBcm58gCh9j7gBcm58gCh9j7gBd8jsgCgn4jgBd8" ++
    "jsgCgn4jgBd8jsgCh9j7gBcm58gCh9j7gBcm58gCh9j7gBaupcgC|AST4ADT,M3.2.0,M11.1.0"),
   ("America/Tijuana",
    "-28084 -25200 -28800|-1514739600|B1s4po0C37fqggB37aangCb9asgBevongC9tv6kgB3b68bgC27raggBncm" ++
    "vgC16skggBc0r7gChsftgBclu7gCh9q8gBclu7gCh9mo0Bcm1o0Ch9mo0Bcm1o0Ch9mo0Bcm1o0Chs5c0Bcm1o0Ch9m" ++
    "o0Bcm1o0Ch9mo0Bcm1o0Ch9mo0Bcm1o0Ch9mo0Bcm1o0Chs5c0Bc3j40Chs5c0Bevs80Cevs80Bevs80Cevs80Bevs8" ++
    "0Cevs80Bfias0Ceddk0Bfias0CevvogBevongCevvogBevongCevvogBevongCevvogBevongCevvogBfi7bgCevvog" ++
    "BevongCevvogBevongC5ologBo72ngC9ps4gBk5sbgCevvogBfi7bgCedh4gBfi7bgCevvogBevongCevvogBevongC" ++
    "evvogBevongCevvogBevongCevvogBfi7bgCedh4gBfi7bgCevvogBevongCevvogBevongCevvogBevongCd8jsgBg" ++
    "n4jgCd8jsgBh9j7gCcm58gBh9j7gCcm58gBh9j7gCd8jsgBgn4jgCd8jsgBgn4jgCd8jsgBh9j7gCcm58gBh9j7gCcm" ++
    "58gBh9j7gCd8jsgBgn4jgCd8jsgBgn4jgCd8jsgBgn4jgCd8jsgBh9j7gCcm58gBh9j7gCcm58gBh9j7gCd8jsgBgn4" ++
    "jgCd8jsgBgn4jgCd8jsgBh9j7gCcm58gBh9j7gCcm58gBh9j7gCcm58gBh9j7gCd8jsgBgn4jgCd8jsgBgn4jgCbh80" ++
    "gB|PST8PDT,M3.2.0,M11.1.0"),
   ("America/Toronto",
    "-19052 -18000 -14400|-2366736148|Blsk6k4Cg4lvgBcogr8Ch70joBfildgCc38igBj1d5gCa46jgBjrhsgCac" ++
    "3ngBjjkogCac3ngBj164gCbh0vgBienggCbh0vgBienggCbh0vgBienggCc3fjgBhs8sgCclu7gBh9q8gCclu7gBh9q" ++
    "8gCclu7gBh9q8gCclu7gBhs8sgCc3fjgBhs8sgCclu7gBh9q8gCclu7gBh9q8gCclu7gBh9q8gCclu7gBh9q8gCclu7" ++
    "gBh9q8gCclu7gBhs8sgCc3fjgBhs8sgC5377bgBh9q8gCclu7gBh9q8gCclu7gBh9q8gCclu7gBh9q8gChs1rgBcm58" ++
    "gCh9j7gBcm58gCclu7gBh9q8gCclu7gBh9q8gCclu7gBh9q8gCclu7gBh9q8gCclu7gBhs8sgCclu7gBh9q8gCevong" ++
    "BevvogCevongBevvogCevongBevvogCfi7bgBevvogCevongBevvogCevongBevvogCevongBevvogCevongBevvogC" ++
    "fi7bgBedh4gCfi7bgBevvogCevongBevvogCevongBevvogCevongBevvogCevongBevvogCfi7bgBevvogCevongBe" ++
    "vvogCevongBevvogCevongBevvogCevongBevvogCfi7bgBedh4gCfi7bgBevvogCevongBevvogCevongBevvogCev" ++
    "ongBevvogCevongBevvogCfi7bgBedh4gCfi7bgBevvogCevongBevvogCevongBevvogCevongBd8jsgCgn4jgBd8j" ++
    "sgCh9j7gBcm58gCh9j7gBcm58gCh9j7gBd8jsgCgn4jgBd8jsgCgn4jgBd8jsgCh9j7gBcm58gCh9j7gBcm58gCh9j7" ++
    "gBd8jsgCgn4jgBd8jsgCgn4jgBd8jsgCgn4jgBd8jsgCh9j7gBcm58gCh9j7gBcm58gCh9j7gBd8jsgCgn4jgBd8jsg" ++
    "Cgn4jgBd8jsgCh9j7gBcm58gCh9j7gBcm58gCh9j7gBaupcgC|EST5EDT,M3.2.0,M11.1.0"),
   ("America/Tortola",
    "-15508 -14400|-1846266092|B|AST4"),
   ("America/Vancouver",
    "-29548 -28800 -25200|-2713880852|B107mhlkCg4lvgBlss18gC3dg2rgBh9q8gCclu7gBh9q8gCclu7gBh9q8g" ++
    "Cclu7gBh9q8gCclu7gBhs8sgCc3fjgBhs8sgCclu7gBh9q8gCclu7gBh9q8gCclu7gBh9q8gCclu7gBh9q8gCclu7gB" ++
    "hs8sgCclu7gBh9q8gCclu7gBh9q8gCclu7gBh9q8gCclu7gBh9q8gCclu7gBhs8sgCc3fjgBhs8sgCevongBevvogCe" ++
    "vongBevvogCevongBevvogCfi7bgBedh4gCfi7bgBevvogCevongBevvogCevongBevvogCevongBevvogCevongBev" ++
    "vogCfi7bgBevvogCevongBevvogCevongBevvogCevongBevvogCevongBevvogCfi7bgBedh4gCfi7bgBevvogCevo" ++
    "ngBevvogCevongBevvogCevongBevvogCevongBevvogCfi7bgBedh4gCfi7bgBevvogCevongBevvogCevongBevvo" ++
    "gCevongBd8jsgCgn4jgBd8jsgCh9j7gBcm58gCh9j7gBcm58gCh9j7gBd8jsgCgn4jgBd8jsgCgn4jgBd8jsgCh9j7g" ++
    "Bcm58gCh9j7gBcm58gCh9j7gBd8jsgCgn4jgBd8jsgCgn4jgBd8jsgCgn4jgBd8jsgCh9j7gBcm58gCh9j7gBcm58gC" ++
    "h9j7gBd8jsgCgn4jgBd8jsgCgn4jgBd8jsgCh9j7gBcm58gCh9j7gBcm58gCh9j7gBaupcgC|PST8PDT,M3.2.0,M11" ++
    ".1.0"),
   ("America/Whitehorse",
    "-32412 -32400 -28800 -25200|-2188997988|Bgj4g8kCg4lvgBh9q8gCd5hegBkuclhgC3dg2rgBicsgjgDfias" ++
    "0B9pok0Cda7rcgDevongCevvogDevongCevvogDfi7bgCedh4gDfi7bgCevvogDevongCevvogDevongCevvogDevon" ++
    "gCd8jsgDgn4jgCd8jsgDh9j7gCcm58gDh9j7gCcm58gDh9j7gCd8jsgDgn4jgCd8jsgDgn4jgCd8jsgDh9j7gCcm58g" ++
    "Dh9j7gCcm58gDh9j7gCd8jsgDgn4jgCd8jsgDgn4jgCd8jsgDgn4jgCd8jsgDh9j7gCcm58gDh9j7gCcm58gDh9j7gC" ++
    "d8jsgDgn4jgCd8jsgDgn4jgCd8jsgDh9j7gCcm58gDh9j7gCcm58gDh9j7gCaupcgDjjdngCacaogDjjdngCacaogDj" ++
    "jdngCaupcgDjjdngCacaogDjjdngCacaogDjjdngCacaogDjjdngCacaogDjjdngCacaogDjjdngCaupcgDjjdngCac" ++
    "aogDjjdngCacaogDjjdngCacaogDjjdngCacaogD|MST7"),
   ("America/Winnipeg",
    "-23316 -21600 -18000|-2602258284|Br1qiqcCc3fjgB1f9ppgCg4lvgBheagggCauibgB43iucgC3dg2rgBieng" ++
    "gCclu7gBg4t0gCclu7gBh9q8gCclu7gBh9q8gCclu7gBhut8gCcglfgBhcekgCclu7gBh9q8gCclu7gBh9q8gCclu7g" ++
    "Bh9q8gCclu7gBh9q8gCclu7gBhs8sgCclu7gBh9q8gCclu7gBh9q8gCclu7gBh9q8gCevongBevvogCclu7gB2drpsg" ++
    "Cc3fjgB2drpsgCfias0Bevs80Cevs80Bevs80Cevs80Bevs80Cevs80Bevs80Cevs80Bevs80Cfias0Bevs80Cevs80" ++
    "Bevs80Cevs80Bevs80Cevs80Bevs80Cevs80Bevs80Cfias0Beddk0Cfias0Bevs80Cevs80Bevs80Cevs80Bevs80C" ++
    "evs80Bevs80Cevs80Bevs80Cfias0Beddk0Cfias0Bevs80Cevs80Bevs80Cevs80Bevs80Cevs80Bd8gc0Cgn840Bd" ++
    "8gc0Ch9mo0Bcm1o0Ch9mo0Bcm1o0Ch9mo0Bd8gc0Cgn840Bd8gc0Cgn840Bd8gc0Ch9mo0Bcm1o0Ch9mo0Bcm1o0Ch9" ++
    "mo0Bd8gc0Cgn840Bd8gc0Cgn840Bd8gc0Cgn840Bd8gc0Ch9mo0Bcm1o0Ch9mo0Bcm1o0Ch9mo0Bd8gc0Cgn840Bd8g" ++
    "c0Cgn840Bd8gc0Ch9mo0Bcm1o0Ch9mo0Bcm1o0Ch9j7gBaupcgC|CST6CDT,M3.2.0,M11.1.0"),
   ("America/Yakutat",
    "52865 -33535 -32400 -28800|-3225223727|Bus8efeC1703s7hD3dg2rgCm5e88gDevongCevvogDevongCevvo" ++
    "gDfi7bgCevvogDevongCevvogDevongC5ologDo72ngC9ps4gDk5sbgCevvogDfi7bgCedh4gDfi7bgCevvogDevong" ++
    "CevvogDevongCevvogDevongCevvogDevongCevvogDfi7bgCedh4gDfi7bgCevvogDevongCevvogDevongCevvogD" ++
    "evongCd8jsgDgn4jgCd8jsgDh9j7gCcm58gDh9j7gCcm58gDh9j7gCd8jsgDgn4jgCd8jsgDgn4jgCd8jsgDh9j7gCc" ++
    "m58gDh9j7gCcm58gDh9j7gCd8jsgDgn4jgCd8jsgDgn4jgCd8jsgDgn4jgCd8jsgDh9j7gCcm58gDh9j7gCcm58gDh9" ++
    "j7gCd8jsgDgn4jgCd8jsgDgn4jgCd8jsgDh9j7gCcm58gDh9j7gCcm58gDh9j7gCaupcgD|AKST9AKDT,M3.2.0,M11" ++
    ".1.0")]

end ClusterMetrics.Zone.Table
