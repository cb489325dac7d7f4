/-! # Zones without a place

Each entry pairs a zone name with its encoded history. -/

namespace ClusterMetrics.Zone.Table

/-- The zones named for an **offset or a rule** rather than a place. -/
def placeless : List (String × String) :=
  [("CET",
    "3600 7200|-1693706400|BcjgsgAg7kt0Bcm1o0Ah9mo0Bcm1o0Ak89mg0B2drmc0Ac3j40Bfias0Aevs80Bevs80A" ++
    "evs80Bdoak0Atlc8o0Beddk0Afias0Bevs80Aevs80Bevs80Afias0Beddk0Aevs80Bevs80Aevs80Bevs80Aevs80B" ++
    "evs80Aevs80Bfias0Aevs80Bevs80Aevs80Bevs80Aevs80Bevs80Aevs80Bevs80Aevs80Bevs80Aevs80Bfias0Ae" ++
    "vs80Bevs80Aevs80Bevs80Aevs80Bevs80Aevs80Bevs80Aevs80Bevs80Afias0B|CET-1CEST,M3.5.0,M10.5.0/" ++
    "3"),
   ("CST6CDT",
    "-21600 -18000|-1633276800|Bh9j7gAcm58gBh9j7gAkus8ogB3dg2rgAk9en8gBevongAevvogBevongAevvogBe" ++
    "vongAevvogBevongAevvogBfi7bgAevvogBevongAevvogBevongA5ologBo72ngA9ps4gBk5sbgAevvogBfi7bgAed" ++
    "h4gBfi7bgAevvogBevongAevvogBevongAevvogBevongAevvogBevongAevvogBfi7bgAedh4gBfi7bgAevvogBevo" ++
    "ngAevvogBevongAevvogBevongAd8jsgBgn4jgAd8jsgBh9j7gAcm58gBh9j7gAcm58gBh9j7gAd8jsgBgn4jgAd8js" ++
    "gBgn4jgAd8jsgBh9j7gAcm58gBh9j7gAcm58gBh9j7gAd8jsgBgn4jgAd8jsgBgn4jgAd8jsgBgn4jgAd8jsgBh9j7g" ++
    "Acm58gBh9j7gAcm58gBh9j7gAd8jsgBgn4jgAd8jsgBgn4jgAd8jsgBh9j7gAcm58gBh9j7gAcm58gBh9j7gAaupcgB" ++
    "|CST6CDT,M3.2.0,M11.1.0"),
   ("EET",
    "7200 10800|228877200|Beddk0Afias0Bevs80Aevs80Bevs80Afias0Beddk0Aevs80Bevs80Aevs80Bevs80Aevs" ++
    "80Bevs80Aevs80Bfias0Aevs80Bevs80Aevs80Bevs80Aevs80Bevs80Aevs80Bevs80Aevs80Bevs80Aevs80Bfias" ++
    "0Aevs80Bevs80Aevs80Bevs80Aevs80Bevs80Aevs80Bevs80Aevs80Bevs80Afias0B|EET-2EEST,M3.5.0/3,M10" ++
    ".5.0/4"),
   ("EST",
    "-18000|0||EST5"),
   ("EST5EDT",
    "-18000 -14400|-1633280400|Bh9j7gAcm58gBh9j7gAkus8ogB3dg2rgAk9en8gBevongAevvogBevongAevvogBe" ++
    "vongAevvogBevongAevvogBfi7bgAevvogBevongAevvogBevongA5ologBo72ngA9ps4gBk5sbgAevvogBfi7bgAed" ++
    "h4gBfi7bgAevvogBevongAevvogBevongAevvogBevongAevvogBevongAevvogBfi7bgAedh4gBfi7bgAevvogBevo" ++
    "ngAevvogBevongAevvogBevongAd8jsgBgn4jgAd8jsgBh9j7gAcm58gBh9j7gAcm58gBh9j7gAd8jsgBgn4jgAd8js" ++
    "gBgn4jgAd8jsgBh9j7gAcm58gBh9j7gAcm58gBh9j7gAd8jsgBgn4jgAd8jsgBgn4jgAd8jsgBgn4jgAd8jsgBh9j7g" ++
    "Acm58gBh9j7gAcm58gBh9j7gAd8jsgBgn4jgAd8jsgBgn4jgAd8jsgBh9j7gAcm58gBh9j7gAcm58gBh9j7gAaupcgB" ++
    "|EST5EDT,M3.2.0,M11.1.0"),
   ("Etc/GMT",
    "0|0||GMT0"),
   ("Etc/GMT+1",
    "-3600|0||<-01>1"),
   ("Etc/GMT+10",
    "-36000|0||<-10>10"),
   ("Etc/GMT+11",
    "-39600|0||<-11>11"),
   ("Etc/GMT+12",
    "-43200|0||<-12>12"),
   ("Etc/GMT+2",
    "-7200|0||<-02>2"),
   ("Etc/GMT+3",
    "-10800|0||<-03>3"),
   ("Etc/GMT+4",
    "-14400|0||<-04>4"),
   ("Etc/GMT+5",
    "-18000|0||<-05>5"),
   ("Etc/GMT+6",
    "-21600|0||<-06>6"),
   ("Etc/GMT+7",
    "-25200|0||<-07>7"),
   ("Etc/GMT+8",
    "-28800|0||<-08>8"),
   ("Etc/GMT+9",
    "-32400|0||<-09>9"),
   ("Etc/GMT-1",
    "3600|0||<+01>-1"),
   ("Etc/GMT-10",
    "36000|0||<+10>-10"),
   ("Etc/GMT-11",
    "39600|0||<+11>-11"),
   ("Etc/GMT-12",
    "43200|0||<+12>-12"),
   ("Etc/GMT-13",
    "46800|0||<+13>-13"),
   ("Etc/GMT-14",
    "50400|0||<+14>-14"),
   ("Etc/GMT-2",
    "7200|0||<+02>-2"),
   ("Etc/GMT-3",
    "10800|0||<+03>-3"),
   ("Etc/GMT-4",
    "14400|0||<+04>-4"),
   ("Etc/GMT-5",
    "18000|0||<+05>-5"),
   ("Etc/GMT-6",
    "21600|0||<+06>-6"),
   ("Etc/GMT-7",
    "25200|0||<+07>-7"),
   ("Etc/GMT-8",
    "28800|0||<+08>-8"),
   ("Etc/GMT-9",
    "32400|0||<+09>-9"),
   ("Etc/UTC",
    "0|0||UTC0"),
   ("Factory",
    "0|0||<-00>0"),
   ("HST",
    "-36000|0||HST10"),
   ("MET",
    "3600 7200|-1693706400|BcjgsgAg7kt0Bcm1o0Ah9mo0Bcm1o0Ak89mg0B2drmc0Ac3j40Bfias0Aevs80Bevs80A" ++
    "evs80Bdoak0Atlc8o0Beddk0Afias0Bevs80Aevs80Bevs80Afias0Beddk0Aevs80Bevs80Aevs80Bevs80Aevs80B" ++
    "evs80Aevs80Bfias0Aevs80Bevs80Aevs80Bevs80Aevs80Bevs80Aevs80Bevs80Aevs80Bevs80Aevs80Bfias0Ae" ++
    "vs80Bevs80Aevs80Bevs80Aevs80Bevs80Aevs80Bevs80Aevs80Bevs80Afias0B|MET-1MEST,M3.5.0,M10.5.0/" ++
    "3"),
   ("MST",
    "-25200|0||MST7"),
   ("MST7MDT",
    "-25200 -21600|-1633273200|Bh9j7gAcm58gBh9j7gAkus8ogB3dg2rgAk9en8gBevongAevvogBevongAevvogBe" ++
    "vongAevvogBevongAevvogBfi7bgAevvogBevongAevvogBevongA5ologBo72ngA9ps4gBk5sbgAevvogBfi7bgAed" ++
    "h4gBfi7bgAevvogBevongAevvogBevongAevvogBevongAevvogBevongAevvogBfi7bgAedh4gBfi7bgAevvogBevo" ++
    "ngAevvogBevongAevvogBevongAd8jsgBgn4jgAd8jsgBh9j7gAcm58gBh9j7gAcm58gBh9j7gAd8jsgBgn4jgAd8js" ++
    "gBgn4jgAd8jsgBh9j7gAcm58gBh9j7gAcm58gBh9j7gAd8jsgBgn4jgAd8jsgBgn4jgAd8jsgBgn4jgAd8jsgBh9j7g" ++
    "Acm58gBh9j7gAcm58gBh9j7gAd8jsgBgn4jgAd8jsgBgn4jgAd8jsgBh9j7gAcm58gBh9j7gAcm58gBh9j7gAaupcgB" ++
    "|MST7MDT,M3.2.0,M11.1.0"),
   ("PST8PDT",
    "-28800 -25200|-1633269600|Bh9j7gAcm58gBh9j7gAkus8ogB3dg2rgAk9en8gBevongAevvogBevongAevvogBe" ++
    "vongAevvogBevongAevvogBfi7bgAevvogBevongAevvogBevongA5ologBo72ngA9ps4gBk5sbgAevvogBfi7bgAed" ++
    "h4gBfi7bgAevvogBevongAevvogBevongAevvogBevongAevvogBevongAevvogBfi7bgAedh4gBfi7bgAevvogBevo" ++
    "ngAevvogBevongAevvogBevongAd8jsgBgn4jgAd8jsgBh9j7gAcm58gBh9j7gAcm58gBh9j7gAd8jsgBgn4jgAd8js" ++
    "gBgn4jgAd8jsgBh9j7gAcm58gBh9j7gAcm58gBh9j7gAd8jsgBgn4jgAd8jsgBgn4jgAd8jsgBgn4jgAd8jsgBh9j7g" ++
    "Acm58gBh9j7gAcm58gBh9j7gAd8jsgBgn4jgAd8jsgBgn4jgAd8jsgBh9j7gAcm58gBh9j7gAcm58gBh9j7gAaupcgB" ++
    "|PST8PDT,M3.2.0,M11.1.0"),
   ("WET",
    "0 3600|228877200|Beddk0Afias0Bevs80Aevs80Bevs80Afias0Beddk0Aevs80Bevs80Aevs80Bevs80Aevs80Be" ++
    "vs80Aevs80Bfias0Aevs80Bevs80Aevs80Bevs80Aevs80Bevs80Aevs80Bevs80Aevs80Bevs80Aevs80Bfias0Aev" ++
    "s80Bevs80Aevs80Bevs80Aevs80Bevs80Aevs80Bevs80Aevs80Bevs80Afias0B|WET0WEST,M3.5.0/1,M10.5.0")]

end ClusterMetrics.Zone.Table
