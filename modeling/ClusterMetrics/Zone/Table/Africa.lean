/-! # Zones of Africa

Each entry pairs a zone name with its encoded history. -/

namespace ClusterMetrics.Zone.Table

/-- The zones of **Africa**. -/
def africa : List (String × String) :=
  [("Africa/Abidjan",
    "-968 0|-1830383032|B|GMT0"),
   ("Africa/Accra",
    "-52 0 1200 1800|-1709337548|B3q682cC34c3gBk3clgCa1kigBk0o9gCa1kigBk0o9gCa1kigBk0o9gCa1kigBk" ++
    "3clgCa1kigBk0o9gCa1kigBk0o9gCa1kigBk0o9gCa1kigBk3clgCa1kigBk0o9gCa1kigBk0o9gCa1kigBk0o9gCa1" ++
    "kigBk3clgCa1kigBk0o9gCa1kigBk0o9gCa1kigBk0o9gCa1kigBk3clgCa1kigBk0o9gCa1kigBk0o9gCa1kigBk0o" ++
    "9gCa1kigB9v2hgCk5umgB9se5gCk5umgB340cgD3ll5noB4c01t8Da1jvoBk0os8Da1jvoBk3d88Da1jvoBk0os8Da1" ++
    "jvoBk0os8Da1jvoBk0os8Da1jvoB|GMT0"),
   ("Africa/Addis_Ababa",
    "9288 9320 10800|-3155682888|B1ucfm70C|EAT-3"),
   ("Africa/Algiers",
    "732 561 0 3600 7200|-2486592732|Bipdd9bC4uea51D8vcs0Ceap80Dg7ds0Ccjdc0Dhcb40Cc0uo0Dhupo0Cas" ++
    "1g0Dkoeg0Cbmd80D85140Ch4e000D5jd0gC82jp0D3rgajgEffivgDeg5ggEdo3j0Dvpoo0C8o7isgD6ornfgC7ho48" ++
    "0Dcm1o0C58o3ggDqh0o0EevvogD10rqj0CevvogDfiecgCevongD|CET-1"),
   ("Africa/Asmara",
    "9332 9320 10800|-2524530932|B1biiescC|EAT-3"),
   ("Africa/Bamako",
    "-1920 0 -3600|-1830382080|Bkqo8k0ContjkgB|GMT0"),
   ("Africa/Bangui",
    "4460 3600|-1830388460|B|WAT-1"),
   ("Africa/Banjul",
    "-3996 -3600 0|-1159829604|B89va3kC|GMT0"),
   ("Africa/Bissau",
    "-3740 -3600 0|-1830380400|B1r81h40C|GMT0"),
   ("Africa/Blantyre",
    "8400 8470 8460 7200|-1844302800|B2oahtqCab4v4aD|CAT-2"),
   ("Africa/Brazzaville",
    "3668 3600|-1830387668|B|WAT-1"),
   ("Africa/Bujumbura",
    "7048 7200|-2524528648|B|CAT-2"),
   ("Africa/Cairo",
    "7509 7200 10800|-2185409109|B15dcpplC6dhngBg4t0gCclu7gBg7hcgCh6urgBcre0gChk4ngBcgsggChk4ngB" ++
    "dlpogCgcj3gBaqndggCbrifgBhf30gCcj9rgBhf6h0CcgsggBhk4ngCcgsggBhhgbgCcgsggBhhgbgCcgsggBhhgbgC" ++
    "cgsggBhk4ngCcgsggBhhgbgCcgsggBhhgbgCcjgsgBhervgCcjgsgBhhgbgCcjgsgBhervgCcjgsgBhervgCcjgsgBh" ++
    "ervgCcjgsgBhhgbgCcjgsgBhervgCcjgsgBhervgCcjgsgBhervgCcjgsgBhhgbgCcjgsgBhervgCcjgsgBhervgCcj" ++
    "gsgBhervgCcjgsgBhhgbgCcjgsgBhervgCcjgsgBoevrgC5jd0gBncmvgC6llsgBhhgbgCcjgsgBhervgCcjgsgBher" ++
    "vgCcjgsgBhervgCcjgsgBhhgbgCcjgsgBhs1rgCc6b0gBhervgCcjgsgBhervgCcjgsgBhhgbgCcjgsgBhervgCcjgs" ++
    "gBhervgCcjgsgBh6rb0Cclu7gBh9q8gCclu7gBh9q8gCclu7gBh9q8gCclu7gBhs8sgCclu7gBh9q8gCclu7gBh9q8g" ++
    "Cclu7gBh9q8gCclu7gBh9q8gCclu7gBhs8sgCclu7gBh9q8gCclu7gBh9q8gCc3fjgBhs8sgCauibgBj164gCac3ngB" ++
    "jjkogC9pl3gBkoi0gC8ff3gB2f6ogC1n8bgB3d0fkgC3ek7gB2sckgC4jhfgB82crggC|EET-2EEST,M4.5.5/0,M10" ++
    ".5.4/24"),
   ("Africa/Casablanca",
    "-1820 0 3600|-1773012580|Boaq6n4C5j5vgB82g8gC5cehbgB498s8gCbh0vgBfjeiigC9qv9gB6ah58gC5lqbgB" ++
    "1i37ggC7ievgBmftsgCcbcngBk8nogC58kfgB5900kgC1m1ifgBl2itkgC7ievgBmftsgC6lergBktqogC8297gBjjk" ++
    "ogC9pl3gBmg4tgC6o6o0B2hnk0C3c3c0Bh9mo0C5oi80B2pko0C6dl80Bcm1o0C7d9o0B2s940C703s0Bcm1o0C6b0s" ++
    "0B2s940C82co0Bcm1o0C5oi80B2s940C97a00Bc3j40C4jl00B3eno0C9pok0Bc3j40C416c0B2s940Cqh0o0B2s940" ++
    "Cpui40B3eno0Cpui40B2s940Cpui40B3eno0Cpui40B2s940Cqh0o0B2s940Cpui40B3eno0Cpui40B2s940Cqh0o0B" ++
    "2s940Cpui40B3eno0Cpui40B2s940Cpui40B3eno0Cpui40B2s940Cqh0o0B2s940Cpui40B3eno0Cpui40B2s940Cp" ++
    "ui40B3eno0Cpui40B3eno0Cpui40B2s940Cpui40B3eno0Cpui40B2s940Cqh0o0B2s940Cpui40B3eno0Cpui40B2s" ++
    "940Cpui40B3eno0Cpui40B3eno0Cpui40B2s940Cpui40B3eno0Cpui40B2s940Cqh0o0B2s940Cpui40B3eno0Cpui" ++
    "40B2s940Cpui40B3eno0Cpui40B3eno0Cpui40B2s940Cpui40B3eno0Cpui40B2s940Cqh0o0B2s940Cpui40B3eno" ++
    "0Cpui40B2s940Cpui40B3eno0Cpui40B3eno0Cpui40B2s940Cpui40B3eno0Cpui40B2s940Cqh0o0B2s940Cpui40" ++
    "B3eno0Cpui40B2s940Cpui40B3eno0Cpui40B3eno0Cpui40B2s940Cpui40B3eno0Cpui40B2s940Cqh0o0B2s940C" ++
    "pui40B3eno0Cpui40B2s940Cpui40B3eno0Cpui40B3eno0Cpui40B2s940Cpui40B3eno0Cpui40B2s940Cqh0o0B2" ++
    "s940Cpui40B3eno0Cpui40B2s940Cpui40B3eno0Cpui40B2s940Cqh0o0B2s940Cpui40B3eno0Cpui40B2s940Cqh" ++
    "0o0B2s940Cpui40B3eno0C|<+00>0<+01>,0/0,J365/25"),
   ("Africa/Ceuta",
    "-1276 0 3600 7200|-2177452800|Bg9vg3gCclu7gB56908gCe2vkgB1e4efgCdr2ggBfi7bgCedh4gBg4pg0Cedd" ++
    "k0B14bage0C9qv9gB6ah58gC5lqbgB1i37ggC7ievgBmftsgCcbcngBk8nogC58kfgB5900kgC1t9qggDevs80Cevs8" ++
    "0Devs80Cevs80Devs80Cevs80Devs80Cevs80Dfias0Cevs80Devs80Cevs80Devs80Cevs80Devs80Cevs80Devs80" ++
    "Cevs80Devs80Cfias0D|CET-1CEST,M3.5.0,M10.5.0/3"),
   ("Africa/Conakry",
    "-3292 0 -3600|-1830380708|Bkqo794Co9qnggB|GMT0"),
   ("Africa/Dakar",
    "-4184 -3600 0|-1830379816|Brl8sdoC|GMT0"),
   ("Africa/Dar_es_Salaam",
    "9428 10800 9900|-1230777428|Bfvjb14Cc79po4B|EAT-3"),
   ("Africa/Djibouti",
    "10356 10800|-1846291956|B|EAT-3"),
   ("Africa/Douala",
    "2328 3600|-1830386328|B|WAT-1"),
   ("Africa/El_Aaiun",
    "-3168 -3600 0 3600|-1136070432|B17ohftgC1cmrgD7ievgCmftsgDcbcngCk8nogD58kfgCs1kgogD7ievgCmf" ++
    "tsgD6lergCktqogD8297gCjjkogD9pl3gCmg4tgD6o6o0C2hnk0D3c3c0Ch9mo0D5oi80C2pko0D6dl80Ccm1o0D7d9" ++
    "o0C2s940D703s0Ccm1o0D6b0s0C2s940D82co0Ccm1o0D5oi80C2s940D97a00Cc3j40D4jl00C3eno0D9pok0Cc3j4" ++
    "0D416c0C2s940Dqh0o0C2s940Dpui40C3eno0Dpui40C2s940Dpui40C3eno0Dpui40C2s940Dqh0o0C2s940Dpui40" ++
    "C3eno0Dpui40C2s940Dqh0o0C2s940Dpui40C3eno0Dpui40C2s940Dpui40C3eno0Dpui40C2s940Dqh0o0C2s940D" ++
    "pui40C3eno0Dpui40C2s940Dpui40C3eno0Dpui40C3eno0Dpui40C2s940Dpui40C3eno0Dpui40C2s940Dqh0o0C2" ++
    "s940Dpui40C3eno0Dpui40C2s940Dpui40C3eno0Dpui40C3eno0Dpui40C2s940Dpui40C3eno0Dpui40C2s940Dqh" ++
    "0o0C2s940Dpui40C3eno0Dpui40C2s940Dpui40C3eno0Dpui40C3eno0Dpui40C2s940Dpui40C3eno0Dpui40C2s9" ++
    "40Dqh0o0C2s940Dpui40C3eno0Dpui40C2s940Dpui40C3eno0Dpui40C3eno0Dpui40C2s940Dpui40C3eno0Dpui4" ++
    "0C2s940Dqh0o0C2s940Dpui40C3eno0Dpui40C2s940Dpui40C3eno0Dpui40C3eno0Dpui40C2s940Dpui40C3eno0" ++
    "Dpui40C2s940Dqh0o0C2s940Dpui40C3eno0Dpui40C2s940Dpui40C3eno0Dpui40C3eno0Dpui40C2s940Dpui40C" ++
    "3eno0Dpui40C2s940Dqh0o0C2s940Dpui40C3eno0Dpui40C2s940Dpui40C3eno0Dpui40C2s940Dqh0o0C2s940Dp" ++
    "ui40C3eno0Dpui40C2s940Dqh0o0C2s940Dpui40C3eno0D|<+00>0<+01>,0/0,J365/25"),
   ("Africa/Freetown",
    "-3180 -3600 -2400 0|-1783120020|Bi8e894C9v06gBcjehgCheuagBcjehgCheuagBcjehgChhimgBcjehgCheu" ++
    "agBcjehgCheuagBcjehgCmfp6gB7ijlgCagagB23sm5gD|GMT0"),
   ("Africa/Gaborone",
    "6220 5400 7200 10800|-2682294220|Bh2enpkC164f7ooDevongC|CAT-2"),
   ("Africa/Harare",
    "7452 7200|-2109290652|B|CAT-2"),
   ("Africa/Johannesburg",
    "6720 5400 7200 10800|-2458173120|Bacn3h8C156ff8oDevongCevvogDevongC|SAST-2"),
   ("Africa/Juba",
    "7588 7200 10800|-1230775588|B14vkf84Cdo73gBg7hcgCdqrfgBga5ogCdqrfgBg4t0gCdtfrgBg28kgCe047gB" ++
    "fvk8gCe2ojgBfsvsgCe81bgBfnn4gCealngBg7hcgCdqrfgBg4t0gCdtfrgBg28kgCe2ojgBfsvsgCe5cvgBfqbggCe" ++
    "81bgBfnn4gCealngBg7hcgCdtfrgBg28kgCe047gBdcthigCjpdl9gB|CAT-2"),
   ("Africa/Kampala",
    "7780 10800 9000 9900|-1309745380|B1d7etkCgtlr08D8etg3sB|EAT-3"),
   ("Africa/Khartoum",
    "7808 7200 10800|-1230775808|B14vkff0Cdo73gBg7hcgCdqrfgBga5ogCdqrfgBg4t0gCdtfrgBg28kgCe047gB" ++
    "fvk8gCe2ojgBfsvsgCe81bgBfnn4gCealngBg7hcgCdqrfgBg4t0gCdtfrgBg28kgCe2ojgBfsvsgCe5cvgBfqbggCe" ++
    "81bgBfnn4gCealngBg7hcgCdtfrgBg28kgCe047gBdcthigCgnh7pgB|CAT-2"),
   ("Africa/Kigali",
    "7216 7200|-1091498416|B|CAT-2"),
   ("Africa/Kinshasa",
    "3672 3600|-2276643672|B|WAT-1"),
   ("Africa/Lagos",
    "815 0 1800 3600|-2035584815|B2q9rpfA55jouhC5afat7D|WAT-1"),
   ("Africa/Libreville",
    "2268 3600|-1830386268|B|WAT-1"),
   ("Africa/Lome",
    "292 0|-2429827492|B|GMT0"),
   ("Africa/Luanda",
    "3176 3124 3600|-2461452776|BipqiioC|WAT-1"),
   ("Africa/Lubumbashi",
    "6592 3600 7200|-2276646592|Bl3qelgC|CAT-2"),
   ("Africa/Lusaka",
    "6788 7200|-2109289988|B|CAT-2"),
   ("Africa/Malabo",
    "2108 0 3600|-1830386108|B1grie1sC|WAT-1"),
   ("Africa/Maputo",
    "7818 7200|-1924999818|B|CAT-2"),
   ("Africa/Maseru",
    "6600 7200 10800|-2109289800|B164f8u8CevongB|SAST-2"),
   ("Africa/Mbabane",
    "7464 7200|-2109290664|B|SAST-2"),
   ("Africa/Mogadishu",
    "10888 10800 9000|-2403572488|B12ueqaoCoegv48B|EAT-3"),
   ("Africa/Monrovia",
    "-2588 -2670 0|-1604359012|B1hmlreiC|GMT0"),
   ("Africa/Nairobi",
    "8836 9000 10800 9900|-1946168836|Biuu22sC1di1joB6ibj48D57tjbsC|EAT-3"),
   ("Africa/Ndjamena",
    "3612 3600 7200|-1830387612|B1vnvs8cCc0r7gB|WAT-1"),
   ("Africa/Niamey",
    "508 -3600 0 3600|-1830384508|BkqoegcCo9qgfgD|WAT-1"),
   ("Africa/Nouakchott",
    "-3828 0 -3600|-1830380172|Bkqo6ocCp5640gB|GMT0"),
   ("Africa/Ouagadougou",
    "-364 0|-1830383636|B|GMT0"),
   ("Africa/Porto-Novo",
    "628 0 3600|-1830384628|Bkqob3kC|WAT-1"),
   ("Africa/Sao_Tome",
    "1616 -2205 0 3600|-2713912016|Bqaj4agC33m5ucgDu2cs0C|GMT0"),
   ("Africa/Tripoli",
    "3164 3600 7200|-1577926364|BtshrvcC6fv2gB1la95gC6t4ugB1kfmcgC7l3bgB2q9uggClk6urgB7dd8gCf2d3" ++
    "gBevvogCf2d3gBf2k4gCf2d3gBfd5kgCel77gBf7ssgCevongBeqn0gCf2d3gBf2k4gCf2d3gBevvogCf2d3gBhn04g" ++
    "C60sebgBfah8gCeliokgBbeg40C|EET-2"),
   ("Africa/Tunis",
    "2444 561 3600 7200|-2797202444|Bs1kf2rCqdke4hDhs5c0C85140D1gecg0Ccm58gDjjo90Cc3j40D1hvjgCl6" ++
    "ggDdb17gCevvogDffbugCegchgDdo02gCtnjicgDc3j40Ci1e40Dcjdc0C92u840D9hrg0Cevs80Devs80Ci1e40Dcg" ++
    "p00Cdmtpk0DcgsggCeipsgDhs5c0Cc3j40Dhs5c0Ccm1o0Dh9mo0C|CET-1"),
   ("Africa/Windhoek",
    "4104 5400 7200 10800 3600|-2458170504|Bacn0vgC156ff8oDevongC1fuslvgEdol5gCh9j7gEcm58gChs1rg" ++
    "Ec3mkgChs1rgEcm58gCh9j7gEcm58gCh9j7gEcm58gCh9j7gEcm58gCh9j7gEcm58gChs1rgEc3mkgChs1rgEcm58gC" ++
    "h9j7gEcm58gCh9j7gEcm58gCh9j7gEcm58gCh9j7gEcm58gChs1rgEcm58gCh9j7gEcm58gCh9j7gEcm58gCh9j7gEc" ++
    "m58gCh9j7gEcm58gChs1rgEc3mkgChs1rgEcm58gCh9j7gEcm58gCh9j7gEcm58gCh9j7gEcm58gC|CAT-2")]

end ClusterMetrics.Zone.Table
