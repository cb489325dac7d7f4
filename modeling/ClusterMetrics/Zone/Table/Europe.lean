/-! # Zones of Europe

Each entry pairs a zone name with its encoded history. -/

namespace ClusterMetrics.Zone.Table

/-- The zones of **Europe**. -/
def europe : List (String × String) :=
  [("Europe/Amsterdam",
    "1172 4772 4800 1200 7200 3600|-1693700372|Bcj9rgAg7odgBcm1o0Ag4pg0Bevs80Afias0Beddk0Afias0B" ++
    "eddk0Afias0Beddk0Aet7s0Bg4pg0Aje8g0Bahg00Aeddk0Bfias0Ak0n40B9v1c0Aibvk0Bbjos0Aiek00Bbh4g0Ai" ++
    "jso0Bbuac0Ai42g0Bbrm00Ai6ms0Bbp1k0Ai9b80Bbmd80Aj12k0Bauls0Aih8c0Bc0uo0Ai1e40Bbuac0Ai42g0Bbr" ++
    "m00Ai9b80Bbmd80Aiue80B394egC7o5okDiek00Cbh4g0Dih8c0Cc0uo0Di6fr0E2a5660Fc3j40Efias0Fevs80Eev" ++
    "s80Fevs80Edoak0Ftlc8o0Eeddk0Ffias0Eevs80Fevs80Eevs80Ffias0Eeddk0Fevs80Eevs80Fevs80Eevs80Fev" ++
    "s80Eevs80Fevs80Efias0Fevs80Eevs80Fevs80Eevs80Fevs80Eevs80Fevs80Eevs80Fevs80Eevs80Fevs80Efia" ++
    "s0Fevs80Eevs80Fevs80Eevs80Fevs80Eevs80Fevs80Eevs80Fevs80Eevs80Ffias0E|CET-1CEST,M3.5.0,M10." ++
    "5.0/3"),
   ("Europe/Andorra",
    "364 0 3600 7200|-2177453164|B1b0m9rcC146lkogDevs80Cevs80Devs80Cevs80Devs80Cevs80Devs80Cevs8" ++
    "0Devs80Cevs80Dfias0Cevs80Devs80Cevs80Devs80Cevs80Devs80Cevs80Devs80Cevs80Devs80Cfias0D|CET-" ++
    "1CEST,M3.5.0,M10.5.0/3"),
   ("Europe/Astrakhan",
    "11532 10800 14400 18000|-1441249932|B5onhesC1fo73jgDf2d3gCevvogDf2d3gCevvogDf2d3gCf2k4gDf03" ++
    "90Cevs80Devs80Cevs80Devs80Cevs80Devs80Cevs80Devs80Ctvs0gBevs80Cfias0Bevs80C1cvko0Bevs80Cevs" ++
    "80Bevs80Cevs80Bevs80Cevs80Bfias0Ch9mo0Bcm1o0Ch9mo0Bcm1o0Ch9mo0Bcm1o0Chs5c0Bc3j40Chs5c0Bc3j4" ++
    "0Chs5c0Bcm1o0Ch9mo0Bcm1o0Ch9mo0Bcm1o0Chs5c0Bc3j40Chs5c0Bc3j40Chs5c0Bc3j40Chs5c0Bcm1o0Ch9mo0" ++
    "Bcm1o0Ch9mo0Bcm1o0Chs5c0Bc3j40C3brbbgB1altogC|<+04>-4"),
   ("Europe/Athens",
    "5692 7200 10800 3600|-1686101632|Bevpi30C4jhfgB82nd0gC1sh3gB1dd8m0Dc60f0BffivgDf2k4gB7o0d7g" ++
    "Ca6qvgBl3al0gCip5g0Bb9ed0Cevs80Beddk0Ceg200Bffmg0Cedh4gBfivv0Cesbo0Bf7lrgCeqfvgBf0aa0Cevs80" ++
    "Bevs80Cevs80Bevs80Cevs80Bevs80Cfias0Bevs80Cevs80Bevs80Cevs80Bevs80Cevs80Bevs80Cevs80Bevs80C" ++
    "evs80Bevs80Cfias0Bevs80Cevs80Bevs80Cevs80Bevs80Cevs80Bevs80Cevs80Bevs80Cevs80Bfias0C|EET-2E" ++
    "EST,M3.5.0/3,M10.5.0/4"),
   ("Europe/Belgrade",
    "4920 3600 7200|-2713915320|B1lsahcoC1ea59gBc3j40Cfias0Bevs80Cevs80Bhupo0Capd40B139aro0Cevs8" ++
    "0Bevs80Cfias0Bevs80Cevs80Bevs80Cevs80Bevs80Cevs80Bevs80Cevs80Bevs80Cevs80Bevs80Cfias0Bevs80" ++
    "Cevs80Bevs80Cevs80Bevs80Cevs80Bevs80Cevs80Bevs80Cevs80Bfias0C|CET-1CEST,M3.5.0,M10.5.0/3"),
   ("Europe/Berlin",
    "3208 3600 7200 10800|-2422054408|Blmjdb8CcjgsgBg7kt0Ccm1o0Bh9mo0Ccm1o0Bk89mg0C2drmc0Bc3j40C" ++
    "fias0Bevs80Cevs80Bevs80C48vvgDa4a40C4h44gBc3j40Ceg200BetbcgC2s5jgD412rgC82g8gBg4pg0Cdqv00Bf" ++
    "ias0Ceddk0Bsm7j00Ceddk0Bevs80Cevs80Bevs80Cevs80Bevs80Cevs80Bevs80Cfias0Bevs80Cevs80Bevs80Ce" ++
    "vs80Bevs80Cevs80Bevs80Cevs80Bevs80Cevs80Bevs80Cfias0Bevs80Cevs80Bevs80Cevs80Bevs80Cevs80Bev" ++
    "s80Cevs80Bevs80Cevs80Bfias0C|CET-1CEST,M3.5.0,M10.5.0/3"),
   ("Europe/Brussels",
    "1050 0 3600 7200|-2450995200|Bl5n0c0C1cfmvgDcjdc0Cg7kt0Dcm1o0Ch9mo0Dcm1o0C4ko50B93be0Chs5c0" ++
    "Bauls0Ckoeg0Bbmd80Cih8c0Bce4k0Cg4pg0Bg4pg0Cdqv00Beddk0Cfias0Bevs80Cevs80Bg4pg0Cdqv00Bfias0C" ++
    "eddk0Bg4pg0Cedo5gBg4pg0Cdqv00Bfias0Ceddk0Bg4pg0Cdqv00Bevs80Cevs80Beddk0Cg4pg0Bevs80Cevs80Be" ++
    "ddk0Cfias0Bg4pg0Cdqv00Bevs80Cevs80Beddk0Cfias0Bg4pg0Chs5c0B82co0C703s0D29qcfgCc3j40Dfias0Ce" ++
    "vs80Ddoak0Cg7ds0Ddoak0Ck5vs0Dbjos0Cslig00Deddk0Cfias0Devs80Cevs80Devs80Cfias0Deddk0Cevs80De" ++
    "vs80Cevs80Devs80Cevs80Devs80Cevs80Dfias0Cevs80Devs80Cevs80Devs80Cevs80Devs80Cevs80Devs80Cev" ++
    "s80Devs80Cevs80Dfias0Cevs80Devs80Cevs80Devs80Cevs80Devs80Cevs80Devs80Cevs80Devs80Cfias0D|CE" ++
    "T-1CEST,M3.5.0,M10.5.0/3"),
   ("Europe/Bucharest",
    "6264 7200 10800|-1213148664|Bos8aoCb1a80Bevs80Cevs80Bfias0Cevs80Bevs80Cevs80Bevs80Cevs80Bev" ++
    "s80Cevs80Bevs80Cevs80Bevs80Cevs80B159bj40Cac3ngBfias0Cedh4gBf0390Cevs80Bevs80Cevs80Bevs80Ce" ++
    "vs80Bevs80Cfias0Bevs80Cevs80Bevs80Cevs80Bevs80Cevs80Bevs80Cevs80Bevs80Cevs80Bevs80Cfias0Bev" ++
    "l70Cevs80Bevs80Cevs80Bevs80Cevs80Bevs80CevongBevvogCevongBfiecgCh9j7gBcmfq0C|EET-2EEST,M3.5" ++
    ".0/3,M10.5.0/4"),
   ("Europe/Budapest",
    "4580 3600 7200|-2498260580|Bnv91e4CcjgsgBg7kt0Ccm1o0Bh9mo0Ccm1o0Bhcb40Ccjdc0Bgn840Cdqv00Bja" ++
    "c7qgC1f75dgBc3j40Cfias0Bevs80Cevs80BhekugCf2k4gBcbn90CfkrngBetbcgCevs80Bevs80Cevs80Bfias0Ce" ++
    "ddk0B4bic70CauibgBj1d5gCauls0Bk5vs0C9pok0Bk5vs0C9pok0Bl5mpb0Ceddk0Bevs80Cevs80Bevs80Cevs80B" ++
    "evs80Cevs80Bf0390Cfias0Bevs80Cevs80Bevs80Cevs80Bevs80Cevs80Bevs80Cevs80Bevs80Cevs80Bevs80Cf" ++
    "ias0Bevs80Cevs80Bevs80Cevs80Bevs80Cevs80Bevs80Cevs80Bevs80Cevs80Bfias0C|CET-1CEST,M3.5.0,M1" ++
    "0.5.0/3"),
   ("Europe/Chisinau",
    "6920 6900 6264 7200 10800 3600 14400|-2840147720|B13r9lgkCckacnsDos8aoEb1a80Devs80Eevs80Dfi" ++
    "as0Eevs80Devs80Eevs80Devs80Eevs80Devs80Eevs80Devs80Eevs80Devs80Eevs80Dq93k0ErlqfgD16vje0Fc3" ++
    "j40Dfias0Fevs80Dbon2gE12di5rgGf2d3gEevvogGf2d3gEevvogGf2d3gEf2k4gGf0390Eevs80Gevs80Eevs80Ge" ++
    "vs80Eevs80Gevs80Eevs80Gevs80Eevs80Gevs80Eevs80G3ek7gEc3q50Devs80Eevs80Devl70EevongDevvogEev" ++
    "ongDevvogEevongDevvogEevongDfiecgEh9j7gDcmc9gEh9mo0Dcm1o0Eh9mo0Dcm1o0Ehs5c0Dc3j40Ehs5c0Dc3j" ++
    "40Ehs5c0Dcm1o0Eh9mo0Dcm1o0Eh9mo0Dcm1o0Ehs5c0Dc3j40Ehs5c0Dc3j40Ehs5c0Dc3j40Ehs5c0Dcm1o0Eh9mo" ++
    "0Dcm1o0Eh9mo0Dcm1o0Ehs5c0Dc3j40Ehs5c0Dc3j40Ehs5c0Dcm1o0Eh9mo0Dcm1o0Eh9mo0Dcm1o0Eh9mo0Dcm1o0" ++
    "Ehs5c0Dc3j40Ehs5c0Dc3j40Ehs5c0Dcm1o0Eh9mo0Dcm1o0Eh9mo0Dcm1o0Ehs5c0Dc3mkgE|EET-2EEST,M3.5.0/" ++
    "3,M10.5.0/4"),
   ("Europe/Copenhagen",
    "3020 3600 7200|-2398294220|Bl1379cCbecjgBm6r650C2a7st0Bc3j40Cfias0Bevs80Cevs80Bevs80Cb3uk0B" ++
    "lat40Ca4a40Bk5vs0C82co0Bmfqc0C7fu40Btor0g0Ceddk0Bevs80Cevs80Bevs80Cevs80Bevs80Cevs80Bevs80C" ++
    "fias0Bevs80Cevs80Bevs80Cevs80Bevs80Cevs80Bevs80Cevs80Bevs80Cevs80Bevs80Cfias0Bevs80Cevs80Be" ++
    "vs80Cevs80Bevs80Cevs80Bevs80Cevs80Bevs80Cevs80Bfias0C|CET-1CEST,M3.5.0,M10.5.0/3"),
   ("Europe/Dublin",
    "-1521 2079 0 3600|-1691962479|Bauls0Cfi9cfDdb4o0Cffmg0Dfkv80Cet7s0Df2gk0Cet7s0Dhcb40Cd5s00D" ++
    "f2gk0Ceap80Dg4pg0Cg4pg0Dc3j40Ch9mo0Dd8gc0Ch9mo0Ddqv00Cg4pg0Ddqv00Cfias0Deddk0Cgn840Ddqv00Cg" ++
    "4pg0Ddqv00Cfias0Deddk0Cg4pg0Ddqv00Cg4pg0Ddqv00Cfias0Devs80Cg4pg0Ddqv00Cfias0Deddk0Cg4pg0Ddq" ++
    "v00Cg4pg0Ddqv00Cfias0Deddk0Cg4pg0Dhs5c0C82co0D66vlk0Cd8gc0Dj12k0Cdqv00Dg4pg0Ccm1o0Dh9mo0Cdq" ++
    "v00Dfias0Ceddk0Dfias0Cevs80Dfias0Ceddk0Ddqv00Cfias0Deddk0Cg4pg0Ddqv00Cgn840Ddqv00Cfias0Dedd" ++
    "k0Cg4pg0Ddqv00Cg4pg0Ddqv00Cfias0Deddk0Ceddk0Dhs5c0Cc3j40Dhs5c0Ccm1o0Dh9mo0Cc3j40Dhs5c0Cc3j4" ++
    "0Dhs5c0Cc3j40Dhs5c0Cc3j40Diek00C97a00D3fa6k0Cbh4g0Diek00Cbh4g0Diek00Cbh4g0Diek00Cbh4g0Diek0" ++
    "0Cc3j40Dhs5c0Cc3j40Dhs5c0Cc3j40Diek00Cbh4g0Diek00Cbh4g0Diek00Cclu7gDh9mo0Ccm1o0Dh9mo0Ccm1o0" ++
    "Dh9mo0Ccm1o0Dhs5c0Ccm1o0Dh9mo0Ccm1o0Dh9mo0Ccm1o0Dh9mo0Ccm1o0Dh9mo0Ccm1o0Dhs5c0Cc3j40Dhs5c0C" ++
    "cm1o0Dh9mo0Ccm1o0Dh9mo0Ccm1o0Dh9mo0Ccm1o0Dh9mo0Ccm1o0Dh9mo0Cd8gc0D|GMT0IST,M3.5.0/1,M10.5.0"),
   ("Europe/Gibraltar",
    "-1284 0 3600 7200|-2821649916|B11lb8ssCauls0Bfias0Cdb4o0Bffmg0Cfkv80Bet7s0Cf2gk0Bet7s0Chcb4" ++
    "0Bd5s00Cf2gk0Beap80Cg4pg0Bg4pg0Cc3j40Bh9mo0Cd8gc0Bh9mo0Cdqv00Bg4pg0Cdqv00Bfias0Ceddk0Bgn840" ++
    "Cdqv00Bg4pg0Cdqv00Bfias0Ceddk0Bg4pg0Cdqv00Bg4pg0Cdqv00Bfias0Cevs80Bg4pg0Cdqv00Bfias0Ceddk0B" ++
    "g4pg0Cdqv00Bg4pg0Cdqv00Bfias0Ceddk0Bg4pg0Chs5c0B82co0C13o77gD82co0Cjjh80Dac780Cjjh80Dauls0C" ++
    "j12k0Ddqv00Cg7ds0D8i700C6tj0gBfias0Ceddk0Bd8gc0C29mvgD9pok0C6tj0gBauls0Cj12k0Bcm1o0Ch9mo0Bd" ++
    "qv00Cfias0Beddk0Cfias0Bevs80Cfias0Beddk0Cdqv00Bfias0Ceddk0Bg4pg0Cdqv00Bgn840Cdqv00Bfias0Cne" ++
    "uu7gDevs80Cevs80Devs80Cevs80Dfias0Cevs80Devs80Cevs80Devs80Cevs80Devs80Cevs80Devs80Cevs80Dev" ++
    "s80Cevs80Dfias0Cevs80Devs80Cevs80Devs80Cevs80Devs80Cevs80Devs80Cevs80Devs80Cfias0D|CET-1CES" ++
    "T,M3.5.0,M10.5.0/3"),
   ("Europe/Guernsey",
    "-609 0 3600 7200|-1784245791|B2o06tvCauls0Bfias0Cdb4o0Bffmg0Cfkv80Bet7s0Cf2gk0Bet7s0Chcb40B" ++
    "d5s00Cf2gk0Beap80Cg4pg0Bg4pg0Cc3j40Bh9mo0Cd8gc0Bh9mo0Cdqv00Bg4pg0Cdqv00Bfias0Ceddk0Bgn840Cd" ++
    "qv00Bg4pg0Cdqv00Bfias0Ceddk0Bg4pg0Cdqv00Bg4pg0Cdqv00Bfias0Cevs80Bg4pg0Cdqv00Bfias0Ceddk0Bg4" ++
    "pg0Cdqv00Bg4pg0Cdqv00Bfias0Ceddk0Bg4pg0Chs5c0B82co0Cah5egD269at0Cc3j40Dfias0Cevs80Devs80Cev" ++
    "s80D8i700C6tj0gBfias0Ceddk0Bd8gc0C29mvgD9pok0C6tj0gBauls0Cj12k0Bcm1o0Ch9mo0Bdqv00Cfias0Bedd" ++
    "k0Cfias0Bevs80Cfias0Beddk0Cdqv00Bfias0Ceddk0Bg4pg0Cdqv00Bgn840Cdqv00Bfias0Ceddk0Bg4pg0Cdqv0" ++
    "0Bg4pg0Cdqv00Bfias0Ceddk0Beddk0Chs5c0Bc3j40Chs5c0Bcm1o0Ch9mo0Bc3j40Chs5c0Bc3j40Chs5c0Bc3j40" ++
    "Chs5c0Bc3j40Ciek00B97a00C3fa6k0Bbh4g0Ciek00Bbh4g0Ciek00Bbh4g0Ciek00Bbh4g0Ciek00Bc3j40Chs5c0" ++
    "Bc3j40Chs5c0Bc3j40Ciek00Bbh4g0Ciek00Bbh4g0Ciek00Bclu7gCh9mo0Bcm1o0Ch9mo0Bcm1o0Ch9mo0Bcm1o0C" ++
    "hs5c0Bcm1o0Ch9mo0Bcm1o0Ch9mo0Bcm1o0Ch9mo0Bcm1o0Ch9mo0Bcm1o0Chs5c0Bc3j40Chs5c0Bcm1o0Ch9mo0Bc" ++
    "m1o0Ch9mo0Bcm1o0Ch9mo0Bcm1o0Ch9mo0Bcm1o0Ch9mo0Bd8gc0C|GMT0BST,M3.5.0/1,M10.5.0"),
   ("Europe/Helsinki",
    "5989 7200 10800|-1535938789|Bjlloi5Cf5500B1465u10Cevs80Bevs80Cevs80BevvogCevs80Bevs80Cfias0" ++
    "Bevs80Cevs80Bevs80Cevs80Bevs80Cevs80Bevs80Cevs80Bevs80Cevs80Bevs80Cfias0Bevs80Cevs80Bevs80C" ++
    "evs80Bevs80Cevs80Bevs80Cevs80Bevs80Cevs80Bfias0C|EET-2EEST,M3.5.0/3,M10.5.0/4"),
   ("Europe/Isle_of_Man",
    "-1075 0 3600 7200|-2737842125|Bv5dlbdCauls0Bfias0Cdb4o0Bffmg0Cfkv80Bet7s0Cf2gk0Bet7s0Chcb40" ++
    "Bd5s00Cf2gk0Beap80Cg4pg0Bg4pg0Cc3j40Bh9mo0Cd8gc0Bh9mo0Cdqv00Bg4pg0Cdqv00Bfias0Ceddk0Bgn840C" ++
    "dqv00Bg4pg0Cdqv00Bfias0Ceddk0Bg4pg0Cdqv00Bg4pg0Cdqv00Bfias0Cevs80Bg4pg0Cdqv00Bfias0Ceddk0Bg" ++
    "4pg0Cdqv00Bg4pg0Cdqv00Bfias0Ceddk0Bg4pg0Chs5c0B82co0C13o77gD82co0Cjjh80Dac780Cjjh80Dauls0Cj" ++
    "12k0Ddqv00Cg7ds0D8i700C6tj0gBfias0Ceddk0Bd8gc0C29mvgD9pok0C6tj0gBauls0Cj12k0Bcm1o0Ch9mo0Bdq" ++
    "v00Cfias0Beddk0Cfias0Bevs80Cfias0Beddk0Cdqv00Bfias0Ceddk0Bg4pg0Cdqv00Bgn840Cdqv00Bfias0Cedd" ++
    "k0Bg4pg0Cdqv00Bg4pg0Cdqv00Bfias0Ceddk0Beddk0Chs5c0Bc3j40Chs5c0Bcm1o0Ch9mo0Bc3j40Chs5c0Bc3j4" ++
    "0Chs5c0Bc3j40Chs5c0Bc3j40Ciek00B97a00C3fa6k0Bbh4g0Ciek00Bbh4g0Ciek00Bbh4g0Ciek00Bbh4g0Ciek0" ++
    "0Bc3j40Chs5c0Bc3j40Chs5c0Bc3j40Ciek00Bbh4g0Ciek00Bbh4g0Ciek00Bclu7gCh9mo0Bcm1o0Ch9mo0Bcm1o0" ++
    "Ch9mo0Bcm1o0Chs5c0Bcm1o0Ch9mo0Bcm1o0Ch9mo0Bcm1o0Ch9mo0Bcm1o0Ch9mo0Bcm1o0Chs5c0Bc3j40Chs5c0B" ++
    "cm1o0Ch9mo0Bcm1o0Ch9mo0Bcm1o0Ch9mo0Bcm1o0Ch9mo0Bcm1o0Ch9mo0Bd8gc0C|GMT0BST,M3.5.0/1,M10.5.0"),
   ("Europe/Istanbul",
    "6952 7016 7200 10800 14400|-2840147752|Bstab60C5808e8Dcj9rgC38v98gDhc7jgCd5vggDf2d3gCeasogD" ++
    "g4lvgC1g1a4gDbjlbgChf30gDcj9rgCdrs3kgD7vkrgC4joggDo72ngCfqbggD39umngCjec0gDa1i7gCgi2sgDdqrf" ++
    "gCg4t0gDdqrfgCfiecgDeda3gCg4t0gDeda3gCg4t0gDdqrfgCa44uogD16sdfgCga5ogDbecjgC84uml0Dcm1o0Cc3" ++
    "mkgDhs1rgCbejkgDih4rgCbh80gDiegfgCcm58gDg4lvgCdr2ggD50au7gE5603gD10k80gCe07o0Dd8gc0Cf2gk0De" ++
    "vs80Cevs80Devs80Cevs80Devs80Cevs80Devs80Cevs80Dfias0Cevs80Devs80Cevs80Devs80Cevs80Devs80Ced" ++
    "dk0Dfias0Cevs80Devs80Cfias0Dh9mo0Ccm1o0Dh9mo0Ccm1o0Dh9mo0Ccm1o0Dhs5c0Cc3j40Dhs5c0Cc3j40Dhs5" ++
    "c0Ccm1o0Dh9mo0Ccm1o0Dh9mo0Ccm1o0Dhs5c0Cc3j40Dhs5c0Cc3j40Dhs5c0Cc3q50Dhs5c0Ccm1o0Dh9mo0Ccm1o" ++
    "0Dh9mo0Ccm1o0Dhs5c0Cc67g0Dhph00Cc3j40Dhs5c0Ccm1o0Dh9mo0Ccom40Dh72c0Ccm1o0Diek00Cbh4g0D|<+03" ++
    ">-3"),
   ("Europe/Jersey",
    "-506 0 3600 7200|-2258092800|Bgrss50Cauls0Bfias0Cdb4o0Bffmg0Cfkv80Bet7s0Cf2gk0Bet7s0Chcb40B" ++
    "d5s00Cf2gk0Beap80Cg4pg0Bg4pg0Cc3j40Bh9mo0Cd8gc0Bh9mo0Cdqv00Bg4pg0Cdqv00Bfias0Ceddk0Bgn840Cd" ++
    "qv00Bg4pg0Cdqv00Bfias0Ceddk0Bg4pg0Cdqv00Bg4pg0Cdqv00Bfias0Cevs80Bg4pg0Cdqv00Bfias0Ceddk0Bg4" ++
    "pg0Cdqv00Bg4pg0Cdqv00Bfias0Ceddk0Bg4pg0Chs5c0B82co0Cah5egD269at0Cc3j40Dfias0Cevs80Devs80Cev" ++
    "s80D8i700C6tj0gBfias0Ceddk0Bd8gc0C29mvgD9pok0C6tj0gBauls0Cj12k0Bcm1o0Ch9mo0Bdqv00Cfias0Bedd" ++
    "k0Cfias0Bevs80Cfias0Beddk0Cdqv00Bfias0Ceddk0Bg4pg0Cdqv00Bgn840Cdqv00Bfias0Ceddk0Bg4pg0Cdqv0" ++
    "0Bg4pg0Cdqv00Bfias0Ceddk0Beddk0Chs5c0Bc3j40Chs5c0Bcm1o0Ch9mo0Bc3j40Chs5c0Bc3j40Chs5c0Bc3j40" ++
    "Chs5c0Bc3j40Ciek00B97a00C3fa6k0Bbh4g0Ciek00Bbh4g0Ciek00Bbh4g0Ciek00Bbh4g0Ciek00Bc3j40Chs5c0" ++
    "Bc3j40Chs5c0Bc3j40Ciek00Bbh4g0Ciek00Bbh4g0Ciek00Bclu7gCh9mo0Bcm1o0Ch9mo0Bcm1o0Ch9mo0Bcm1o0C" ++
    "hs5c0Bcm1o0Ch9mo0Bcm1o0Ch9mo0Bcm1o0Ch9mo0Bcm1o0Ch9mo0Bcm1o0Chs5c0Bc3j40Chs5c0Bcm1o0Ch9mo0Bc" ++
    "m1o0Ch9mo0Bcm1o0Ch9mo0Bcm1o0Ch9mo0Bcm1o0Ch9mo0Bd8gc0C|GMT0BST,M3.5.0/1,M10.5.0"),
   ("Europe/Kaliningrad",
    "4920 3600 7200 10800 14400|-2422056120|Blmjf0oCcjgsgBg7kt0Ccm1o0Bh9mo0Ccm1o0Bk89mg0C2drmc0B" ++
    "c3j40Cfias0Bevs80Cevs80Bevs80C26rigDfaa7gCcu2cgD10srs7gEf2d3gDevvogEf2d3gDevvogEf2d3gDf2k4g" ++
    "Ef0390Devs80Eevs80Devs80Eevs80Devs80Eevs80Devs80Eevs80Dtvs0gCevs80Dfias0Cevs80Devs80Cevs80D" ++
    "evs80Cevs80Devs80Cevs80Devs80Cevs80Devs80Cfias0Dh9mo0Ccm1o0Dh9mo0Ccm1o0Dh9mo0Ccm1o0Dhs5c0Cc" ++
    "3j40Dhs5c0Cc3j40Dhs5c0Ccm1o0Dh9mo0Ccm1o0Dh9mo0Ccm1o0Dhs5c0Cc3j40Dhs5c0Cc3j40Dhs5c0Cc3j40Dhs" ++
    "5c0Ccm1o0Dh9mo0Ccm1o0Dh9mo0Ccm1o0Dhs5c0Cc3j40D3brbbgC|EET-2"),
   ("Europe/Kirov",
    "11928 10800 14400 18000|-1593820800|Baa7kegC1fo73jgDf2d3gCevvogDf2d3gCevvogDf2d3gCf2k4gDf03" ++
    "90Cevs80Devs80Cevs80Devs80Cevs80Devs80Cevs80Devs80Ctvs0gBevs80Cfias0Bevs80C1cvko0Bevs80Cevs" ++
    "80Bevs80Cevs80Bevs80Cevs80Bfias0Ch9mo0Bcm1o0Ch9mo0Bcm1o0Ch9mo0Bcm1o0Chs5c0Bc3j40Chs5c0Bc3j4" ++
    "0Chs5c0Bcm1o0Ch9mo0Bcm1o0Ch9mo0Bcm1o0Chs5c0Bc3j40Chs5c0Bc3j40Chs5c0Bc3j40Chs5c0Bcm1o0Ch9mo0" ++
    "Bcm1o0Ch9mo0Bcm1o0Chs5c0Bc3j40C3brbbgB|MSK-3"),
   ("Europe/Kyiv",
    "7324 7200 10800 3600 14400|-1441159324|B5oksfsCaii5bgB11k720Dc3j40Bfias0D2mpb0C135jvr0Ef2d3" ++
    "gCevvogEf2d3gCevvogEf2d3gCf2k4gEf0390Cevs80Eevs80Cevs80Eevs80Cevs80Eevs80Cevs80Eevs80Cevs80" ++
    "Eevs80Cevs80E8297gC15ftl0Bevs80Cevs80Bevs80Cevs80Bevs80Cevs80Bevs80Cevs80Bfias0Ch9q8gB|EET-" ++
    "2EEST,M3.5.0/3,M10.5.0/4"),
   ("Europe/Lisbon",
    "-2205 0 3600 7200|-1830384000|B469nngCb6mggB9sd00Cip1vgBb9asgCip1vgBb9asgCip1vgBbbv8gCip1vg" ++
    "Bb9asgCip1vgB2bcj40Ce2s40B1e4i00Cdqv00Bfias0Ceddk0Bg4pg0Ceddk0Bg4pg0Cdqv00B1e4i00Cdqv00Bevs" ++
    "80Cevs80B1di3c0Cevs80Beddk0Cfias0Bg4pg0Cdqv00Bevs80Cevs80Beddk0Cfias0Bg4pg0Chs5c0B82co0Cijs" ++
    "o0Beqjg0Cf2gk0Bd5s00C3ek7gD97a00C5ologBbh4g0C2s5jgDauls0C5674gBauls0C3ek7gDac780C5674gBauls" ++
    "0C3ek7gDac780C5674gBd8gc0Cevs80Bf06pgCevs80Bevs80Cevs80Bevs80Cevs80Bevs80Cevs80Bevs80Cfias0" ++
    "Bevs80Cevs80Bevs80Cevs80Bevs80Cevs80Bevs80Cevs80Bevs80Cfias0Bevs80Cevs80Bevs80Cevs80Bevs80C" ++
    "evs80Bevs80Cevs80Bevs80Cevs80Bevs80Cfias0Bevs80Cevs80Bevs80Cevs80Bevs80Cevs80Bevs80C9rfor0B" ++
    "evs80Cevs80BfiecgCevs80Bevs80Cevs80Bfias0Ceddk0BevongCevs80Bevs80Cevs80Bevs80Cevs80Bevs80Cf" ++
    "ias0Bevs80Cevs80BevvogCevs80Bevs80Cevs80Bevs80Cevs80Bevs80Cevs80Bevs80Cfias0Bevs80Cevs80Bev" ++
    "s80Ctvog0Devs80Cevs80Devs80Cevs80Devs80C10s1k0B|WET0WEST,M3.5.0/1,M10.5.0"),
   ("Europe/Ljubljana",
    "3484 3600 7200|-2713913884|B1lsafvsC1ea59gBc3j40Cfias0Bevs80Cevs80Bevs80Cdoak0B139aro0Cevs8" ++
    "0Bevs80Cfias0Bevs80Cevs80Bevs80Cevs80Bevs80Cevs80Bevs80Cevs80Bevs80Cevs80Bevs80Cfias0Bevs80" ++
    "Cevs80Bevs80Cevs80Bevs80Cevs80Bevs80Cevs80Bevs80Cevs80Bfias0C|CET-1CEST,M3.5.0,M10.5.0/3"),
   ("Europe/London",
    "-75 0 3600 7200|-3852662325|B20cj8ulCauls0Bfias0Cdb4o0Bffmg0Cfkv80Bet7s0Cf2gk0Bet7s0Chcb40B" ++
    "d5s00Cf2gk0Beap80Cg4pg0Bg4pg0Cc3j40Bh9mo0Cd8gc0Bh9mo0Cdqv00Bg4pg0Cdqv00Bfias0Ceddk0Bgn840Cd" ++
    "qv00Bg4pg0Cdqv00Bfias0Ceddk0Bg4pg0Cdqv00Bg4pg0Cdqv00Bfias0Cevs80Bg4pg0Cdqv00Bfias0Ceddk0Bg4" ++
    "pg0Cdqv00Bg4pg0Cdqv00Bfias0Ceddk0Bg4pg0Chs5c0B82co0C13o77gD82co0Cjjh80Dac780Cjjh80Dauls0Cj1" ++
    "2k0Ddqv00Cg7ds0D8i700C6tj0gBfias0Ceddk0Bd8gc0C29mvgD9pok0C6tj0gBauls0Cj12k0Bcm1o0Ch9mo0Bdqv" ++
    "00Cfias0Beddk0Cfias0Bevs80Cfias0Beddk0Cdqv00Bfias0Ceddk0Bg4pg0Cdqv00Bgn840Cdqv00Bfias0Ceddk" ++
    "0Bg4pg0Cdqv00Bg4pg0Cdqv00Bfias0Ceddk0Beddk0Chs5c0Bc3j40Chs5c0Bcm1o0Ch9mo0Bc3j40Chs5c0Bc3j40" ++
    "Chs5c0Bc3j40Chs5c0Bc3j40Ciek00B97a00C3fa6k0Bbh4g0Ciek00Bbh4g0Ciek00Bbh4g0Ciek00Bbh4g0Ciek00" ++
    "Bc3j40Chs5c0Bc3j40Chs5c0Bc3j40Ciek00Bbh4g0Ciek00Bbh4g0Ciek00Bclu7gCh9mo0Bcm1o0Ch9mo0Bcm1o0C" ++
    "h9mo0Bcm1o0Chs5c0Bcm1o0Ch9mo0Bcm1o0Ch9mo0Bcm1o0Ch9mo0Bcm1o0Ch9mo0Bcm1o0Chs5c0Bc3j40Chs5c0Bc" ++
    "m1o0Ch9mo0Bcm1o0Ch9mo0Bcm1o0Ch9mo0Bcm1o0Ch9mo0Bcm1o0Ch9mo0Bd8gc0C|GMT0BST,M3.5.0/1,M10.5.0"),
   ("Europe/Luxembourg",
    "1476 3600 7200 0|-2069713476|Bb7nnl4CbejkgBh9j7gCbjscgBh9tp0Ccm1o0B5ob70D7voc0BhsftgDaubagB" ++
    "kolh0Dbm670Bihfd0Dcdtj0Bg4t0gDg4lvgBdr610Ded6j0BfiecgDf2d3gBetbcgDg4lvgBdr2ggDfi7bgBedh4gDg" ++
    "4lvgBedh4gDg4lvgBdr9hgDfias0Beddk0Dg4pg0Bdqv00Devs80Bevs80Deddk0Bg4pg0Devs80Bevs80Deddk0Bfi" ++
    "as0Dg4pg0Bdqv00Devs80Bevs80Deddk0Bfias0Dg4pg0Bhs5c0D82co0B6g9k0C2aa6ngBc3j40Cfias0Bevs80Cdq" ++
    "v00Bg4pg0Cdoak0Bk5vs0Cbjos0Bslig00Ceddk0Bfias0Cevs80Bevs80Cevs80Bfias0Ceddk0Bevs80Cevs80Bev" ++
    "s80Cevs80Bevs80Cevs80Bevs80Cfias0Bevs80Cevs80Bevs80Cevs80Bevs80Cevs80Bevs80Cevs80Bevs80Cevs" ++
    "80Bevs80Cfias0Bevs80Cevs80Bevs80Cevs80Bevs80Cevs80Bevs80Cevs80Bevs80Cevs80Bfias0C|CET-1CEST" ++
    ",M3.5.0,M10.5.0/3"),
   ("Europe/Madrid",
    "-884 0 3600 7200|-2177452800|Bg8847gCeasogBevongCf2k4gB4890ngCe2vkgB1e4efgCdr2ggBfi7bgCedh4" ++
    "gBg4pg0Ceddk0Bg4lvgCdr2ggB77jmjgC8ss0gBevongC29mvgDcom40Cufpp0Bd8crgC200jrgD9v4sgCirmbgDdr2" ++
    "ggCg4lvgDdr2ggCg4lvgDdr2ggCg4lvgDdr2ggC2drirgDcm58gCn28sfgDedh4gCfi7bgDedh4gCeda3gDevvogCfi" ++
    "7bgDedh4gCfiht0Devs80Cevs80Devs80Cfias0Deddk0Cevs80Devs80Cevs80Devs80Cevs80Devs80Cevs80Dfia" ++
    "s0Cevs80Devs80Cevs80Devs80Cevs80Devs80Cevs80Devs80Cevs80Devs80Cevs80Dfias0Cevs80Devs80Cevs8" ++
    "0Devs80Cevs80Devs80Cevs80Devs80Cevs80Devs80Cfias0D|CET-1CEST,M3.5.0,M10.5.0/3"),
   ("Europe/Malta",
    "3484 3600 7200|-2403478684|Bl7m98cC9pl3gBevvogCf2d3gBd5vggChc7jgBc128gChs1rgBdr2ggCevongBii" ++
    "06sgC27m590Bc3j40Cfias0Bet7s0Cdqv00Bg7ds0Cdlf70Bf2nl0Cgn840Bd89b0Cgn840Bc3q50Chs5c0Bgik7v0C" ++
    "ac3ngBk63cgC9pok0Bk5vs0C9pok0Bkoeg0C9pok0Bk5vs0C9pok0Bjjh80Cac780Bk5vs0Cac780Bet7s0Cevs80Bg" ++
    "psg0Cc67g0Bhpo10Cclu7gBh9q8gCclu7gBh9q8gCclu7gBh9q8gCclu7gBh9q8gCclu7gBg7hcgCealngBfiecgCev" ++
    "s80Bevs80Cevs80Bevs80Cevs80Bevs80Cfias0Bevs80Cevs80Bevs80Cevs80Bevs80Cevs80Bevs80Cevs80Bevs" ++
    "80Cevs80Bevs80Cfias0Bevs80Cevs80Bevs80Cevs80Bevs80Cevs80Bevs80Cevs80Bevs80Cevs80Bfias0C|CET" ++
    "-1CEST,M3.5.0,M10.5.0/3"),
   ("Europe/Minsk",
    "6616 6600 7200 10800 3600 14400|-2840147416|B19m5o0gC5okrp8DabklrgC18hmi0Ec3j40Cfias0Eevs80" ++
    "C7fjigD12hr9bgFf2d3gDevvogFf2d3gDevvogFf2d3gDf2k4gFf0390Devs80Fevs80Devs80Fevs80Devs80Fevs8" ++
    "0Devs80Fevs80Devs80Fevs80D1si34gCevs80Devs80Cevs80Devs80Cevs80Devs80Cevs80Devs80Cfias0Dh9mo" ++
    "0Ccm1o0Dh9mo0Ccm1o0Dh9mo0Ccm1o0Dhs5c0Cc3j40Dhs5c0Cc3j40Dhs5c0Ccm1o0Dh9mo0Ccm1o0Dh9mo0Ccm1o0" ++
    "Dhs5c0Cc3j40Dhs5c0Cc3j40Dhs5c0Cc3j40Dhs5c0Ccm1o0Dh9mo0Ccm1o0Dh9mo0Ccm1o0Dhs5c0Cc3j40D|<+03>" ++
    "-3"),
   ("Europe/Monaco",
    "1772 561 0 3600 7200|-2448318572|BhmcqtrC4surd1D8vcs0Ceap80Dg7ds0Ccjdc0Dhcb40Cc0uo0Dhupo0Ca" ++
    "s1g0Dkoeg0Cbmd80Dih8c0Cce4k0Dg4pg0Cj12k0Dauls0Ceddk0Dfias0Cevs80Devs80Cg4pg0Ddqv00Cfias0Ded" ++
    "dk0Cg4pg0Deddk0Cg4pg0Ddqv00Cfias0Deddk0Cg4pg0Ddqv00Cevs80Devs80Ceddk0Dg4pg0Cevs80Devs80Cedd" ++
    "k0Dfias0Cg4pg0Ddqv00Cevs80Devs80Ceddk0Dfias0Cg4pg0Dhs5c0C82n9gD13qkigEclu7gDcm58gEjjo90Dc3j" ++
    "40Efias0Devs80Effff0Deg910Edoak0Dsmpu3gEevongDfiht0Eeddk0Dfias0Eevs80Devs80Eevs80Dfias0Eedd" ++
    "k0Devs80Eevs80Devs80Eevs80Devs80Eevs80Devs80Efias0Devs80Eevs80Devs80Eevs80Devs80Eevs80Devs8" ++
    "0Eevs80Devs80Eevs80Devs80Efias0Devs80Eevs80Devs80Eevs80Devs80Eevs80Devs80Eevs80Devs80Eevs80" ++
    "Dfias0E|CET-1CEST,M3.5.0,M10.5.0/3"),
   ("Europe/Moscow",
    "9017 9079 12679 16279 14400 10800 18000 7200|-1688265017|BtvktiCenv40BcoijgD8q7kgCl857gD2fj" ++
    "4nE3or60F1d7hs0E2ph7gGdgdg0E2f6ogFu2gcgH78bl0gF1fo73jgEf2d3gFevvogEf2d3gFevvogEf2d3gFf2k4gE" ++
    "f0390Fevs80Eevs80Fevs80Eevs80Fevs80Eevs80Fevs80Eevs80Fevs80Eevs80Fevs80Efias0Ftvs0gH97a00F5" ++
    "oengEevs80Fevs80Eevs80Fevs80Eevs80Fevs80Eevs80Ffias0Eh9mo0Fcm1o0Eh9mo0Fcm1o0Eh9mo0Fcm1o0Ehs" ++
    "5c0Fc3j40Ehs5c0Fc3j40Ehs5c0Fcm1o0Eh9mo0Fcm1o0Eh9mo0Fcm1o0Ehs5c0Fc3j40Ehs5c0Fc3j40Ehs5c0Fc3j" ++
    "40Ehs5c0Fcm1o0Eh9mo0Fcm1o0Eh9mo0Fcm1o0Ehs5c0Fc3j40E3brbbgF|MSK-3"),
   ("Europe/Oslo",
    "2580 3600 7200|-2366757780|Bk3jfkkCap630Bme5kg0C22vvdgBc3j40Cfias0Bevs80Cevs80Bevs80Cevs80B" ++
    "ckq6c0Cfias0Bevs80Cevs80Bevs80Cevs80Bevs80Cevs80Bevs80Cevs80Bevs80Cfias0Bhs5c0Cc3j40Bdlosc0" ++
    "Ceddk0Bevs80Cevs80Bevs80Cevs80Bevs80Cevs80Bevs80Cfias0Bevs80Cevs80Bevs80Cevs80Bevs80Cevs80B" ++
    "evs80Cevs80Bevs80Cevs80Bevs80Cfias0Bevs80Cevs80Bevs80Cevs80Bevs80Cevs80Bevs80Cevs80Bevs80Ce" ++
    "vs80Bfias0C|CET-1CEST,M3.5.0,M10.5.0/3"),
   ("Europe/Paris",
    "561 0 3600 7200|-1855958961|B4uea51C8vcs0Beap80Cg7ds0Bcjdc0Chcb40Bc0uo0Chupo0Bas1g0Ckoeg0Bb" ++
    "md80Cih8c0Bce4k0Cg4pg0Bj12k0Cauls0Beddk0Cfias0Bevs80Cevs80Bg4pg0Cdqv00Bfias0Ceddk0Bg4pg0Ced" ++
    "dk0Bg4pg0Cdqv00Bfias0Ceddk0Bg4pg0Cdqv00Bevs80Cevs80Beddk0Cg4pg0Bevs80Cevs80Beddk0Cfias0Bg4p" ++
    "g0Cdqv00Bevs80Cevs80Beddk0Cfias0Bg4pg0Chs5c0B82n9gC947i0D27m8pgCc3j40Dfias0Cevs80Dffff0Ceg9" ++
    "10Ddoak0Csmpu3gDevongCfiht0Deddk0Cfias0Devs80Cevs80Devs80Cfias0Deddk0Cevs80Devs80Cevs80Devs" ++
    "80Cevs80Devs80Cevs80Dfias0Cevs80Devs80Cevs80Devs80Cevs80Devs80Cevs80Devs80Cevs80Devs80Cevs8" ++
    "0Dfias0Cevs80Devs80Cevs80Devs80Cevs80Devs80Cevs80Devs80Cevs80Devs80Cfias0D|CET-1CEST,M3.5.0" ++
    ",M10.5.0/3"),
   ("Europe/Prague",
    "3464 3600 7200 0|-2469401864|Bn3ob38CcjgsgBg7kt0Ccm1o0Bh9mo0Ccm1o0Bk89mg0C2drmc0Bc3j40Cfias" ++
    "0Bevs80Cevs80Bevs80Cevs80Bhs5c0Ccjdc0B4joggD6tfg0B4jhfgCdqv00Bg4pg0Cdqv00Bffmg0Ceg200Brnlbs" ++
    "0Cevs80Bfias0Ceddk0Bevs80Cevs80Bevs80Cevs80Bevs80Cevs80Bevs80Cfias0Bevs80Cevs80Bevs80Cevs80" ++
    "Bevs80Cevs80Bevs80Cevs80Bevs80Cevs80Bevs80Cfias0Bevs80Cevs80Bevs80Cevs80Bevs80Cevs80Bevs80C" ++
    "evs80Bevs80Cevs80Bfias0C|CET-1CEST,M3.5.0,M10.5.0/3"),
   ("Europe/Riga",
    "5794 9394 7200 10800 3600 14400|-1632008194|Bcm1o0Ag7ds0B46f40A6horn0Cdcesk2Dr607gC189pe0Ec" ++
    "3j40Cfias0Eevs80Cevs80Esp30D129e7j0Ff2d3gDevvogFf2d3gDevvogFf2d3gDf2k4gFf0390Devs80Fevs80De" ++
    "vs80Fevs80Devs80Fevs80Devs80Fevs80Dtvs0gCevs80Dfias0Cevs80Devs80Cevs80Devs80Cevs80Devs80Cev" ++
    "s80Devs80Cevs80Devs80Cfias0Devs80CevvogDh9mo0Ccm1o0Dh9mo0Ccm1o0Dhs5c0C1a3bk0D|EET-2EEST,M3." ++
    "5.0/3,M10.5.0/4"),
   ("Europe/Rome",
    "2996 3600 7200|-2403565200|Bl7oto0C9pl3gBevvogCf2d3gBd5vggChc7jgBc128gChs1rgBdr2ggCevongBii" ++
    "06sgC27m590Bc3j40Cfias0Bevs80Cdoak0Bg7ds0Cdlf70Bf2nl0Cgn840Bd89b0Cgn840Bc3q50Chs5c0Bgik7v0C" ++
    "ac3ngBk63cgC9pok0Bk5vs0C9pok0Bkoeg0C9pok0Bk5vs0C9pok0Bjjh80Cac780Bk5vs0Cac780Bk5vs0C9pok0Bj" ++
    "jh80Cac780Bk5vs0C9pok0Bk5vs0C9pok0Bjjh80Cac780Bk5vs0Cac780Bjjh80Cac780Bfiht0Ceddk0Bevs80Cev" ++
    "s80Bevs80Cevs80Bevs80Cevs80Bevs80Cfias0Bevs80Cevs80Bevs80Cevs80Bevs80Cevs80Bevs80Cevs80Bevs" ++
    "80Cevs80Bevs80Cfias0Bevs80Cevs80Bevs80Cevs80Bevs80Cevs80Bevs80Cevs80Bevs80Cevs80Bfias0C|CET" ++
    "-1CEST,M3.5.0,M10.5.0/3"),
   ("Europe/Samara",
    "12020 10800 14400 18000|-1593820800|Baa7kegC1fo73jgDf2d3gCevvogDf2d3gCevvogDf2d3gCf2k4gDf03" ++
    "90Cevs80Devs80Cevs80Devs80Cevs80Devs80Cevs80Devs80Ctvs0gBevs80Cfias0Bvn7sgCd89b0Devs80Cevs8" ++
    "0Devs80Cevs80Devs80Cevs80Devs80Cfias0Dh9mo0Ccm1o0Dh9mo0Ccm1o0Dh9mo0Ccm1o0Dhs5c0Cc3j40Dhs5c0" ++
    "Cc3j40Dhs5c0Ccm1o0Dh9mo0Ccm1o0Dh9mo0Ccm1o0Dhs5c0Cc3j40Dhs5c0Cc3j40Dhs5c0Cc3j40Dhs5c0Ccm1o0D" ++
    "h9mo0Ccm1o0Dh9mo0CuiakgBc3j40C|<+04>-4"),
   ("Europe/Sarajevo",
    "4420 3600 7200|-2713914820|B1lsagt4C1ea59gBc3j40Cfias0Bevs80Cevs80Bevs80Cdoak0B139aro0Cevs8" ++
    "0Bevs80Cfias0Bevs80Cevs80Bevs80Cevs80Bevs80Cevs80Bevs80Cevs80Bevs80Cevs80Bevs80Cfias0Bevs80" ++
    "Cevs80Bevs80Cevs80Bevs80Cevs80Bevs80Cevs80Bevs80Cevs80Bfias0C|CET-1CEST,M3.5.0,M10.5.0/3"),
   ("Europe/Saratov",
    "11058 10800 14400 18000|-1593820800|Baa7kegC1fo73jgDf2d3gCevvogDf2d3gCevvogDf2d3gCf2k4gDf03" ++
    "90Cevs80Devs80Cevs80Devs80Cevs80Devs80Ctvs0gBevs80Cevs80Bevs80Cfias0Bevs80C1cvko0Bevs80Cevs" ++
    "80Bevs80Cevs80Bevs80Cevs80Bfias0Ch9mo0Bcm1o0Ch9mo0Bcm1o0Ch9mo0Bcm1o0Chs5c0Bc3j40Chs5c0Bc3j4" ++
    "0Chs5c0Bcm1o0Ch9mo0Bcm1o0Ch9mo0Bcm1o0Chs5c0Bc3j40Chs5c0Bc3j40Chs5c0Bc3j40Chs5c0Bcm1o0Ch9mo0" ++
    "Bcm1o0Ch9mo0Bcm1o0Chs5c0Bc3j40C3brbbgB1vec8gC|<+04>-4"),
   ("Europe/Simferopol",
    "8184 8160 7200 10800 3600 14400|-2840148984|B19m5o0oC5okta0Dam0t3gCu5fa0Ec3j40Cfias0Eevs80C" ++
    "q16gD12ogrngFf2d3gDevvogFf2d3gDevvogFf2d3gDf2k4gFf0390Devs80Fevs80Devs80Fevs80Devs80Fevs80D" ++
    "evs80Fevs80Devs80Fevs80Dn2900C1kfmcgDevs80Cevs80Devs80Cevs80D2ruigFc3q50Devs80Fevs80Dfi3r0F" ++
    "ha19gDtvs0gCcm1o0Dh9mo0Ccm1o0Dhs5c0Cc3j40Dhs5c0Cc3j40Dhs5c0Ccm1o0Dh9mo0Ccm1o0Dh9mo0Ccm1o0Dh" ++
    "s5c0Cc3j40Dhs5c0Cc3j40Dhs5c0Cc3j40Dhs5c0Ccm1o0Dh9mo0Ccm1o0Dh9mo0Ccm1o0Dhs5c0Cc3j40Dhs5c0Cc3" ++
    "j40Dhs5c0Ccm1o0Dh9mo0Cclu7gFh9fn0D|MSK-3"),
   ("Europe/Skopje",
    "5144 3600 7200|-2713915544|B1lsahjoC1ea59gBc3j40Cfias0Bevs80Cevs80Bevs80Cdoak0B139aro0Cevs8" ++
    "0Bevs80Cfias0Bevs80Cevs80Bevs80Cevs80Bevs80Cevs80Bevs80Cevs80Bevs80Cevs80Bevs80Cfias0Bevs80" ++
    "Cevs80Bevs80Cevs80Bevs80Cevs80Bevs80Cevs80Bevs80Cevs80Bfias0C|CET-1CEST,M3.5.0,M10.5.0/3"),
   ("Europe/Sofia",
    "5596 7016 7200 3600 10800|-2840146396|Be0q57kC1d26pvoDc3j40Cfias0Devs80Cevs80DevvogCvv3ipgE" ++
    "f2k4gCffivgEeg5ggCffivgEedkl0Cfi3r0Eedo5gCevs80Eevs80Cevs80Efias0Cevs80Eevs80Cevs80Eevs80Ce" ++
    "vs80Eevs80Cevs80Eevs80Cevs80Eevs80Cevs80Efias0Cevl70EevongCevvogEevongCevvogEevongCevvogEev" ++
    "ongCevvogEevongCfiecgEh9j7gCcmfq0E|EET-2EEST,M3.5.0/3,M10.5.0/4"),
   ("Europe/Stockholm",
    "4332 3614 3600 7200|-2871681132|BjnvkueCfci67uDbejkgC1rneq90Deddk0Cevs80Devs80Cevs80Devs80C" ++
    "evs80Devs80Cevs80Dfias0Cevs80Devs80Cevs80Devs80Cevs80Devs80Cevs80Devs80Cevs80Devs80Cevs80Df" ++
    "ias0Cevs80Devs80Cevs80Devs80Cevs80Devs80Cevs80Devs80Cevs80Devs80Cfias0D|CET-1CEST,M3.5.0,M1" ++
    "0.5.0/3"),
   ("Europe/Tallinn",
    "5940 3600 7200 10800 14400|-1638322740|B60om4Ccm1o0Bnn4v0A1n6gusCi3qhkkD11bobgC121cu0Bc3j40" ++
    "Cfias0Bevs80Ce55ugD12b5mvgEf2d3gDevvogEf2d3gDevvogEf2d3gDf2k4gEf0390Devs80Eevs80Devs80Eevs8" ++
    "0Devs80Eevs80Devs80Eevs80Dtvs0gCevs80Dfias0Cevs80Devs80Cevs80Devs80Cevs80Devs80Cevs80Devs80" ++
    "Cevs80Devs80Cfias0Dh9mo0Ccm1o0Dh9mo0Ccm1o0Dh9q8gCcm1o0Dhs5c0C28lio0D|EET-2EEST,M3.5.0/3,M10" ++
    ".5.0/4"),
   ("Europe/Tirane",
    "4760 3600 7200|-1767230360|Bos6ko8C27jgt0Bc3j40Cvkg0Bt6uk30Cce13gBhcekgCclu7gBhhncgCclu7gBh" ++
    "s8sgCc3fjgBhpkggCc63vgBhpkggCc63vgBhpkggCclu7gBgq00gCclu7gBhs8sgCclu7gBg7hcgCdlingBf2k4gCf0" ++
    "390Bevs80Cevs80Bevs80Cevs80Bevs80Cevs80Bevs80Cevs80Bevs80Cevs80Bevs80Cfias0Bevs80Cevs80Bevs" ++
    "80Cevs80Bevs80Cevs80Bevs80Cevs80Bevs80Cevs80Bfias0C|CET-1CEST,M3.5.0,M10.5.0/3"),
   ("Europe/Ulyanovsk",
    "11616 10800 14400 18000 7200|-1593820800|Baa7kegC1fo73jgDf2d3gCevvogDf2d3gCevvogDf2d3gCf2k4" ++
    "gDf0390Cevs80Devs80Cevs80Devs80Cevs80Devs80Cevs80Devs80Ctvs0gBevs80Cfias0Btvs0gE97a00B5oeng" ++
    "Cevs80Bevs80Cevs80Bevs80Cevs80Bevs80Cevs80Bfias0Ch9mo0Bcm1o0Ch9mo0Bcm1o0Ch9mo0Bcm1o0Chs5c0B" ++
    "c3j40Chs5c0Bc3j40Chs5c0Bcm1o0Ch9mo0Bcm1o0Ch9mo0Bcm1o0Chs5c0Bc3j40Chs5c0Bc3j40Chs5c0Bc3j40Ch" ++
    "s5c0Bcm1o0Ch9mo0Bcm1o0Ch9mo0Bcm1o0Chs5c0Bc3j40C3brbbgB1altogC|<+04>-4"),
   ("Europe/Vaduz",
    "2284 3600 7200|-2385247084|B1c46pbcCcm1o0Bh9mo0Ccm1o0B146364gCevs80Bevs80Cevs80Bevs80Cevs80" ++
    "Bevs80Cfias0Bevs80Cevs80Bevs80Cevs80Bevs80Cevs80Bevs80Cevs80Bevs80Cevs80Bevs80Cfias0Bevs80C" ++
    "evs80Bevs80Cevs80Bevs80Cevs80Bevs80Cevs80Bevs80Cevs80Bfias0C|CET-1CEST,M3.5.0,M10.5.0/3"),
   ("Europe/Vienna",
    "3921 3600 7200|-2422055121|Blmje1hCcjgsgBg7kt0Ccm1o0Bh9mo0Ccm1o0B1en0k0Cd8gc0Bica5g0C2drmc0" ++
    "Bc3j40Cfias0Bevs80Cevs80Bevs80Cqbo0Bu7lk0Ceg200Bet7s0Cevs80Bg4pg0Cdqv00Btk74f0Ceda3gBf06pgC" ++
    "evs80Bevs80Cevs80Bevs80Cevs80Bevs80Cfias0Bevs80Cevs80Bevs80Cevs80Bevs80Cevs80Bevs80Cevs80Be" ++
    "vs80Cevs80Bevs80Cfias0Bevs80Cevs80Bevs80Cevs80Bevs80Cevs80Bevs80Cevs80Bevs80Cevs80Bfias0C|C" ++
    "ET-1CEST,M3.5.0,M10.5.0/3"),
   ("Europe/Vilnius",
    "6076 5040 5736 3600 7200 10800 14400|-2840146876|B12pgkocC2jcaq8DmnpioE7ahrgDikclogFqomr0E1" ++
    "8s820Dc3j40Efias0Devs80E9s2egF12feqfgGf2d3gFevvogGf2d3gFevvogGf2d3gFf2k4gGf0390Fevs80Gevs80" ++
    "Fevs80Gevs80Fevs80Gevs80Fevs80Gevs80Ftvs0gEevs80Ffias0Eevs80Fevs80Eevs80Fevs80Eevs80Fevs80E" ++
    "evs80Fevs80Eevs80Fevs80Efias0Fh9mo0Ecm1o0Fh9mo0Etvs0gDcm1o0E3ohgk0F|EET-2EEST,M3.5.0/3,M10." ++
    "5.0/4"),
   ("Europe/Volgograd",
    "10660 10800 14400 18000|-1577761060|B9qth3kC1fo73jgDf2d3gCevvogDf2d3gCevvogDf2d3gCf2k4gDf03" ++
    "90Cevs80Devs80Cevs80Devs80Cevs80Devs80Ctvs0gBevs80Cevs80Bevs80Cfias0Bevs80C1cvko0Bevs80Cevs" ++
    "80Bevs80Cevs80Bevs80Cevs80Bfias0Ch9mo0Bcm1o0Ch9mo0Bcm1o0Ch9mo0Bcm1o0Chs5c0Bc3j40Chs5c0Bc3j4" ++
    "0Chs5c0Bcm1o0Ch9mo0Bcm1o0Ch9mo0Bcm1o0Chs5c0Bc3j40Chs5c0Bc3j40Chs5c0Bc3j40Chs5c0Bcm1o0Ch9mo0" ++
    "Bcm1o0Ch9mo0Bcm1o0Chs5c0Bc3j40C3brbbgB3ohk4gC215h3gB|MSK-3"),
   ("Europe/Warsaw",
    "5040 3600 7200 10800|-1717032240|Bm7r4gCcjgsgBg7kt0Ccm1o0Bh9mo0Cu29bgDcm1o0C2hffr0BgviodgC2" ++
    "70r80Bc3j40Cfias0Bevs80Cf51fgBh1m3gCfaa7gBdgh0gCeg910Bh72c0Ccm1o0Bg4pg0Cdqv00Bfias0Ceddk0B7" ++
    "6mmfgC9pok0Bevs80Cevs80Bk5vs0Cac780Bevs80Cevs80Bjjh80Cac780Bjjh80Cac780Bjjh80Cac780Bk5vs0C9" ++
    "pok0Bboke40Ceddk0Bfias0Cevs80Bevs80Cevs80Bfias0Ceddk0Bevs80Cevs80Bevs80Cevs80Bevs80Cevs80Be" ++
    "vs80Cfias0Bevs80Cevs80Bevs80Cevs80Bevs80Cevs80BevvogCevs80Bevs80Cevs80Bevs80Cfias0Bevs80Cev" ++
    "s80Bevs80Cevs80Bevs80Cevs80Bevs80Cevs80Bevs80Cevs80Bfias0C|CET-1CEST,M3.5.0,M10.5.0/3"),
   ("Europe/Zagreb",
    "3832 3600 7200|-2713914232|B1lsagaoC1ea59gBc3j40Cfias0Bevs80Cevs80Bevs80Cdoak0B139aro0Cevs8" ++
    "0Bevs80Cfias0Bevs80Cevs80Bevs80Cevs80Bevs80Cevs80Bevs80Cevs80Bevs80Cevs80Bevs80Cfias0Bevs80" ++
    "Cevs80Bevs80Cevs80Bevs80Cevs80Bevs80Cevs80Bevs80Cevs80Bfias0C|CET-1CEST,M3.5.0,M10.5.0/3"),
   ("Europe/Zurich",
    "2048 1786 3600 7200|-3675198848|B16e6706C1c46orqDcm1o0Ch9mo0Dcm1o0C146364gDevs80Cevs80Devs8" ++
    "0Cevs80Devs80Cevs80Dfias0Cevs80Devs80Cevs80Devs80Cevs80Devs80Cevs80Devs80Cevs80Devs80Cevs80" ++
    "Dfias0Cevs80Devs80Cevs80Devs80Cevs80Devs80Cevs80Devs80Cevs80Devs80Cfias0D|CET-1CEST,M3.5.0," ++
    "M10.5.0/3")]

end ClusterMetrics.Zone.Table
