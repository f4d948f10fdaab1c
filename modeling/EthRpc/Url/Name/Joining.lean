-- SUMMARY: Marks and joiners in names, which need something to go with.
import EthRpc.Text.Composition

/-!
# Marks and joiners

A mark needs a character before it. Two joiners cannot be seen themselves and are
only allowed where they change how their neighbours look: after a sign that takes
the vowel off a letter, and, for the one that keeps letters apart, between
letters that would be written together.
-/

namespace EthRpc.Url.Name

/-- Runs of marks (`m`) and other characters (`o`). -/
def combiningRuns : Text.Runs :=
  .ofLines ["768o113m274o8m262o45m1o1m1o2m1o2m1o9m64o11m48o21m16o1m101o8m1o6m2o2m1o4m35o1m30o29m89o11m58o",
   "9m9o1m24o4m1o9m1o3m1o7m41o5m57o9m42o58m54o3m1o18m1o15m2o2m29o4m55o1m1o16m9o9m2o4m24o7m55o32m",
   "20o2m3o1m11o4m55o1m1o18m18o4m20o11m55o1m1o33m3o4m28o1m59o18m7o15m26o5m55o1m1o26m10o4m27o3m",
   "56o1m1o30m6o4m13o17m55o2m1o16m9o1m10o4m27o4m69o28m12o2m61o1m2o11m8o8m98o1m2o9m11o8m72o2m27o",
   "1m1o1m1o1m4o2m49o20m1o2m5o49m8o1m100o20m23o4m4o3m1o3m2o7m3o4m13o12m1o1m10o4m703o3m946o13m19o",
   "3m29o14m18o14m54o30m9o3m165o2m34o1m118o32m215o7m55o43m48o85m47o17m38o9m12o3m30o13m56o22m40o",
   "23m149o3m1o21m4o1m6o1m2o3m198o65m719o52m3051o4m140o1m96o32m554o6m105o4m30162o4m1o10m32o2m80o",
   "2m272o1m3o1m4o1m23o5m4o4m80o2m50o26m18o18m13o1m38o8m25o24m33o4m47o14m36o1m67o23m3o1m8o4m43o",
   "3m50o1m1o3m2o2m5o2m1o1m41o5m5o12m226o8m1o4m20270o148m622o37m952o131m96o1m149o10m1665o15m40o",
   "8m165o6m569o12m57o5m317o2m77o6m70o11m49o4m122o3m53o15m41o1m2o2m10o4m45o11m7o14m48o3m36o15m",
   "15o2m44o1m12o3m48o14m8o4m1o2m92o12m6o1m2o63m95o17m16o5m54o2m1o18m7o6m5o30m56o25m1o1m14o31m",
   "53o18m23o1m81o20m235o18m27o36m48o17m106o13m101o19m252o15m245o15m1o1m1o2m141o16m3o28m1o10m40o",
   "7m1o4m8o9m1o11m46o16m198o96m111o17m82o110m49o21m1o9m58o14m347o4m9o2m1o1m48o15m23o86m5264o1m",
   "6o25m11454o18m2496o5m59o7m1048o1m1o66m81o14m19627o2m4705o80m533o5m3o22m2o7m30o4m148o3m1979o",
   "55m4o50m8o1m14o1m22o1125m256o256m48o7m375o18m44o4m508o4m254o2m243o1m2o1m7o2m5o9m466o82m34o7m"]

/-- A mark of any kind. -/
def isMark (c : Char) : Bool := combiningRuns.kind 'o' c == 'm'

/-- Runs of letters that join with what follows (`L`), with what precedes (`R`), or both (`D`),
characters that joining passes over (`T`), and others (`U`). -/
def joiningRuns : Text.Runs :=
  .ofLines ["768U113T274U8T262U45T1U1T1U2T1U2T1U9T64U11T5U1D1U4R1D1R1D1R5D4R13D1U7D1R2D21T14U2D1T3R5U15D",
   "18R38D1R2D9R1D1R1D1R2D2R1U1R8T1U6T2U2T1U4T2R10U3D2U1D16U1R1T3D5R4D1R9D1R1D1R1D1R2D1R29T1R11D",
   "3R15D2R4D1R1D2R3D2R6D38U11T25U33D9T9U1T24U4T1U9T1U3T1U7T16U1R5D2R1D1R10D1R1D3R5T2U1D1U4D1U1R",
   "1D26R3U1D2U5D1R8D9T10D3R1U1R2D2R6D1R15D1U57T55U1T1U1T4U8T4U1T3U15T2U2T29U1T58U1T4U6T6U1T20U",
   "4T24U5T57U2T3U27T20U2T3U1T11U2T57U1T4U8T4U3T18U4T20U8T58U1T2U1T1U6T6U10T11U4T28U1T61U1T12U3T",
   "48U1T3U1T55U1T1U3T5U18T10U4T27U1T58U1T2U1T6U1T5U9T13U4T26U2T57U2T4U5T7U1T20U4T27U1T72U5T3U6T",
   "89U1T2U11T8U8T98U1T2U9T11U8T72U2T27U1T1U1T1U1T55U14T1U5T1U2T5U49T8U1T102U4T1U6T1U2T2U2T25U2T",
   "4U3T16U4T13U1T2U2T6U1T15U1T703U3T946U3T29U2T30U14T18U14T55U7T8U1T2U11T9U3T39U1D24U96D5U2T34D",
   "1T6D112U3T4U2T9U1T6U7T215U2T2U3T56U1T1U9T1U1T2U8T6U13T48U84T48U1T1U5T1U1T5U1T40U9T12U2T32U4T",
   "2U2T1U3T56U1T1U2T3U1T1U3T58U8T2U5T149U3T1U13T1U7T4U1T6U1T3U2T198U65T719U52T3051U4T140U1T96U",
   "32T554U4T107U4T30162U4T1U10T32U2T80U2T272U1T3U1T4U1T25U2T5U4T16U50D1L81U10T18U18T13U1T38U8T",
   "25U11T46U3T48U1T2U4T2U2T39U1T67U6T2U2T2U11T3U1T8U1T47U1T51U1T1U3T2U2T5U2T1U1T42U2T8U11T228U",
   "1T2U1T4U3T20270U148T622U37T952U131T96U1T149U10T1665U15T40U8T128U5D1R1U1R1U2R2U1L5R4D1L5D1R3D",
   "1R2U1R6T4D1R144U1D1R1D3R3D1R2D1R1D2R1D8R16U4R2D337U1L33D1R1D12T57U5T317U2T21U1R2D1U10D42U6T",
   "48U3D1R17D1U11T3D1R27U4D2R12D4T42U1D1U2D3R1U1D2R2D1R2D1U1D2R1D4U1R1D21L33U1T54U15T41U1T2U2T",
   "10U3T49U4T2U2T7U14T48U3T36U5T1U9T61U1T12U2T52U9T10U4T2U1T95U3T2U1T1U2T6U1T2U63T95U1T3U13T16U",
   "2T57U2T3U1T37U26T59U7T12U1T1U1T1U1T14U31T56U8T2U3T1U1T23U1T84U6T1U1T4U2T1U2T238U6T4U2T1U2T",
   "27U36T51U8T2U1T1U2T106U1T1U1T2U6T1U1T101U1T1U1T2U4T1U9T255U9T1U2T256U2T1U1T4U1T144U8T4U1T32U",
   "10T40U6T2U4T8U9T1U6T2U3T46U13T1U2T198U1T1U3T1U1T201U14T1U1T82U23T1U7T1U2T1U75T49U21T1U9T64U",
   "3T2U1T1U1T347U2T11U2T52U8T2U1T1U1T23U86T5264U1T6U25T11454U12T3U3T2496U5T59U7T1048U1T63U4T81U",
   "12T19629U2T4705U80T535U3T17U8T2U7T30U4T148U3T1979U55T4U50T8U1T14U1T22U1125T256U256T48U7T375U",
   "18T44U4T508U4T254U2T243U1T2U1T7U2T5U9T466U82T34D12T"]

/-- After characters that joining passes over comes one of the given kinds. -/
def leadsToJoining (kinds : List Char) (cs : List Char) : Bool :=
  ((cs.map (joiningRuns.kind 'U')).dropWhile (· = 'T')).head?.any kinds.contains

def nonJoiner : Char := '\u200c'

def joiner : Char := '\u200d'

/-- A character is in its place, where `before` is the text before it, backwards. -/
def isPlaced (before : List Char) (c : Char) (after : List Char) : Bool :=
  if c = joiner ∨ c = nonJoiner then
    before.head?.any Text.isVowelKiller ||
      (c = nonJoiner && leadsToJoining ['L', 'D'] before && leadsToJoining ['R', 'D'] after)
  else !(before.isEmpty && isMark c)

/-- Everything after `before` is in its place. -/
def arePlaced (before : List Char) : List Char → Bool
  | [] => true
  | c :: cs => isPlaced before c cs && arePlaced (c :: before) cs

end EthRpc.Url.Name
