-- SUMMARY: Letters and digits of all scripts, letters with case, and blanks.
import EthRpc.Text.Runs

/-!
# Letters, digits and blanks

Which characters of all scripts are letters or digits, which may be in names,
which have to do with case, and which are blanks.
-/

namespace EthRpc.Text

/-- Runs of letters and digits (`a`) and other characters (`o`). -/
def alphanumericRuns : Runs :=
  .ofLines ["48o10a7o26a6o26a47o1a7o2a1o1a3o2a1o3a1o23a1o31a1o458a4o12a14o5a7o1a1o1a86o1a42o5a1o2a2o4a1o",
   "1a6o1a1o3a1o1a1o20a1o83a1o139a8o166a1o38a2o1a6o41a39o14a1o1a1o2a1o2a1o1a8o27a4o4a29o11a5o56a",
   "1o17a4o102a1o8a4o8a4o16a2o1a16o48a13o101a14o43a9o2a4o1a5o24a2o19a19o25a7o11a5o24a1o7a7o1a8o",
   "42a10o12a3o7a6o76a1o16a1o3a4o15a2o10a1o19a1o8a2o2a2o22a1o7a1o1a3o4a3o8a2o2a2o2a1o1a8o1a4o2a",
   "1o5a2o12a2o6a2o1a4o3a1o6a4o2a2o22a1o7a1o2a1o2a1o2a4o5a4o2a2o2a4o1a7o4a1o1a7o16a11o3a1o9a1o3a",
   "1o22a1o7a1o2a1o5a3o9a1o3a1o2a3o1a15o4a2o10a9o4a4o3a1o8a2o2a2o22a1o7a1o2a1o5a3o8a2o2a2o2a9o2a",
   "4o2a1o5a2o10a1o7a10o2a1o6a3o3a1o4a3o2a1o1a1o2a3o2a3o3a3o12a4o5a3o3a1o3a3o1a6o1a14o13a13o13a",
   "1o3a1o23a1o16a3o8a1o3a1o3a8o2a1o3a1o2a2o4a2o10a8o7a1o4a1o8a1o3a1o23a1o10a1o5a3o8a1o3a1o3a8o",
   "2a5o3a1o4a2o10a1o3a12o13a1o3a1o41a2o8a1o3a1o3a1o1a5o16a2o19a1o6a1o3a1o18a3o24a1o9a1o1a2o7a8o",
   "6a1o1a1o8a6o10a2o2a13o58a5o7a6o1a2o10a39o2a1o1a1o5a1o24a1o1a1o19a1o3a2o5a1o1a6o1a2o10a2o4a",
   "32o1a31o20a12o8a1o36a4o19a4o16a1o36a67o55a1o1a2o15a6o78a2o38a1o1a5o1a2o43a1o333a1o4a2o7a1o1a",
   "1o4a2o41a1o4a2o33a1o4a2o7a1o1a1o4a2o15a1o57a1o4a2o67a14o20a3o16a16o86a2o6a3o620a2o17a1o26a5o",
   "75a3o11a7o20a11o21a12o20a12o13a1o3a1o2a12o52a2o19a14o1a4o1a3o10a6o10a22o10a6o89a7o43a5o70a",
   "10o31a1o12a4o9a13o40a2o5a11o44a4o26a6o11a37o28a4o63a2o20a11o10a6o10a13o1a23o2a11o3a49o52a1o",
   "15a1o8a3o10a38o42a2o58a1o11a14o55a9o10a3o49a2o11a5o43a2o3a41o4a1o6a1o2a3o1a5o192a39o14a11o",
   "278a2o6a2o38a2o6a2o8a1o1a1o1a1o1a1o31a2o53a1o7a1o1a3o3a1o7a3o4a2o6a4o13a5o3a1o7a115o2a2o6a5o",
   "11a6o13a101o1a4o1a2o10a1o1a3o5a6o1a1o1a1o1a1o4a1o11a2o4a5o5a4o1a1o58a726o60a26o74a630o30a",
   "1132o229a6o4a3o2a9o1a2o38a1o1a5o1a2o56a7o1a16o23a9o7a1o7a1o7a1o7a1o7a1o7a1o7a1o7a1o32a47o1a",
   "469o3a25o9a7o5a2o5a4o86a6o3a1o90a1o4a5o43a1o94a3o4a10o32a48o16a32o10a30o8a1o15a32o10a39o15a",
   "320o6592a64o22157a67o46a2o269a3o28a20o47a5o8a3o113a39o9a2o103a2o82a20o21a1o33a8o6a10o52a12o",
   "68a1o1a10o10a24o6a3o1a1o46a5o35a13o29a3o51a1o12a15o11a6o31a1o55a9o14a2o10a6o23a3o69a1o1a1o1a",
   "24o3a2o16a2o4a11o6a2o6a2o6a9o7a1o7a1o43a1o14a6o123a5o10a6o11172a12o23a4o49a8452o366a2o106a",
   "38o7a12o5a5o12a1o13a1o5a1o1a1o2a1o2a1o108a33o363a18o64a2o54a40o12a116o5a1o135a19o10a7o26a6o",
   "26a11o89a3o6a2o6a2o6a2o3a35o12a1o26a1o19a1o2a1o15a2o14a34o123a12o45a12o57a17o2a244o29a3o49a",
   "16o27a4o36a9o30a5o43a5o30a2o36a4o8a1o5a42o158a2o10a6o36a4o36a4o40a8o52a12o11a1o15a1o7a1o2a1o",
   "11a1o15a1o7a1o2a3o52a12o311a9o22a10o8a24o6a1o42a1o9a69o6a2o1a1o44a1o2a3o1a2o23a2o31a2o38a8o",
   "9a48o19a1o2a5o33a4o26a6o26a38o56a4o20a2o50a1o2a5o8a1o3a1o29a10o9a23o31a1o32a32o8a1o28a6o5a",
   "16o54a10o22a2o27a5o26a23o7a80o73a55o51a13o51a7o46a8o10a6o38a3o5a1o23a218o31a1o42a1o2a3o2a16o",
   "6a56o40a8o22a11o4a27o18a46o28a20o23a9o70a12o30a1o5a10o57a9o1a13o25a7o10a6o51a3o10a4o4a8o35a",
   "3o1a9o64a1o4a9o13a1o1a4o20a11o18a1o34a2o1a6o4a62o7a1o1a1o4a1o15a1o10a7o57a7o10a6o4a1o8a2o2a",
   "2o22a1o7a1o2a1o5a3o8a2o2a2o2a3o1a6o1a5o7a28o10a1o1a2o1a1o38a1o10a1o1a2o1a1o4a1o2a3o1a1o1a44o",
   "66a1o3a1o4a5o10a5o3a30o66a2o2a1o1a8o10a166o54a2o7a25o6a34o63a1o1a3o1a11o10a38o54a2o1a7o10a6o",
   "20a28o27a2o14a5o12a4o7a185o57a103o83a12o8a2o1a2o8a1o2a1o30a1o2a2o2a2o4a13o10a70o8a2o46a2o6a",
   "1o1a1o2a27o51a2o10a17o72a5o1a18o73a103o8a88o33a15o10a6o9a1o45a1o7a1o1a15o29a5o30a2o22a1o14a",
   "73o7a1o2a1o44a3o1a1o2a1o3a1o1a2o2a8o10a6o6a1o2a1o37a1o2a1o4a1o1a7o10a6o44a4o10a246o23a9o17a",
   "1o41a3o3a15o10a86o1a15o21a43o922a102o111a17o196a2636o97a15o1072a17o6a25o3995a5o583a6841o47a",
   "1o10a1734o569a7o31a1o10a6o79a1o10a6o30a18o48a16o4a12o10a1o7a1o21a5o19a432o45a3o10a198o87a9o",
   "25a2o25a44o75a4o57a7o17a64o2a1o1a12o7a9o7382a41o32a97o115a8701o4a1o7a1o2a1o291a15o1a29o3a2o",
   "1a14o4a8o396a2308o107a5o13a3o9a7o10a4o1a4177o10a1478o20a12o20a108o25a135o85a1o71a1o2a2o1a2o",
   "2a2o4a1o12a1o1a1o7a1o65a1o4a2o8a1o7a1o28a1o4a1o5a1o1a3o7a1o340a2o25a1o25a1o31a1o25a1o31a1o",
   "25a1o31a1o25a1o31a1o25a1o8a2o50a1792o31a6o6a213o7a1o17a2o7a1o2a1o5a5o62a33o1a112o45a10o7a2o",
   "10a4o1a321o30a18o44a4o10a470o28a4o10a214o31a1o11a197o31a1o15a1o6a8o2a224o7a1o4a1o2a1o15a1o",
   "197a2o9a48o68a3o1a3o1a4o10a791o59a1o3a1o4a76o45a1o15a194o4a1o27a1o2a1o1a2o1a1o10a1o4a1o1a1o",
   "1a6o1a4o1a1o1a1o1a1o3a1o2a1o1a2o1a1o1a1o1a1o1a1o1a1o2a1o1a2o4a1o7a1o4a1o4a1o1a1o10a1o17a5o3a",
   "1o5a1o17a580o13a35o26a6o26a6o26a2662o10a1030o42720a32o4382a2o5774a2o7473a15o622a2466o542a",
   "1506o4939a5o8490a"]

/-- Letters and digits of all scripts. -/
def isAlphanumeric (c : Char) : Bool :=
  if c.toNat < 128 then c.isAlphanum else alphanumericRuns.kind 'o' c == 'a'

/-- Runs of letters (`s`), of digits, marks and connectors (`p`), and of other characters (`o`). -/
def nameRuns : Runs :=
  .ofLines ["48o10p7o26s4o1p1o26s47o1s10o1s4o1s5o23s1o31s1o458s4o12s14o5s7o1s1o1s17o112p5s1o2s2o4s1o1s6o",
   "1s1o3s1o1s1o20s1o83s1o139s1o5p2o166s1o38s2o1s6o41s8o45p1o1p1o2p1o2p1o1p8o27s4o4s29o11p5o43s",
   "31p4o2s1p99s1o1s7p2o6p2s2p1o4p2s10p3s2o1s16o1s1p30s27p2o89s11p1s14o10p33s9p2s4o1s2o1p2o22s4p",
   "1s9p1s3p1s5p18o25s3p4o11s5o24s1o7s7o9p42s24p1o33p54s3p1s18p1s7p10s2p2o10p1o16s3p1o8s2o2s2o",
   "22s1o7s1o1s3o4s2o1p1s7p2o2p2o3p1s8o1p4o2s1o3s2p2o10p2s10o1s1o1p2o3p1o6s4o2s2o22s1o7s1o2s1o2s",
   "1o2s2o1p1o5p4o2p2o3p3o1p7o4s1o1s7o12p3s1p11o3p1o9s1o3s1o22s1o7s1o2s1o5s2o1p1s8p1o3p1o3p2o1s",
   "15o2s2p2o10p9o1s6p1o3p1o8s2o2s2o22s1o7s1o2s1o5s2o1p1s7p2o2p2o3p7o3p4o2s1o3s2p2o10p1o1s16o1p",
   "1s1o6s3o3s1o4s3o2s1o1s1o2s3o2s3o3s3o12s4o5p3o3p1o4p2o1s6o1p14o10p16o5p8s1o3s1o23s1o16s2o1p1s",
   "7p1o3p1o4p7o2p1o3s1o2s2o2s2p2o10p16o1s3p1o8s1o3s1o23s1o10s1o5s2o1p1s7p1o3p1o4p7o2p5o3s1o2s2p",
   "2o10p1o2s1p12o4p9s1o3s1o41s2p1s7p1o3p1o4p1s5o3s1p7o3s2p2o10p10o6s1o3p1o18s3o24s1o9s1o1s2o7s",
   "3o1p4o6p1o1p1o8p6o10p2o2p13o48s1p2s7p5o7s8p1o10p39o2s1o1s1o5s1o24s1o1s1o10s1p2s9p1s2o5s1o1s",
   "1o7p1o10p2o4s32o1s23o2p6o10p11o1p1o1p1o1p4o2p8s1o36s4o20p1o2p5s11p1o36p9o1p57o43s20p1s10p6o",
   "6s4p4s3p1s3p2s7p3s4p13s12p1s15p2o38s1o1s5o1s2o43s1o333s1o4s2o7s1o1s1o4s2o41s1o4s2o33s1o4s2o",
   "7s1o1s1o4s2o15s1o57s1o4s2o67s2o3p32o16s16o86s2o6s3o620s2o17s1o26s5o75s3o11s7o18s4p9o19s3p11o",
   "18s2p12o13s1o3s1o2p12o52s32p3o1s4o1s1p2o10p33o3p1o11p6o89s7o5s2p34s1p1s5o70s10o31s1o12p4o12p",
   "10o10p30s2o5s11o44s4o26s6o10p38o23s5p4o53s10p1o29p2o11p6o10p13o1s8o14p1o31p2o12p20o5p47s17p",
   "8s3o10p17o9p12o3p30s13p2s10p44s14p12o36s20p8o10p3o3s10p36s2o11s5o43s2o3s16o3p1o21p4s1p6s1p2s",
   "3p1s5o192s64p278s2o6s2o38s2o6s2o8s1o1s1o1s1o1s1o31s2o53s1o7s1o1s3o3s1o7s3o4s2o6s4o13s5o3s1o",
   "7s15o2p49o2p19o1p28o1s13o1s16o13s51o13p4o1p3o12p17o1s4o1s2o10s1o1s3o5s6o1s1o1s1o1s1o4s1o11s",
   "2o4s5o5s4o1s17o41s2679o229s6o4s3p2s12o38s1o1s5o1s2o56s7o1s15o1p23s9o7s1o7s1o7s1o7s1o7s1o7s1o",
   "7s1o7s1o32p47o1s469o3s25o9s6p1o5s2o5s4o86s2o2p2o3s1o90s1o4s5o43s1o94s17o32s48o16s512o6592s",
   "64o22157s67o46s2o269s3o16s10p2s20o47s1p4o10p1o31s2p80s2p37o9s2o103s2o82s20o17s1p3s1p4s1p23s",
   "5p4o1p19o52s12o2p50s18p10o10p6o18p6s3o1s1o2s11p28s8p2o23s13p12o29s3o4p47s14p14o1s10p6o5s1p",
   "10s10p5s1o41s14p9o3s1p8s2p2o10p6o23s3o1s3p50s1p1s3p2s2p5s2p1s1p1s24o3s2o11s5p2o3s2p10o6s2o6s",
   "2o6s9o7s1o7s1o43s1o14s6o115s8p1o2p2o10p6o11172s12o23s4o49s8452o366s2o106s38o7s12o5s5o1s1p10s",
   "1o13s1o5s1o1s1o2s1o2s1o108s33o363s18o64s2o54s40o12s4o16p16o16p3o2p24o3p32o5s1o135s19o10p7o",
   "26s4o1p1o26s11o89s3o6s2o6s2o6s2o3s35o12s1o26s1o19s1o2s1o15s2o14s34o123s69o53s136o1p130o29s3o",
   "49s15o1p31o32s13o30s5o38s5p5o30s2o36s4o8s1o5s42o158s2o10p6o36s4o36s4o40s8o52s12o11s1o15s1o7s",
   "1o2s1o11s1o15s1o7s1o2s3o52s12o311s9o22s10o8s24o6s1o42s1o9s69o6s2o1s1o44s1o2s3o1s2o23s10o23s",
   "9o31s65o19s1o2s10o22s10o26s6o26s38o56s6o2s64o1s3p1o2p5o4p4s1o3s1o29s2o3p4o1p32o29s3o29s35o8s",
   "1o28s2p25o54s10o22s10o19s13o18s110o73s55o51s13o51s13o36s4p8o10p6o10p28s3o5p1o23s250o42s1o2p",
   "3o2s16o6s50o6p29s10o1s8o22s11p31o18s4p42o21s27o23s9o3p53s15p31o11p2s2p1s9o4p45s11p7o1p13o25s",
   "7o10p6o3p36s14p1o10p4o1s2p1s8o35s1p2o1s9o3p48s14p4s4o4p1o12p1s1o1s35o18s1o25s12p6o1p2s1p62o",
   "7s1o1s1o4s1o15s1o10s7o47s12p5o10p6o4p1o8s2o2s2o22s1o7s1o2s1o5s1o2p1s7p2o2p2o3p2o1s6o1p5o5s2p",
   "2o7p3o5p11o10s1o1s2o1s1o38s1o1s9p1o1p2o1p1o4p1o5p1s1p1s13o2p29o53s18p4s5o10p4o1p3s30o48s20p",
   "2s1o1s8o10p166o47s7p2o9p23o4s2p34o48s17p3o1s11o10p38o43s13p1s7o10p6o20p28o27s2o15p4o10p6o7s",
   "185o44s15p101o64s10p21o8s2o1s2o8s1o2s1o24s6p1o2p2o4p1s1p1s2p12o10p70o8s2o39s7p2o7p1s1o1s1p",
   "27o1s10p40s7p1s4p8o1p8o1s11p46s16p3o1s18o73s103o8p88o33s15o10p6o9s1o37s8p1o8p1s15o10p24o30s",
   "2o22p1o14p73o7s1o2s1o38s6p3o1p1o2p1o7p1s1p8o10p6o6s1o2s1o32s5p1o2p1o5p1s7o10p6o44s4o10p246o",
   "19s4p9o2p1s1p13s1o34s7p3o5p13o11p85o1s79o922s102o111s17o196s2636o97s15o1072s16o1p6s15p10o",
   "3995s5o583s6841o30s28p1734o569s7o31s1o10p6o79s1o10p6o30s2o5p11o48s7p9o4s12o10p9o21s5o19s432o",
   "45s3o10p198o64s32o25s2o25s44o75s4o1p1s55p7o4p13s64o2s1o1s1p11o2p5s9o7382s41o32s97o115s8701o",
   "4s1o7s1o2s1o291s15o1s29o3s2o1s14o4s8o396s2308o107s5o13s3o9s7o10s3o2p4177o10p518o46p2o23p542o",
   "5p3o6p8o8p2o7p30o4p148o3p443o85s1o71s1o2s2o1s2o2s2o4s1o12s1o1s1o7s1o65s1o4s2o8s1o7s1o28s1o4s",
   "1o5s1o1s3o7s1o340s2o25s1o25s1o31s1o25s1o31s1o25s1o31s1o25s1o31s1o25s1o8s2o50p512o55p4o50p8o",
   "1p14o1p22o5p1o15p1104o31s6o6s213o7p1o17p2o7p1o2p1o5p5o62s33o1p112o45s3o7p7s2o10p4o1s321o30s",
   "1p17o44s14p470o28s14p214o30s2p1s10p197o31s1o3s1p2s1p7s2p5s1p8o2s224o7s1o4s1o2s1o15s1o197s11o",
   "7p41o68s7p1s4o10p1190o4s1o27s1o2s1o1s2o1s1o10s1o4s1o1s1o1s6o1s4o1s1o1s1o1s1o3s1o2s1o1s2o1s1o",
   "1s1o1s1o1s1o1s1o2s1o1s2o4s1o7s1o4s1o4s1o1s1o10s1o17s5o3s1o5s1o17s3380o10p1030o42720s32o4382s",
   "2o5774s2o7473s15o622s2466o542s1506o4939s5o8490s707718o240p"]

/-- What a name may start with: a letter of any script. -/
def isNameStart (c : Char) : Bool :=
  if c.toNat < 128 then c.isAlpha else nameRuns.kind 'o' c == 's'

/-- What may also be in a name: digits, marks and connectors. -/
def isNamePart (c : Char) : Bool :=
  if c.toNat < 128 then c.isDigit || c = '_' else nameRuns.kind 'o' c == 'p'

/-- Runs of characters with case (`c`) and other characters (`o`). -/
def casedRuns : Runs :=
  .ofLines ["65o26c6o26c47o1c10o1c4o1c5o23c1o31c1o195c1o4c4o208c1o36c7o2c30o5c96o1c42o4c2o2c2o4c1o1c6o1c",
   "1o3c1o1c1o20c1o83c1o139c8o166c1o38c9o41c2839o38c1o1c5o1c2o43c1o4c672o86c2o6c2178o11c5o43c2o",
   "3c64o192c64o278c2o6c2o38c2o6c2o8c1o1c1o1c1o1c1o31c2o53c1o7c1o1c3o3c1o7c3o4c2o6c4o13c5o3c1o7c",
   "116o1c13o1c16o13c101o1c4o1c2o10c1o1c3o5c6o1c1o1c1o1c1o4c1o6c4o1c2o4c5o5c4o1c17o32c3o2c817o",
   "52c1814o229c6o4c3o2c12o38c1o1c5o1c30994o46c18o30c132o102c3o4c1o77c20o6c1o3c821o43c1o14c6o80c",
   "20288o7c12o5c1033o26c6o26c1189o80c96o36c4o36c116o11c1o15c1o7c1o2c1o11c1o15c1o7c1o2c451o1c2o",
   "3c1o42c1o9c1221o51c13o51c93o22c10o22c2842o64c21856o64c32o25c2o25c25900o85c1o71c1o2c2o1c2o2c",
   "2o4c1o12c1o1c1o7c1o65c1o4c2o8c1o7c1o28c1o4c1o5c1o1c3o7c1o340c2o25c1o25c1o31c1o25c1o31c1o25c",
   "1o31c1o25c1o31c1o25c1o8c1844o10c1o20c6o6c261o62c2194o68c2028o26c6o26c6o26c"]

/-- Letters that are upper, lower or title case. -/
def isCased (c : Char) : Bool :=
  if c.toNat < 128 then c.isAlpha else casedRuns.kind 'o' c == 'c'

/-- Runs of characters that case passes over (`i`) and other characters (`o`). -/
def caseIgnorableRuns : Runs :=
  .ofLines ["39o1i6o1i11o1i35o1i1o1i71o1i4o1i1o1i4o1i2o2i503o192i4o2i4o1i9o2i1o1i251o7i207o1i5o1i49o45i1o",
   "1i1o2i1o2i1o1i44o1i11o6i10o11i1o1i35o1i10o21i16o1i101o8i1o10i1o4i33o1i1o1i30o27i91o11i58o11i",
   "4o1i2o1i24o24i43o3i44o1i7o2i5o9i41o58i55o1i1o1i4o8i4o1i3o7i10o2i13o1i15o1i58o1i4o4i8o1i20o2i",
   "26o1i2o2i57o1i4o2i4o2i2o3i3o1i30o2i3o1i11o2i57o1i4o5i1o2i4o1i20o2i22o6i1o1i58o1i2o1i1o4i8o1i",
   "7o2i11o2i30o1i61o1i12o1i50o1i3o1i55o1i1o3i5o3i1o4i7o2i11o2i29o1i58o1i2o1i6o1i5o2i20o2i28o2i",
   "57o2i4o4i8o1i20o2i29o1i72o1i7o3i1o1i90o1i2o7i11o9i98o1i2o9i9o1i1o7i73o2i27o1i1o1i1o1i55o14i",
   "1o5i1o2i5o11i1o36i9o1i102o4i1o6i1o2i2o2i25o2i4o3i16o4i13o1i2o2i6o1i15o1i94o1i608o3i946o3i29o",
   "2i30o2i30o2i64o2i1o7i8o1i2o11i3o1i5o1i45o5i51o1i65o2i34o1i118o3i4o2i9o1i6o3i219o2i2o1i58o1i",
   "1o7i1o1i1o1i2o8i6o10i2o1i39o1i8o46i2o12i20o4i48o1i1o5i1o1i5o1i40o9i12o2i32o4i2o2i1o3i56o1i1o",
   "2i3o1i1o3i58o8i2o2i64o6i82o3i1o13i1o7i4o1i6o1i3o2i50o63i13o1i34o101i445o1i1o3i11o3i13o3i13o",
   "3i13o2i12o5i8o2i10o1i2o1i2o5i49o5i1o10i1o1i13o1i16o13i51o33i2955o2i113o3i125o1i15o1i96o32i",
   "47o1i469o1i36o4i3o5i5o1i93o6i93o3i28438o1i1250o6i270o1i98o4i1o10i1o1i28o4i80o2i14o34i78o1i",
   "23o3i102o4i3o2i8o1i3o1i4o1i25o2i5o1i151o2i26o18i13o1i38o8i25o11i46o3i48o1i2o4i2o2i17o1i21o2i",
   "66o6i2o2i2o2i12o1i8o1i35o1i11o1i51o1i1o3i2o2i5o2i1o1i27o1i14o2i5o2i1o1i100o5i9o3i121o1i2o1i",
   "4o1i20272o1i147o17i573o16i3o1i12o16i34o1i2o1i169o1i7o1i6o1i11o1i35o1i1o1i47o1i45o2i67o1i21o",
   "3i513o1i226o1i149o5i1029o6i1o42i1o9i582o3i1o2i5o4i40o3i4o1i165o2i573o4i38o1i26o5i1o1i315o2i",
   "77o6i70o11i49o4i123o1i54o15i41o1i2o2i10o3i49o4i2o2i2o1i4o1i10o1i50o3i36o5i1o8i62o1i12o2i52o",
   "9i10o4i2o1i95o3i2o1i1o2i6o1i2o1i157o1i3o8i21o2i57o2i3o1i37o7i3o5i70o6i13o1i1o1i1o1i14o2i85o",
   "8i2o3i1o1i23o1i84o6i1o1i4o2i1o2i238o4i6o2i1o2i27o2i85o8i2o1i1o2i106o1i1o1i2o6i1o1i101o1i1o1i",
   "2o4i1o5i259o9i1o2i256o2i1o1i4o1i144o4i2o2i4o1i32o10i40o6i2o4i8o1i9o6i2o3i46o13i1o2i198o1i1o",
   "3i1o1i201o7i1o6i1o1i82o22i2o7i1o2i1o2i122o6i3o1i1o2i1o7i1o1i72o2i3o1i1o1i65o1i281o2i11o2i52o",
   "5i5o1i1o1i23o1i5333o17i6o15i11464o12i3o3i2496o5i59o7i9o4i508o3i40o2i482o1i63o17i64o2i1o2i13o",
   "2i16380o4i1o7i1o2i3230o2i1o4i4700o46i2o23i544o3i9o16i2o7i30o4i148o3i1979o55i4o50i8o1i14o1i",
   "22o5i1o15i1360o7i1o17i2o7i1o2i1o5i5o62i33o1i160o14i368o1i61o4i507o5i254o2i243o1i2o1i7o2i5o1i",
   "9o1i464o7i109o8i2735o5i789505o1i30o96i128o240i"]

/-- Marks, signs and punctuation that may stand within a word. -/
def isCaseIgnorable (c : Char) : Bool := caseIgnorableRuns.kind 'o' c == 'i'

/-- The space in all its widths, tabs and line ends. -/
def isBlank (c : Char) : Bool :=
  let n := c.toNat
  n = 0x20 || (9 ≤ n && n ≤ 0xd) || n = 0x85 || n = 0xa0 || n = 0x1680 || (0x2000 ≤ n && n ≤ 0x200a)
    || n = 0x2028 || n = 0x2029 || n = 0x202f || n = 0x205f || n = 0x3000

end EthRpc.Text
