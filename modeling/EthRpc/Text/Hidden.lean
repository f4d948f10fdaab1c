-- SUMMARY: The characters that do not show by themselves.
import EthRpc.Text.Runs

/-!
# Hidden characters

Control and format characters, separators other than the plain space, marks that
go onto the character before them, and everything that is no assigned character.
-/

namespace EthRpc.Text

/-- Runs of shown (`s`) and hidden (`h`) characters. -/
def hiddenRuns : Runs :=
  .ofLines ["32h95s34h12s1h594s112h8s2h6s4h7s1h1s1h20s1h224s7h166s1h38s2h50s2h3s46h1s1h1s2h1s2h1s9h27s4h",
   "6s17h10s11h1s1h46s21h16s1h101s8h1s6h2s2h1s4h32s2h1s1h30s29h89s11h1s14h43s9h7s3h24s4h1s9h1s3h",
   "1s7h15s1h25s5h1s1h11s5h32s16h42s57h55s1h1s1h4s8h4s1h3s7h10s2h29s1h2s1h8s2h2s2h22s1h7s1h1s3h",
   "4s3h1s1h2s6h2s2h2s1h1s13h2s1h3s4h24s5h1s1h6s4h2s2h22s1h7s1h2s1h2s1h2s4h3s24h4s1h1s7h10s2h3s",
   "1h1s12h1s1h9s1h3s1h22s1h7s1h2s1h5s3h4s8h1s1h2s3h1s15h2s4h12s7h1s8h2s1h8s2h2s2h22s1h7s1h2s1h",
   "5s3h1s2h1s6h2s2h2s15h2s1h3s4h18s11h1s1h6s3h3s1h4s3h2s1h1s1h2s3h2s3h3s3h12s5h1s1h2s3h3s1h3s3h",
   "1s21h21s6h3s1h8s1h3s1h23s1h16s3h1s3h4s19h3s1h2s2h2s4h10s7h10s1h11s1h3s1h23s1h10s1h5s3h2s2h1s",
   "1h2s23h3s1h2s4h10s1h3s14h11s1h3s1h41s2h1s1h2s5h3s1h3s1h2s4h3s1h10s4h26s2h2s1h18s3h24s1h9s1h",
   "1s2h7s9h2s6h7s7h10s2h3s12h48s1h2s11h8s8h13s37h2s1h1s1h5s1h24s1h1s1h10s1h2s9h1s2h5s1h1s9h10s",
   "2h4s32h24s2h27s1h1s1h1s1h14s1h36s18h1s5h1s2h5s49h8s1h6s1h13s37h45s4h1s6h1s2h2s2h25s2h4s3h16s",
   "4h13s1h2s2h6s1h15s1h40s1h1s5h1s2h377s1h4s2h7s1h1s1h4s2h41s1h4s2h33s1h4s2h7s1h1s1h4s2h15s1h",
   "57s1h4s2h67s5h29s3h26s6h86s2h6s2h640s1h28s3h89s7h18s13h19s3h2s9h18s14h13s1h3s15h52s2h1s7h8s",
   "1h2s11h9s3h10s6h10s6h11s5h10s6h89s7h5s2h34s1h1s5h70s10h31s4h4s2h3s4h2s1h6s7h1s3h42s2h5s11h",
   "44s4h26s6h11s3h57s2h2s3h56s1h1s9h1s1h2s8h6s13h10s6h10s6h14s86h48s10h4s3h8s1h29s9h12s2h32s4h",
   "2s6h56s1h1s2h3s1h1s13h48s8h2s5h15s3h62s5h43s2h11s11h1s13h1s7h4s1h6s1h3s2h1s5h192s64h278s2h6s",
   "2h38s2h6s2h8s1h1s1h1s1h1s1h31s2h53s1h15s1h14s2h6s1h19s2h3s1h9s17h24s8h47s17h2s2h27s1h13s3h",
   "34s62h140s4h666s22h11s21h1812s2h377s3h2s5h45s1h1s5h1s2h56s7h2s15h23s9h7s1h7s1h7s1h7s1h7s1h7s",
   "1h7s1h7s33h94s34h26s1h89s12h214s26h16s1h41s6h16s1h86s4h101s5h43s1h94s1h86s9h48s1h29293s3h55s",
   "9h348s20h47s4h1s10h32s2h80s2h6s8h221s20h17s1h3s1h4s1h25s2h5s4h10s6h56s8h68s10h12s24h13s1h38s",
   "8h25s11h1s12h30s6h48s1h2s4h2s2h2s1h13s1h11s4h7s1h25s1h41s6h2s2h2s11h3s1h8s1h1s2h10s2h32s1h",
   "51s1h1s3h2s2h5s2h1s1h1s24h17s2h8s11h6s2h6s2h6s9h7s1h7s1h60s4h117s1h2s1h4s3h10s6h11172s12h23s",
   "4h49s8452h366s2h106s38h7s12h5s5h1s1h24s1h5s1h1s1h2s1h2s1h650s32h16s16h10s22h35s1h19s1h4s4h5s",
   "1h135s4h157s2h31s3h6s2h6s2h6s2h3s3h7s1h7s13h2s2h12s1h26s1h19s1h2s1h15s2h14s34h123s5h3s4h45s",
   "3h88s1h13s3h1s47h45s131h29s3h49s16h27s4h36s9h30s5h38s10h30s1h37s4h14s42h158s2h10s6h36s4h36s",
   "4h40s8h52s11h12s1h15s1h7s1h2s1h11s1h15s1h7s1h2s3h52s12h311s9h22s10h8s24h6s1h42s1h9s69h6s2h1s",
   "1h44s1h2s3h1s2h23s1h72s8h9s48h19s1h2s5h33s3h27s5h27s38h56s4h20s2h47s15h4s1h3s1h29s10h9s7h9s",
   "7h64s32h37s6h12s9h54s3h29s2h27s5h26s7h4s12h7s80h73s55h51s13h51s7h42s12h10s6h38s8h24s8h2s208h",
   "31s1h42s3h1s2h2s16h6s8h9s39h40s8h22s11h9s22h18s4h4s38h28s20h23s9h1s1h54s15h7s4h30s1h2s2h1s",
   "12h49s4h2s2h2s1h4s14h25s7h10s9h36s5h1s9h18s8h35s1h3s11h52s9h1s1h8s4h2s1h16s1h20s11h18s1h28s",
   "3h2s4h6s1h2s63h7s1h1s1h4s1h15s1h11s6h47s1h3s13h10s8h2s1h8s2h2s2h22s1h7s1h2s1h5s3h1s1h1s1h4s",
   "2h2s2h2s3h1s12h7s28h10s1h1s2h1s1h38s1h1s1h2s15h1s1h2s3h1s1h3s1h2s39h56s8h2s3h1s1h21s1h1s1h3s",
   "30h48s1h2s6h1s1h2s1h1s2h1s2h4s8h10s166h47s1h2s6h4s2h1s2h27s36h51s8h2s1h1s2h4s11h10s6h13s19h",
   "43s1h1s1h2s8h2s6h10s6h20s28h27s3h1s1h2s4h1s9h23s185h47s9h1s2h1s100h83s12h8s2h1s2h8s1h2s1h24s",
   "1h5s1h2s6h4s1h3s9h10s70h8s2h42s8h4s1h4s27h1s10h40s6h2s4h8s9h1s6h2s3h46s13h1s2h9s13h73s7h10s",
   "87h1s3h1s1h1s88h34s14h10s6h9s1h38s14h1s1h6s10h29s3h32s25h1s7h1s2h1s75h7s1h2s1h38s21h1s9h10s",
   "6h6s1h2s1h37s4h2s1h1s1h1s7h10s6h44s4h10s246h19s2h4s9h15s1h36s8h2s3h23s86h1s15h50s13h923s102h",
   "111s1h5s11h196s2636h99s13h1072s17h6s25h3995s5h583s6841h30s12h3s3h10s1734h569s7h31s1h10s4h81s",
   "1h10s6h30s7h1s10h48s7h15s10h10s1h7s1h21s5h19s432h58s198h91s5h25s2h25s44h75s5h56s11h13s64h4s",
   "14h5s9h7382s41h32s97h115s8701h4s1h7s1h2s1h291s15h1s29h3s2h1s14h4s8h396s2308h107s5h13s3h9s7h",
   "10s2h1s2h1s3936h253s3h436s6h23s15h17s95h116s60h246s10h39s2h60s5h3s22h2s7h30s4h61s21h66s3h1s",
   "122h20s12h20s12h87s9h25s135h85s1h71s1h2s2h1s2h2s2h4s1h12s1h1s1h7s1h65s1h4s2h8s1h7s1h28s1h4s",
   "1h5s1h1s3h7s1h340s2h292s2h562s55h4s50h8s1h14s1h7s1140h31s6h6s261h62s146h45s10h7s2h10s4h2s",
   "320h30s18h44s4h10s5h1s464h28s4h10s214h30s2h11s4h1s192h31s1h3s1h2s1h7s2h5s9h2s224h7s1h4s1h2s",
   "1h15s1h197s2h9s48h68s7h1s4h10s4h2s785h68s76h61s194h4s1h27s1h2s1h1s2h1s1h10s1h4s1h1s1h1s6h1s",
   "4h1s1h1s1h1s1h3s1h2s1h1s2h1s1h1s1h1s1h1s1h1s1h2s1h1s2h4s1h7s1h4s1h4s1h1s1h10s1h17s5h3s1h5s1h",
   "17s52h2s270h44s4h100s12h15s2h15s1h15s1h37s10h174s56h29s13h44s4h9s7h2s14h6s154h985s3h17s3h13s",
   "3h218s6h12s4h1s15h12s4h56s8h10s6h40s8h30s2h12s4h2s14h9s39h344s8h14s2h13s3h11s3h57s1h1s4h16s",
   "2h12s4h10s7h147s1h103s1029h42720s32h4382s2h5774s2h7473s15h622s2466h542s1506h4939s5h8490s"]

def isHidden (c : Char) : Bool :=
  if ' ' ≤ c ∧ c ≤ '~' then false else hiddenRuns.kind 'h' c == 'h'

end EthRpc.Text
