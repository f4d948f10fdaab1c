-- SUMMARY: Names in scripts that run from right to left.
import EthRpc.Text.Runs

/-!
# Direction

Some scripts run from right to left. A name with letters of such a script is
only clear if each of its labels keeps to one direction: it begins with a letter
of that direction and ends, marks aside, with a letter of it or a digit.
-/

namespace EthRpc.Url.Name

inductive Direction where
  /-- A letter of a script that runs from left to right. -/
  | left
  /-- A letter of a script that runs from right to left. -/
  | right
  | arabicDigit
  | europeanDigit
  /-- A mark, which goes onto what stands before it. -/
  | mark
  /-- Signs and punctuation. -/
  | neutral
  /-- What may not stand in a label beside letters that run from right to left. -/
  | foreign
  deriving DecidableEq

/-- Runs of letters that run from left to right (`L`) and from right to left (`R`), Arabic (`A`) and
European (`E`) digits, marks (`M`), neutral (`N`) and foreign (`X`) characters. -/
def directionRuns : Text.Runs :=
  .ofLines ["9N5X14N5X15N10E39N26L100N24L1N449L2N7L14N2L28N1L17N113M4L2N127L2N139L8M255L7N45M1R1M1R2M1R2M",
   "1R9M54R2N1R2N1R1N1R2N11M48R21M10A1N2A3R1M101R8M1N6M2R2M1N4M2R10E23R1M30R29M89R11M58R9M2R4N3R",
   "1M24R4M1R9M1R3M1R7M41R5M57R9M42R57M55L1M1L1M4L8M4L1M3L15M2L2M29L1M58L1M4L6M6L1M20L4M12L2N7L",
   "1N2L5M57L2M3L27M20L2M3L1M11L2M57L1M4L8M4L3M18L4M11L8N1L8M58L1M2L1M1L6M6L10M11L4M28L1M61L1M",
   "12L3M35L13N1M3L1M55L1M1L3M5L18M10L4M18L7N2L1M58L1M15L9M13L4M26L2M57L2M4L5M7L1M20L4M27L1M72L",
   "5M3L6M89L1M2L11M1N7L8M98L1M2L9M11L8M72L2M27L1M1L1M1L1M4N51L14M1L5M1L2M5L49M8L1M102L4M1L6M1L",
   "2M2L2M25L2M4L3M16L4M13L1M2L2M6L1M15L1M703L3M48L16N96L1N666L5N114L3M29L2M30L14M18L14M55L7M8L",
   "1M2L11M7L1N1L3M16L32N117L2M34L1M118L3M4L2M9L1M6L7M6N152L34N23L2M2L3M56L1M1L9M1L1M2L8M6L13M",
   "48L84M48L1M1L5M1L1M5L1M40L9M12L2M32L4M2L2M1L3M56L1M1L2M3L1M1L3M58L8M2L5M149L3M1L13M1L7M4L1M",
   "6L1M3L2M198L65M523L196N52M74N60L428N69L26N1L790N1L339N256L816N181L7N3L4M6L7N127L1M96L32M517N",
   "3L25N9L4M2L1N6L4N2L4N88L4M3L1N90L1N196L48N7120L64N22160L64N317L3N95L4M1N10M3N29L2M80L2M14L",
   "35N101L1N121L1M3L1M4L1M25L2M1L4N4M8L8N52L12N68L10M18L18M13L1M38L8M25L11M46L3M48L1M2L4M2L2M",
   "39L1M67L6M2L2M2L11M3L1M8L1M47L1M51L1M1L3M2L2M5L2M1L1M42L2M8L11M105L86N37L1M2L1M4L3M20270L",
   "148M17R605N37M46N397R257L1N62L77N3L64N45L131M96L1M31E118L10M1152L287R1N225R15M40R8M165R6M78R",
   "7N484R12M16A41R5M1N241R32A43R2M35R42N6M70R11M49R4M122R1L1M54L15M11L20N10L1M2L2M10L3M49L4M2L",
   "2M7L14M48L3M36L5M1L9M61L1M12L2M52L9M10L4M2L1M95L3M2L1M1L2M6L1M2L63M95L1M3L13M16L2M57L2M3L1M",
   "37L26M59L7M12L1M1L1M1L1M14L31M56L8M2L3M1L1M23L1M84L6M1L1M4L2M1L2M238L6M4L2M1L2M27L36M51L8M2L",
   "1M1L2M31L32N43L1M1L1M2L6M1L1M101L3M2L4M1L9M255L9M1L2M256L2M1L1M4L1M144L8M4L1M32L6M2L2M40L6M",
   "2L4M8L9M1L6M2L3M46L13M1L2M198L1M1L3M1L1M201L14M84L23M1L7M1L2M1L75M49L21M1L9M64L3M2L1M1L1M",
   "347L2M11L2M52L8M2L1M1L1M23L86M37L42N5185L1M6L25M11454L12M3L3M2496L5M59L7M1048L1M63L4M79L1N1L",
   "12M19629L2M3937L768N80M535L3M17L8M2L7M30L4M59L89N3M123N64L96N1696L55M4L50M8L1M14L1M22L1125M",
   "256L256M48L7M375L18M44L4M15L465N28L4M254L2M243L1M2L1M7L2M5L9M258L208R82M34R7M1445R608N29L3N",
   "61L57N122L3488N"]

def direction (c : Char) : Direction :=
  match directionRuns.kind 'L' c with
  | 'L' => .left
  | 'R' => .right
  | 'A' => .arabicDigit
  | 'E' => .europeanDigit
  | 'M' => .mark
  | 'N' => .neutral
  | _ => .foreign

namespace Direction

/-- A name with such a character has to be clear in all its labels. -/
def runsLeft (d : Direction) : Bool := d = right || d = arabicDigit

/-- What a label of letters from left to right may have. -/
def fitsLeft (d : Direction) : Bool :=
  d = left || d = europeanDigit || d = mark || d = neutral

/-- What a label of letters from right to left may have. -/
def fitsRight (d : Direction) : Bool :=
  d = right || d = arabicDigit || d = europeanDigit || d = mark || d = neutral

/-- A label keeps to one direction, and to one kind of digits if it runs from right to left. -/
def isClear (label : List Direction) : Bool :=
  let last? := (label.reverse.dropWhile (· = mark)).head?
  match label with
  | [] => true
  | left :: rest =>
    rest.all fitsLeft && last?.any fun d => d = left || d = europeanDigit
  | right :: rest =>
    rest.all fitsRight && !(rest.contains arabicDigit && rest.contains europeanDigit) &&
      last?.any fun d => d = right || d = arabicDigit || d = europeanDigit
  | _ => false

end Direction

/-- All labels are clear if any of them runs from right to left. -/
def areClear (labels : List (List Char)) : Bool :=
  let directions := labels.map (·.map direction)
  !directions.any (·.any (·.runsLeft)) || directions.all Direction.isClear

end EthRpc.Url.Name
