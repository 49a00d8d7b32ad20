import LabelForge.Text.Pictograph
import LabelForge.Text.Printable

/-!
# LabelForge.Text.Grapheme

**The characters that a reader sees.** A text is cut into extended grapheme clusters: a letter with
the signs on it, a syllable of Hangul, an Indic conjunct, a flag, or several pictures that are
joined into one.

Design points:

* Whether two neighbours stay together depends on the second one and on what the cluster so far
  ends with; `Cluster` is what has to be known about that.
* Clusters of a text, one after the other, are the text.
-/

namespace LabelForge.Text

/-- The parts of a Hangul syllable. -/
inductive Jamo where
  | leading
  | vowel
  | trailing
  /-- A syllable that may still get a trailing consonant. -/
  | openSyllable
  /-- A syllable with a trailing consonant. -/
  | closedSyllable
  deriving DecidableEq, Repr

/-- What a character does to the clusters around it. -/
inductive ClusterRole where
  | carriageReturn
  | lineFeed
  /-- Stands alone. -/
  | control
  /-- Goes with what is before it. -/
  | extending
  | joiner
  | flagLetter
  /-- Goes with what is behind it. -/
  | preceding
  /-- Takes a place beside what is before it and goes with it. -/
  | spacing
  | jamo (part : Jamo)
  | other
  deriving DecidableEq, Repr

/-- Ranges of characters that stand alone, the two of line ends excepted. -/
def controlRanges : Array (Nat × Nat) := #[
  (0x0, 0x9), (0xB, 0xC), (0xE, 0x1F), (0x7F, 0x9F), (0xAD, 0xAD), (0x61C, 0x61C), (0x180E, 0x180E),
  (0x200B, 0x200B), (0x200E, 0x200F), (0x2028, 0x202E), (0x2060, 0x206F), (0xFEFF, 0xFEFF),
  (0xFFF0, 0xFFFB), (0x13430, 0x1343F), (0x1BCA0, 0x1BCA3), (0x1D173, 0x1D17A), (0xE0000, 0xE001F),
  (0xE0080, 0xE00FF), (0xE01F0, 0xE0FFF)]

/-- Ranges of characters that go with what is behind them. -/
def precedingRanges : Array (Nat × Nat) := #[
  (0x600, 0x605), (0x6DD, 0x6DD), (0x70F, 0x70F), (0x890, 0x891), (0x8E2, 0x8E2), (0xD4E, 0xD4E),
  (0x110BD, 0x110BD), (0x110CD, 0x110CD), (0x111C2, 0x111C3), (0x113D1, 0x113D1),
  (0x1193F, 0x1193F), (0x11941, 0x11941), (0x11A84, 0x11A89), (0x11D46, 0x11D46),
  (0x11F02, 0x11F02)]

/-- Ranges of characters that go with what is before them, but take a place of their own. -/
def spacingRanges : Array (Nat × Nat) := #[
  (0x903, 0x903), (0x93B, 0x93B), (0x93E, 0x940), (0x949, 0x94C), (0x94E, 0x94F), (0x982, 0x983),
  (0x9BF, 0x9C0), (0x9C7, 0x9C8), (0x9CB, 0x9CC), (0xA03, 0xA03), (0xA3E, 0xA40), (0xA83, 0xA83),
  (0xABE, 0xAC0), (0xAC9, 0xAC9), (0xACB, 0xACC), (0xB02, 0xB03), (0xB40, 0xB40), (0xB47, 0xB48),
  (0xB4B, 0xB4C), (0xBBF, 0xBBF), (0xBC1, 0xBC2), (0xBC6, 0xBC8), (0xBCA, 0xBCC), (0xC01, 0xC03),
  (0xC41, 0xC44), (0xC82, 0xC83), (0xCBE, 0xCBE), (0xCC1, 0xCC1), (0xCC3, 0xCC4), (0xCF3, 0xCF3),
  (0xD02, 0xD03), (0xD3F, 0xD40), (0xD46, 0xD48), (0xD4A, 0xD4C), (0xD82, 0xD83), (0xDD0, 0xDD1),
  (0xDD8, 0xDDE), (0xDF2, 0xDF3), (0xE33, 0xE33), (0xEB3, 0xEB3), (0xF3E, 0xF3F), (0xF7F, 0xF7F),
  (0x1031, 0x1031), (0x103B, 0x103C), (0x1056, 0x1057), (0x1084, 0x1084), (0x17B6, 0x17B6),
  (0x17BE, 0x17C5), (0x17C7, 0x17C8), (0x1923, 0x1926), (0x1929, 0x192B), (0x1930, 0x1931),
  (0x1933, 0x1938), (0x1A19, 0x1A1A), (0x1A55, 0x1A55), (0x1A57, 0x1A57), (0x1A6D, 0x1A72),
  (0x1B04, 0x1B04), (0x1B3E, 0x1B41), (0x1B82, 0x1B82), (0x1BA1, 0x1BA1), (0x1BA6, 0x1BA7),
  (0x1BE7, 0x1BE7), (0x1BEA, 0x1BEC), (0x1BEE, 0x1BEE), (0x1C24, 0x1C2B), (0x1C34, 0x1C35),
  (0x1CE1, 0x1CE1), (0x1CF7, 0x1CF7), (0xA823, 0xA824), (0xA827, 0xA827), (0xA880, 0xA881),
  (0xA8B4, 0xA8C3), (0xA952, 0xA952), (0xA983, 0xA983), (0xA9B4, 0xA9B5), (0xA9BA, 0xA9BB),
  (0xA9BE, 0xA9BF), (0xAA2F, 0xAA30), (0xAA33, 0xAA34), (0xAA4D, 0xAA4D), (0xAAEB, 0xAAEB),
  (0xAAEE, 0xAAEF), (0xAAF5, 0xAAF5), (0xABE3, 0xABE4), (0xABE6, 0xABE7), (0xABE9, 0xABEA),
  (0xABEC, 0xABEC), (0x11000, 0x11000), (0x11002, 0x11002), (0x11082, 0x11082), (0x110B0, 0x110B2),
  (0x110B7, 0x110B8), (0x1112C, 0x1112C), (0x11145, 0x11146), (0x11182, 0x11182),
  (0x111B3, 0x111B5), (0x111BF, 0x111BF), (0x111CE, 0x111CE), (0x1122C, 0x1122E),
  (0x11232, 0x11233), (0x112E0, 0x112E2), (0x11302, 0x11303), (0x1133F, 0x1133F),
  (0x11341, 0x11344), (0x11347, 0x11348), (0x1134B, 0x1134C), (0x11362, 0x11363),
  (0x113B9, 0x113BA), (0x113CA, 0x113CA), (0x113CC, 0x113CD), (0x11435, 0x11437),
  (0x11440, 0x11441), (0x11445, 0x11445), (0x114B1, 0x114B2), (0x114B9, 0x114B9),
  (0x114BB, 0x114BC), (0x114BE, 0x114BE), (0x114C1, 0x114C1), (0x115B0, 0x115B1),
  (0x115B8, 0x115BB), (0x115BE, 0x115BE), (0x11630, 0x11632), (0x1163B, 0x1163C),
  (0x1163E, 0x1163E), (0x116AC, 0x116AC), (0x116AE, 0x116AF), (0x1171E, 0x1171E),
  (0x11726, 0x11726), (0x1182C, 0x1182E), (0x11838, 0x11838), (0x11931, 0x11935),
  (0x11937, 0x11938), (0x11940, 0x11940), (0x11942, 0x11942), (0x119D1, 0x119D3),
  (0x119DC, 0x119DF), (0x119E4, 0x119E4), (0x11A39, 0x11A39), (0x11A57, 0x11A58),
  (0x11A97, 0x11A97), (0x11B61, 0x11B61), (0x11B65, 0x11B65), (0x11B67, 0x11B67),
  (0x11C2F, 0x11C2F), (0x11C3E, 0x11C3E), (0x11CA9, 0x11CA9), (0x11CB1, 0x11CB1),
  (0x11CB4, 0x11CB4), (0x11D8A, 0x11D8E), (0x11D93, 0x11D94), (0x11D96, 0x11D96),
  (0x11EF5, 0x11EF6), (0x11F03, 0x11F03), (0x11F34, 0x11F35), (0x11F3E, 0x11F3F),
  (0x1612A, 0x1612C), (0x16F51, 0x16F87)]

/-- Ranges of consonants that can be part of a conjunct. -/
def conjunctRanges : Array (Nat × Nat) := #[
  (0x915, 0x939), (0x958, 0x95F), (0x978, 0x97F), (0x995, 0x9A8), (0x9AA, 0x9B0), (0x9B2, 0x9B2),
  (0x9B6, 0x9B9), (0x9DC, 0x9DD), (0x9DF, 0x9DF), (0x9F0, 0x9F1), (0xA95, 0xAA8), (0xAAA, 0xAB0),
  (0xAB2, 0xAB3), (0xAB5, 0xAB9), (0xAF9, 0xAF9), (0xB15, 0xB28), (0xB2A, 0xB30), (0xB32, 0xB33),
  (0xB35, 0xB39), (0xB5C, 0xB5D), (0xB5F, 0xB5F), (0xB71, 0xB71), (0xC15, 0xC28), (0xC2A, 0xC39),
  (0xC58, 0xC5A), (0xD15, 0xD3A), (0x1000, 0x102A), (0x103F, 0x103F), (0x1050, 0x1055),
  (0x105A, 0x105D), (0x1061, 0x1061), (0x1065, 0x1066), (0x106E, 0x1070), (0x1075, 0x1081),
  (0x108E, 0x108E), (0x1780, 0x17B3), (0x1A20, 0x1A54), (0x1B0B, 0x1B0C), (0x1B13, 0x1B33),
  (0x1B45, 0x1B4C), (0x1B83, 0x1BA0), (0x1BAE, 0x1BAF), (0x1BBB, 0x1BBD), (0xA989, 0xA98B),
  (0xA98F, 0xA9B2), (0xA9E0, 0xA9E4), (0xA9E7, 0xA9EF), (0xA9FA, 0xA9FE), (0xAA60, 0xAA6F),
  (0xAA71, 0xAA73), (0xAA7A, 0xAA7A), (0xAA7E, 0xAA7F), (0xAAE0, 0xAAEA), (0xABC0, 0xABDA),
  (0x10A00, 0x10A00), (0x10A10, 0x10A13), (0x10A15, 0x10A17), (0x10A19, 0x10A35),
  (0x11103, 0x11126), (0x11144, 0x11144), (0x11147, 0x11147), (0x11380, 0x11389),
  (0x1138B, 0x1138B), (0x1138E, 0x1138E), (0x11390, 0x113B5), (0x11900, 0x11906),
  (0x11909, 0x11909), (0x1190C, 0x11913), (0x11915, 0x11916), (0x11918, 0x1192F),
  (0x11A00, 0x11A00), (0x11A0B, 0x11A32), (0x11A50, 0x11A50), (0x11A5C, 0x11A83),
  (0x11F04, 0x11F10), (0x11F12, 0x11F33)]

/-- Ranges of signs that link two consonants into a conjunct. -/
def linkerRanges : Array (Nat × Nat) := #[
  (0x94D, 0x94D), (0x9CD, 0x9CD), (0xACD, 0xACD), (0xB4D, 0xB4D), (0xC4D, 0xC4D), (0xD4D, 0xD4D),
  (0x1039, 0x1039), (0x17D2, 0x17D2), (0x1A60, 0x1A60), (0x1B44, 0x1B44), (0x1BAB, 0x1BAB),
  (0xA9C0, 0xA9C0), (0xAAF6, 0xAAF6), (0x10A3F, 0x10A3F), (0x11133, 0x11133), (0x113D0, 0x113D0),
  (0x1193E, 0x1193E), (0x11A47, 0x11A47), (0x11A99, 0x11A99), (0x11F42, 0x11F42)]

/-- The part of a Hangul syllable that a character is. -/
def jamo? (n : Nat) : Option Jamo :=
  if inRanges #[(0x1100, 0x115F), (0xA960, 0xA97C)] n then some .leading
  else if inRanges #[(0x1160, 0x11A7), (0xD7B0, 0xD7C6), (0x16D63, 0x16D63), (0x16D67, 0x16D6A)] n
    then some .vowel
  else if inRanges #[(0x11A8, 0x11FF), (0xD7CB, 0xD7FB)] n then some .trailing
  else if 0xAC00 ≤ n && n ≤ 0xD7A3 then
    some (if (n - 0xAC00) % 28 == 0 then .openSyllable else .closedSyllable)
  else none

/-- Whether a character goes with what is before it. -/
def isExtending (n : Nat) : Bool :=
  inRanges extendingRanges n || n == 0xFF9E || n == 0xFF9F || isSkinTone n

/-- What a character does to the clusters around it. -/
def clusterRole (n : Nat) : ClusterRole :=
  if n == 0xD then .carriageReturn
  else if n == 0xA then .lineFeed
  else if n < 0x20 then .control
  else if n < 0x7F then .other
  else if n == zeroWidthJoiner then .joiner
  else if isExtending n then .extending
  else if isFlagLetter n then .flagLetter
  else if inRanges controlRanges n then .control
  else if inRanges precedingRanges n then .preceding
  else if inRanges spacingRanges n then .spacing
  else match jamo? n with
    | some part => .jamo part
    | none => .other

/-- How far the conjunct at the end of a cluster has come. -/
inductive Conjunct where
  | none
  /-- A consonant and signs on it. -/
  | consonant
  /-- A consonant and signs on it, one of them a linker. -/
  | linked
  deriving DecidableEq, Repr

/-- What a cluster ends with. -/
structure Cluster where
  role : ClusterRole
  /-- Whether it ends with an odd number of letters of flags. -/
  oddFlagLetters : Bool
  /-- Whether it ends with a picture and signs on it, and a joiner if that is the last character. -/
  picture : Bool
  conjunct : Conjunct
  deriving DecidableEq, Repr

namespace Cluster

/-- Whether two parts of a Hangul syllable stay together. -/
def jamoJoin : Jamo → Jamo → Bool
  | .leading, .trailing => false
  | .leading, _ => true
  | .openSyllable, b | .vowel, b => b == .vowel || b == .trailing
  | .closedSyllable, b | .trailing, b => b == .trailing

/-- Whether a character stays with a cluster. -/
def takes (c : Cluster) (n : Nat) : Bool :=
  match c.role, clusterRole n with
  | .carriageReturn, .lineFeed => true
  | .carriageReturn, _ | .lineFeed, _ | .control, _ => false
  | _, .carriageReturn | _, .lineFeed | _, .control => false
  | _, .extending | _, .joiner | _, .spacing => true
  | .preceding, _ => true
  | .jamo a, .jamo b => jamoJoin a b
  | .flagLetter, .flagLetter => c.oddFlagLetters
  | .joiner, _ =>
    (c.picture && inRanges pictographRanges n) ||
      (c.conjunct == .linked && inRanges conjunctRanges n)
  | _, _ => c.conjunct == .linked && inRanges conjunctRanges n

/-- What a cluster ends with behind a character; `none` before its first one. -/
def extend (c : Option Cluster) (n : Nat) : Cluster :=
  let role := clusterRole n
  let attached := role == .extending || role == .joiner
  let before := c.getD ⟨.other, false, false, .none⟩
  { role
    oddFlagLetters := role == .flagLetter && !before.oddFlagLetters
    picture := inRanges pictographRanges n ||
      (before.picture && attached && before.role != .joiner)
    conjunct :=
      if inRanges conjunctRanges n then .consonant
      else if before.conjunct == .none || n == 0x200C || !attached then .none
      else if inRanges linkerRanges n then .linked
      else before.conjunct }

end Cluster

/-- Cuts a text into clusters; the first one goes on from a cluster that is already begun. -/
def clustersFrom : Cluster → List Char → List Char × List (List Char)
  | _, [] => ([], [])
  | cluster, c :: cs =>
    let n := c.toNat
    if cluster.takes n then
      let (first, rest) := clustersFrom (.extend (some cluster) n) cs
      (c :: first, rest)
    else
      let (first, rest) := clustersFrom (.extend none n) cs
      ([], (c :: first) :: rest)

/-- The grapheme clusters of a text. -/
def clusters : List Char → List (List Char)
  | [] => []
  | c :: cs =>
    let (first, rest) := clustersFrom (.extend none c.toNat) cs
    (c :: first) :: rest

end LabelForge.Text
