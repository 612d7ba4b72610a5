import PerfGate.HostName.Folding.Letters
import PerfGate.HostName.Folding.Spellings
import PerfGate.Text.Range

/-!
# Folding

What a character becomes in a host name. Capital letters become small, letters in a special form
become plain ones, and signs that stand for some letters are spelled out.
-/

namespace PerfGate.HostName

/-- Letters at equal distances that become letters at the same distances. -/
structure LetterRun where
  first : Nat
  last : Nat
  step : Nat
  /-- What the first letter becomes. -/
  image : Nat
  deriving DecidableEq, Repr

/-- What a letter of the run becomes. -/
def LetterRun.imageOf? (run : LetterRun) (n : Nat) : Option Nat :=
  if run.first ≤ n ∧ n ≤ run.last ∧ (n - run.first) % run.step = 0 then
    some (run.image + (n - run.first))
  else none

/-- The runs of letters beyond ASCII. -/
def letterRuns : List LetterRun :=
  [⟨0xc0, 0xd6, 1, 0xe0⟩, ⟨0xd8, 0xde, 1, 0xf8⟩, ⟨0x100, 0x12e, 2, 0x101⟩, ⟨0x139, 0x13d, 2, 0x13a⟩,
    ⟨0x141, 0x147, 2, 0x142⟩, ⟨0x14a, 0x176, 2, 0x14b⟩, ⟨0x179, 0x17d, 2, 0x17a⟩,
    ⟨0x1a0, 0x1a4, 2, 0x1a1⟩, ⟨0x1cd, 0x1db, 2, 0x1ce⟩, ⟨0x1de, 0x1ee, 2, 0x1df⟩,
    ⟨0x1f8, 0x21e, 2, 0x1f9⟩, ⟨0x222, 0x232, 2, 0x223⟩, ⟨0x246, 0x24e, 2, 0x247⟩,
    ⟨0x388, 0x38a, 1, 0x3ad⟩, ⟨0x391, 0x3a1, 1, 0x3b1⟩, ⟨0x3a3, 0x3ab, 1, 0x3c3⟩,
    ⟨0x3d8, 0x3ee, 2, 0x3d9⟩, ⟨0x3fd, 0x3ff, 1, 0x37b⟩, ⟨0x400, 0x40f, 1, 0x450⟩,
    ⟨0x410, 0x42f, 1, 0x430⟩, ⟨0x460, 0x480, 2, 0x461⟩, ⟨0x48a, 0x4be, 2, 0x48b⟩,
    ⟨0x4c1, 0x4cd, 2, 0x4c2⟩, ⟨0x4d0, 0x52e, 2, 0x4d1⟩, ⟨0x531, 0x556, 1, 0x561⟩,
    ⟨0x10a0, 0x10c5, 1, 0x2d00⟩, ⟨0x13f8, 0x13fd, 1, 0x13f0⟩, ⟨0x1c90, 0x1cba, 1, 0x10d0⟩,
    ⟨0x1cbd, 0x1cbf, 1, 0x10fd⟩, ⟨0x1d31, 0x1d39, 2, 0x65⟩, ⟨0x1d34, 0x1d3a, 2, 0x68⟩,
    ⟨0x1d5d, 0x1d5f, 1, 0x3b2⟩, ⟨0x1da4, 0x1da6, 1, 0x268⟩, ⟨0x1dae, 0x1db1, 1, 0x272⟩,
    ⟨0x1dbc, 0x1dbe, 1, 0x290⟩, ⟨0x1e00, 0x1e94, 2, 0x1e01⟩, ⟨0x1ea0, 0x1efe, 2, 0x1ea1⟩,
    ⟨0x1f08, 0x1f0f, 1, 0x1f00⟩, ⟨0x1f18, 0x1f1d, 1, 0x1f10⟩, ⟨0x1f28, 0x1f2f, 1, 0x1f20⟩,
    ⟨0x1f38, 0x1f3f, 1, 0x1f30⟩, ⟨0x1f48, 0x1f4d, 1, 0x1f40⟩, ⟨0x1f59, 0x1f5f, 2, 0x1f51⟩,
    ⟨0x1f68, 0x1f6f, 1, 0x1f60⟩, ⟨0x2074, 0x2079, 1, 0x34⟩, ⟨0x2080, 0x2089, 1, 0x30⟩,
    ⟨0x2096, 0x2099, 1, 0x6b⟩, ⟨0x2119, 0x211b, 1, 0x70⟩, ⟨0x2135, 0x2138, 1, 0x5d0⟩,
    ⟨0x2460, 0x2468, 1, 0x31⟩, ⟨0x24b6, 0x24cf, 1, 0x61⟩, ⟨0x24d0, 0x24e9, 1, 0x61⟩,
    ⟨0x2c00, 0x2c2f, 1, 0x2c30⟩, ⟨0x2c67, 0x2c6b, 2, 0x2c68⟩, ⟨0x2c80, 0x2ce2, 2, 0x2c81⟩,
    ⟨0x3137, 0x3139, 1, 0x1103⟩, ⟨0x313a, 0x313f, 1, 0x11b0⟩, ⟨0x3141, 0x3143, 1, 0x1106⟩,
    ⟨0x3145, 0x314e, 1, 0x1109⟩, ⟨0x314f, 0x3163, 1, 0x1161⟩, ⟨0x3178, 0x317c, 1, 0x112b⟩,
    ⟨0x3184, 0x3186, 1, 0x1157⟩, ⟨0x3263, 0x3265, 1, 0x1105⟩, ⟨0x3269, 0x326d, 1, 0x110e⟩,
    ⟨0x32e4, 0x32e9, 1, 0x30ca⟩, ⟨0x32ee, 0x32f2, 1, 0x30de⟩, ⟨0x32f5, 0x32fa, 1, 0x30e8⟩,
    ⟨0x32fb, 0x32fe, 1, 0x30ef⟩, ⟨0xa640, 0xa66c, 2, 0xa641⟩, ⟨0xa680, 0xa69a, 2, 0xa681⟩,
    ⟨0xa722, 0xa72e, 2, 0xa723⟩, ⟨0xa732, 0xa76e, 2, 0xa733⟩, ⟨0xa77e, 0xa786, 2, 0xa77f⟩,
    ⟨0xa796, 0xa7a8, 2, 0xa797⟩, ⟨0xa7b4, 0xa7c2, 2, 0xa7b5⟩, ⟨0xa7cc, 0xa7da, 2, 0xa7cd⟩,
    ⟨0xab70, 0xabbf, 1, 0x13a0⟩, ⟨0xfb24, 0xfb26, 1, 0x5db⟩, ⟨0xfe41, 0xfe44, 1, 0x300c⟩,
    ⟨0xff01, 0xff20, 1, 0x21⟩, ⟨0xff21, 0xff3a, 1, 0x61⟩, ⟨0xff3b, 0xff5e, 1, 0x5b⟩,
    ⟨0xff85, 0xff8a, 1, 0x30ca⟩, ⟨0xff8f, 0xff93, 1, 0x30de⟩, ⟨0xff96, 0xff9b, 1, 0x30e8⟩,
    ⟨0xffa7, 0xffa9, 1, 0x1103⟩, ⟨0xffaa, 0xffaf, 1, 0x11b0⟩, ⟨0xffb1, 0xffb3, 1, 0x1106⟩,
    ⟨0xffb5, 0xffbe, 1, 0x1109⟩, ⟨0xffc2, 0xffc7, 1, 0x1161⟩, ⟨0xffca, 0xffcf, 1, 0x1167⟩,
    ⟨0xffd2, 0xffd7, 1, 0x116d⟩, ⟨0xffda, 0xffdc, 1, 0x1173⟩, ⟨0xffe9, 0xffec, 1, 0x2190⟩,
    ⟨0x10400, 0x10427, 1, 0x10428⟩, ⟨0x104b0, 0x104d3, 1, 0x104d8⟩, ⟨0x10570, 0x10594, 2, 0x10597⟩,
    ⟨0x10571, 0x10579, 2, 0x10598⟩, ⟨0x1057d, 0x10589, 2, 0x105a4⟩, ⟨0x1058d, 0x10591, 2, 0x105b4⟩,
    ⟨0x107b6, 0x107b8, 1, 0x1c0⟩, ⟨0x10c80, 0x10cb2, 1, 0x10cc0⟩, ⟨0x10d50, 0x10d65, 1, 0x10d70⟩,
    ⟨0x118a0, 0x118bf, 1, 0x118c0⟩, ⟨0x16e40, 0x16e5f, 1, 0x16e60⟩, ⟨0x16ea0, 0x16eb8, 1, 0x16ebb⟩,
    ⟨0x1ccd6, 0x1ccef, 1, 0x61⟩, ⟨0x1ccf0, 0x1ccf9, 1, 0x30⟩, ⟨0x1d400, 0x1d419, 1, 0x61⟩,
    ⟨0x1d41a, 0x1d433, 1, 0x61⟩, ⟨0x1d434, 0x1d44d, 1, 0x61⟩, ⟨0x1d44e, 0x1d466, 2, 0x61⟩,
    ⟨0x1d44f, 0x1d453, 2, 0x62⟩, ⟨0x1d457, 0x1d467, 2, 0x6a⟩, ⟨0x1d468, 0x1d481, 1, 0x61⟩,
    ⟨0x1d482, 0x1d49b, 1, 0x61⟩, ⟨0x1d4a9, 0x1d4ac, 1, 0x6e⟩, ⟨0x1d4ae, 0x1d4b5, 1, 0x73⟩,
    ⟨0x1d4b6, 0x1d4b9, 1, 0x61⟩, ⟨0x1d4bb, 0x1d4cf, 2, 0x66⟩, ⟨0x1d4be, 0x1d4c2, 2, 0x69⟩,
    ⟨0x1d4c6, 0x1d4ce, 2, 0x71⟩, ⟨0x1d4d0, 0x1d4e9, 1, 0x61⟩, ⟨0x1d4ea, 0x1d503, 1, 0x61⟩,
    ⟨0x1d505, 0x1d509, 2, 0x62⟩, ⟨0x1d50d, 0x1d514, 1, 0x6a⟩, ⟨0x1d516, 0x1d51c, 1, 0x73⟩,
    ⟨0x1d51e, 0x1d537, 1, 0x61⟩, ⟨0x1d539, 0x1d53d, 2, 0x62⟩, ⟨0x1d53c, 0x1d546, 2, 0x65⟩,
    ⟨0x1d54a, 0x1d550, 1, 0x73⟩, ⟨0x1d552, 0x1d56b, 1, 0x61⟩, ⟨0x1d56c, 0x1d585, 1, 0x61⟩,
    ⟨0x1d586, 0x1d59f, 1, 0x61⟩, ⟨0x1d5a0, 0x1d5b9, 1, 0x61⟩, ⟨0x1d5ba, 0x1d5d3, 1, 0x61⟩,
    ⟨0x1d5d4, 0x1d5ed, 1, 0x61⟩, ⟨0x1d5ee, 0x1d607, 1, 0x61⟩, ⟨0x1d608, 0x1d621, 1, 0x61⟩,
    ⟨0x1d622, 0x1d63b, 1, 0x61⟩, ⟨0x1d63c, 0x1d655, 1, 0x61⟩, ⟨0x1d656, 0x1d66f, 1, 0x61⟩,
    ⟨0x1d670, 0x1d689, 1, 0x61⟩, ⟨0x1d68a, 0x1d6a3, 1, 0x61⟩, ⟨0x1d6a8, 0x1d6b8, 1, 0x3b1⟩,
    ⟨0x1d6ba, 0x1d6c0, 1, 0x3c3⟩, ⟨0x1d6c2, 0x1d6d2, 1, 0x3b1⟩, ⟨0x1d6d4, 0x1d6da, 1, 0x3c3⟩,
    ⟨0x1d6e2, 0x1d6f2, 1, 0x3b1⟩, ⟨0x1d6f4, 0x1d6fa, 1, 0x3c3⟩, ⟨0x1d6fc, 0x1d70c, 1, 0x3b1⟩,
    ⟨0x1d70e, 0x1d714, 1, 0x3c3⟩, ⟨0x1d71c, 0x1d72c, 1, 0x3b1⟩, ⟨0x1d72e, 0x1d734, 1, 0x3c3⟩,
    ⟨0x1d736, 0x1d746, 1, 0x3b1⟩, ⟨0x1d748, 0x1d74e, 1, 0x3c3⟩, ⟨0x1d756, 0x1d766, 1, 0x3b1⟩,
    ⟨0x1d768, 0x1d76e, 1, 0x3c3⟩, ⟨0x1d770, 0x1d780, 1, 0x3b1⟩, ⟨0x1d782, 0x1d788, 1, 0x3c3⟩,
    ⟨0x1d790, 0x1d7a0, 1, 0x3b1⟩, ⟨0x1d7a2, 0x1d7a8, 1, 0x3c3⟩, ⟨0x1d7aa, 0x1d7ba, 1, 0x3b1⟩,
    ⟨0x1d7bc, 0x1d7c2, 1, 0x3c3⟩, ⟨0x1d7ce, 0x1d7d7, 1, 0x30⟩, ⟨0x1d7d8, 0x1d7e1, 1, 0x30⟩,
    ⟨0x1d7e2, 0x1d7eb, 1, 0x30⟩, ⟨0x1d7ec, 0x1d7f5, 1, 0x30⟩, ⟨0x1d7f6, 0x1d7ff, 1, 0x30⟩,
    ⟨0x1e030, 0x1e038, 1, 0x430⟩, ⟨0x1e039, 0x1e03b, 1, 0x43a⟩, ⟨0x1e03c, 0x1e046, 1, 0x43e⟩,
    ⟨0x1e051, 0x1e059, 1, 0x430⟩, ⟨0x1e05f, 0x1e064, 1, 0x443⟩, ⟨0x1e900, 0x1e921, 1, 0x1e922⟩,
    ⟨0x1ee0a, 0x1ee0d, 1, 0x643⟩, ⟨0x1ee2a, 0x1ee2d, 1, 0x643⟩, ⟨0x1ee8b, 0x1ee8d, 1, 0x644⟩,
    ⟨0x1eeab, 0x1eead, 1, 0x644⟩, ⟨0x1f130, 0x1f149, 1, 0x61⟩, ⟨0x1fbf0, 0x1fbf9, 1, 0x30⟩]

/-- The characters that leave no trace in a host name. -/
def tracelessRanges : List (Nat × Nat) :=
  [(0xad, 0xad), (0x34f, 0x34f), (0x115f, 0x1160), (0x17b4, 0x17b5), (0x180b, 0x180f),
    (0x200b, 0x200b), (0x2060, 0x2064), (0x206a, 0x206f), (0x3164, 0x3164), (0xfe00, 0xfe0f),
    (0xfeff, 0xfeff), (0xffa0, 0xffa0), (0x1bca0, 0x1bca3), (0x1d173, 0x1d17a), (0xe0100, 0xe01ef)]

/-- The entry for a code point in a table of consecutive entries. -/
def entryOf? {α : Type} (table : List (Nat × List α)) (n : Nat) : Option α :=
  table.findSome? fun (first, images) => if first ≤ n then images[n - first]? else none

/-- What a character beyond ASCII becomes, unless it stays as it is. -/
def folded? (c : Char) : Option (List Char) :=
  if Text.inRanges tracelessRanges c then some []
  else
    match letterRuns.findSome? (·.imageOf? c.toNat) with
    | some image => some [Char.ofNat image]
    | none =>
      match entryOf? letterForms c.toNat with
      | some image => some [Char.ofNat image]
      | none => (entryOf? spellings c.toNat).map (·.map Char.ofNat)

end PerfGate.HostName
