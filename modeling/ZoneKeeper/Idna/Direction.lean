import ZoneKeeper.Idna.Marks

namespace ZoneKeeper.Idna

inductive Direction
  | left
  | right
  | arabicNumber
  | europeanNumber
  | neutral
  | mark
  | unknown
deriving DecidableEq

set_option maxRecDepth 4000 in
/-- The characters outside ASCII that do not run from the left, marks aside. Code points that are
younger than the rule have no direction, and ranges may run over those that no name holds. -/
def directionRanges : List (Nat × Nat × Direction) := [
  (0xA1, 0xD7, .neutral), (0xF7, 0xF7, .neutral), (0x2B9, 0x2BA, .neutral),
  (0x2C2, 0x2CF, .neutral), (0x2D2, 0x2ED, .neutral), (0x2EF, 0x2FF, .neutral),
  (0x375, 0x375, .neutral), (0x3F6, 0x3F6, .neutral), (0x58A, 0x58F, .neutral),
  (0x5BE, 0x5BE, .right), (0x5C0, 0x5C0, .right), (0x5C3, 0x5C3, .right), (0x5C6, 0x5C6, .right),
  (0x5D0, 0x5F4, .right), (0x606, 0x607, .neutral), (0x608, 0x608, .right),
  (0x609, 0x60A, .neutral), (0x60B, 0x60B, .right), (0x60C, 0x60C, .neutral),
  (0x60D, 0x60D, .right), (0x60E, 0x60F, .neutral), (0x61B, 0x61B, .right),
  (0x61D, 0x61D, .unknown), (0x61E, 0x64A, .right), (0x660, 0x669, .arabicNumber),
  (0x66A, 0x66A, .neutral), (0x66B, 0x66C, .arabicNumber), (0x66D, 0x66F, .right),
  (0x671, 0x6D5, .right), (0x6DE, 0x6DE, .neutral), (0x6E5, 0x6E6, .right),
  (0x6E9, 0x6E9, .neutral), (0x6EE, 0x6EF, .right), (0x6F0, 0x6F9, .europeanNumber),
  (0x6FA, 0x710, .right), (0x712, 0x72F, .right), (0x74D, 0x7A5, .right), (0x7B1, 0x7EA, .right),
  (0x7F4, 0x7F5, .right), (0x7F6, 0x7F9, .neutral), (0x7FA, 0x7FA, .right),
  (0x7FE, 0x815, .right), (0x81A, 0x81A, .right), (0x824, 0x824, .right), (0x828, 0x828, .right),
  (0x830, 0x858, .right), (0x85E, 0x86A, .right), (0x870, 0x89F, .unknown),
  (0x8A0, 0x8B4, .right), (0x8B5, 0x8B5, .unknown), (0x8B6, 0x8C7, .right),
  (0x8C8, 0x8D2, .unknown), (0x9F2, 0x9F3, .neutral), (0x9FB, 0x9FB, .neutral),
  (0xAF1, 0xAF1, .neutral), (0xBF3, 0xBFA, .neutral), (0xC3C, 0xC3C, .unknown),
  (0xC5D, 0xC5D, .unknown), (0xC78, 0xC7E, .neutral), (0xCDD, 0xCDD, .unknown),
  (0xCF3, 0xCF3, .unknown), (0xE3F, 0xE3F, .neutral), (0xECE, 0xECE, .unknown),
  (0xF3A, 0xF3D, .neutral), (0x1390, 0x1399, .neutral), (0x1400, 0x1400, .neutral),
  (0x169B, 0x169C, .neutral), (0x170D, 0x170D, .unknown), (0x1715, 0x171F, .unknown),
  (0x17DB, 0x17DB, .neutral), (0x17F0, 0x180A, .neutral), (0x1940, 0x1945, .neutral),
  (0x19DE, 0x19FF, .neutral), (0x1AC1, 0x1ACE, .unknown), (0x1B4C, 0x1B4C, .unknown),
  (0x1B7D, 0x1B7E, .unknown), (0x1DFA, 0x1DFA, .unknown), (0x200C, 0x20BF, .neutral),
  (0x20C0, 0x20C0, .unknown), (0x2104, 0x214D, .neutral), (0x218A, 0x2335, .neutral),
  (0x237B, 0x2394, .neutral), (0x2396, 0x26AB, .neutral), (0x26AD, 0x27FF, .neutral),
  (0x2900, 0x2BFF, .neutral), (0x2C5F, 0x2C5F, .unknown), (0x2CE5, 0x2CEA, .neutral),
  (0x2CF9, 0x2CFF, .neutral), (0x2E00, 0x2E52, .neutral), (0x2E53, 0x2E5D, .unknown),
  (0x2E80, 0x3004, .neutral), (0x3008, 0x3020, .neutral), (0x3030, 0x3030, .neutral),
  (0x3037, 0x3037, .neutral), (0x303D, 0x303F, .neutral), (0x30A0, 0x30A0, .neutral),
  (0x30FB, 0x30FB, .neutral), (0x31C0, 0x31E3, .neutral), (0x4DC0, 0x4DFF, .neutral),
  (0x9FFD, 0x9FFF, .unknown), (0xA490, 0xA4C6, .neutral), (0xA60D, 0xA60F, .neutral),
  (0xA673, 0xA673, .neutral), (0xA67E, 0xA67F, .neutral), (0xA700, 0xA721, .neutral),
  (0xA788, 0xA788, .neutral), (0xA7C1, 0xA7C1, .unknown), (0xA7D1, 0xA7D9, .unknown),
  (0xA828, 0xA82B, .neutral), (0xA838, 0xA839, .neutral), (0xA874, 0xA877, .neutral),
  (0xAB6A, 0xAB6B, .neutral), (0xFBB2, 0xFBC1, .right), (0xFBC2, 0xFBC2, .unknown),
  (0xFD3E, 0xFD3F, .neutral), (0xFD40, 0xFDCF, .unknown), (0xFDFD, 0xFDFD, .neutral),
  (0xFDFE, 0xFDFF, .unknown), (0xFE45, 0xFE46, .neutral), (0xFE73, 0xFE73, .right),
  (0x10101, 0x10101, .neutral), (0x10140, 0x1018C, .neutral), (0x10190, 0x101A0, .neutral),
  (0x102E1, 0x102FB, .europeanNumber), (0x10597, 0x105BC, .unknown),
  (0x10780, 0x10780, .unknown), (0x10800, 0x1091B, .right), (0x1091F, 0x1091F, .neutral),
  (0x10920, 0x10A00, .right), (0x10A10, 0x10A35, .right), (0x10A40, 0x10AE4, .right),
  (0x10AEB, 0x10B35, .right), (0x10B39, 0x10B3F, .neutral), (0x10B40, 0x10D23, .right),
  (0x10D30, 0x10E7E, .arabicNumber), (0x10E80, 0x10EA9, .right), (0x10EAD, 0x10EB1, .right),
  (0x10EFD, 0x10EFF, .unknown), (0x10F00, 0x10F45, .right), (0x10F51, 0x10F59, .right),
  (0x10F70, 0x10F89, .unknown), (0x10FB0, 0x10FF6, .right), (0x11052, 0x11065, .neutral),
  (0x11070, 0x11075, .unknown), (0x110C2, 0x110C2, .unknown), (0x1123F, 0x11241, .unknown),
  (0x11660, 0x1166C, .neutral), (0x116B9, 0x116B9, .unknown), (0x11740, 0x11746, .unknown),
  (0x11AB0, 0x11ABF, .unknown), (0x11B00, 0x11B09, .unknown), (0x11F00, 0x11F59, .unknown),
  (0x11FD5, 0x11FF1, .neutral), (0x12F90, 0x12FF2, .unknown), (0x1342F, 0x13455, .unknown),
  (0x16A70, 0x16AC9, .unknown), (0x16FE2, 0x16FE2, .neutral), (0x1AFF0, 0x1AFFE, .unknown),
  (0x1B11F, 0x1B132, .unknown), (0x1B155, 0x1B155, .unknown), (0x1CF00, 0x1CFC3, .unknown),
  (0x1D1E9, 0x1D1EA, .unknown), (0x1D200, 0x1D241, .neutral), (0x1D245, 0x1D245, .neutral),
  (0x1D2C0, 0x1D2D3, .unknown), (0x1D300, 0x1D356, .neutral), (0x1DF00, 0x1DF2A, .unknown),
  (0x1E08F, 0x1E08F, .unknown), (0x1E290, 0x1E2AE, .unknown), (0x1E2FF, 0x1E2FF, .neutral),
  (0x1E4D0, 0x1E7FE, .unknown), (0x1E800, 0x1E8CF, .right), (0x1E922, 0x1E943, .right),
  (0x1E94B, 0x1ED3D, .right), (0x1EEF0, 0x1F12F, .neutral), (0x1F16D, 0x1F16F, .neutral),
  (0x1F1AD, 0x1F1AD, .neutral), (0x1F260, 0x1F6D7, .neutral), (0x1F6DC, 0x1F6DF, .unknown),
  (0x1F6E0, 0x1F773, .neutral), (0x1F774, 0x1F77F, .unknown), (0x1F780, 0x1F7D8, .neutral),
  (0x1F7D9, 0x1F7D9, .unknown), (0x1F7E0, 0x1F7EB, .neutral), (0x1F7F0, 0x1F7F0, .unknown),
  (0x1F800, 0x1F978, .neutral), (0x1F979, 0x1F979, .unknown), (0x1F97A, 0x1F9CB, .neutral),
  (0x1F9CC, 0x1F9CC, .unknown), (0x1F9CD, 0x1FA74, .neutral), (0x1FA75, 0x1FA77, .unknown),
  (0x1FA78, 0x1FA7A, .neutral), (0x1FA7B, 0x1FA7C, .unknown), (0x1FA80, 0x1FA86, .neutral),
  (0x1FA87, 0x1FA88, .unknown), (0x1FA90, 0x1FAA8, .neutral), (0x1FAA9, 0x1FAAF, .unknown),
  (0x1FAB0, 0x1FAB6, .neutral), (0x1FAB7, 0x1FABF, .unknown), (0x1FAC0, 0x1FAC2, .neutral),
  (0x1FAC3, 0x1FACF, .unknown), (0x1FAD0, 0x1FAD6, .neutral), (0x1FAD7, 0x1FAF8, .unknown),
  (0x1FB00, 0x1FBCA, .neutral), (0x2A6DE, 0x2A6DF, .unknown), (0x2B735, 0x2B739, .unknown),
  (0x31350, 0x323AF, .unknown)]

def asciiDirection (c : Nat) : Direction :=
  if 0x30 ≤ c && c ≤ 0x39 then .europeanNumber
  else if (0x41 ≤ c && c ≤ 0x5A) || (0x61 ≤ c && c ≤ 0x7A) then .left
  else .neutral

def direction (c : Nat) : Direction :=
  if c < 0x80 then asciiDirection c
  else if isNonspacing c then .mark
  else
    match directionRanges.find? fun r => r.1 ≤ c && c ≤ r.2.1 with
    | some r => r.2.2
    | none => .left

def withoutLastMarks (ds : List Direction) : List Direction :=
  (ds.reverse.dropWhile (· = .mark)).reverse

def runsLeft (ds : List Direction) : Bool :=
  ds.dropLast.all fun d => d ≠ .right && d ≠ .arabicNumber && d ≠ .unknown

/-- Digits of both kinds cannot stand in one label, and the last character is a letter or a
digit. -/
def runsRight (ds : List Direction) : Bool :=
  ds.all (fun d => d ≠ .left && d ≠ .unknown) &&
    !(ds.contains .arabicNumber && ds.contains .europeanNumber) && ds.getLast? ≠ some .neutral

/-- A label without characters from right to left is free to mix. -/
def runsOneWay (label : List Nat) : Bool :=
  let ds := withoutLastMarks (label.map direction)
  if ds.any fun d => d = .right || d = .arabicNumber then
    if ds.head? = some .left then runsLeft ds else runsRight ds
  else true

end ZoneKeeper.Idna
