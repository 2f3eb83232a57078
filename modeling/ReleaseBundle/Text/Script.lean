import ReleaseBundle.Text.Run

/-!
# Scripts

The scripts that characters are written for, after Unicode 16.  A character that
several scripts use may belong to the script "common" or "inherited"; a further
table says with which scripts such a character is in fact used.
-/

namespace ReleaseBundle.Text

/-- A script, by the code of four letters that stands for it, its further names, and
its characters. -/
structure Script where
  code : String
  further : List String
  runs : List Run

namespace Script

/-- The names of a script. -/
def names (script : Script) : List String := script.code :: script.further

/-- Adlam. -/
def adlam : Script where
  code := "adlm"
  further := ["adlam"]
  runs :=
    [⟨0x1E900, 0x1E94B, 1⟩, ⟨0x1E950, 0x1E959, 1⟩, ⟨0x1E95E, 0x1E95F, 1⟩]

/-- Ahom. -/
def ahom : Script where
  code := "ahom"
  further := []
  runs :=
    [⟨0x11700, 0x1171A, 1⟩, ⟨0x1171D, 0x1172B, 1⟩, ⟨0x11730, 0x11746, 1⟩]

/-- Anatolian Hieroglyphs. -/
def anatolianHieroglyphs : Script where
  code := "hluw"
  further := ["anatolianhieroglyphs"]
  runs :=
    [⟨0x14400, 0x14646, 1⟩]

/-- Arabic. -/
def arabic : Script where
  code := "arab"
  further := ["arabic"]
  runs :=
    [⟨0x600, 0x604, 1⟩, ⟨0x606, 0x60B, 1⟩, ⟨0x60D, 0x61A, 1⟩, ⟨0x61C, 0x61E, 1⟩, ⟨0x620, 0x63F, 1⟩,
     ⟨0x641, 0x64A, 1⟩, ⟨0x656, 0x66F, 1⟩, ⟨0x671, 0x6DC, 1⟩, ⟨0x6DE, 0x6FF, 1⟩, ⟨0x750, 0x77F, 1⟩,
     ⟨0x870, 0x88E, 1⟩, ⟨0x890, 0x891, 1⟩, ⟨0x897, 0x8E1, 1⟩, ⟨0x8E3, 0x8FF, 1⟩,
     ⟨0xFB50, 0xFBC2, 1⟩, ⟨0xFBD3, 0xFD3D, 1⟩, ⟨0xFD40, 0xFD8F, 1⟩, ⟨0xFD92, 0xFDC7, 1⟩,
     ⟨0xFDCF, 0xFDCF, 1⟩, ⟨0xFDF0, 0xFDFF, 1⟩, ⟨0xFE70, 0xFE74, 1⟩, ⟨0xFE76, 0xFEFC, 1⟩,
     ⟨0x10E60, 0x10E7E, 1⟩, ⟨0x10EC2, 0x10EC4, 1⟩, ⟨0x10EFC, 0x10EFF, 1⟩, ⟨0x1EE00, 0x1EE03, 1⟩,
     ⟨0x1EE05, 0x1EE1F, 1⟩, ⟨0x1EE21, 0x1EE22, 1⟩, ⟨0x1EE24, 0x1EE24, 1⟩, ⟨0x1EE27, 0x1EE27, 1⟩,
     ⟨0x1EE29, 0x1EE32, 1⟩, ⟨0x1EE34, 0x1EE37, 1⟩, ⟨0x1EE39, 0x1EE3B, 2⟩, ⟨0x1EE42, 0x1EE42, 1⟩,
     ⟨0x1EE47, 0x1EE4B, 2⟩, ⟨0x1EE4D, 0x1EE4F, 1⟩, ⟨0x1EE51, 0x1EE52, 1⟩, ⟨0x1EE54, 0x1EE54, 1⟩,
     ⟨0x1EE57, 0x1EE5F, 2⟩, ⟨0x1EE61, 0x1EE62, 1⟩, ⟨0x1EE64, 0x1EE64, 1⟩, ⟨0x1EE67, 0x1EE6A, 1⟩,
     ⟨0x1EE6C, 0x1EE72, 1⟩, ⟨0x1EE74, 0x1EE77, 1⟩, ⟨0x1EE79, 0x1EE7C, 1⟩, ⟨0x1EE7E, 0x1EE7E, 1⟩,
     ⟨0x1EE80, 0x1EE89, 1⟩, ⟨0x1EE8B, 0x1EE9B, 1⟩, ⟨0x1EEA1, 0x1EEA3, 1⟩, ⟨0x1EEA5, 0x1EEA9, 1⟩,
     ⟨0x1EEAB, 0x1EEBB, 1⟩, ⟨0x1EEF0, 0x1EEF1, 1⟩]

/-- Armenian. -/
def armenian : Script where
  code := "armn"
  further := ["armenian"]
  runs :=
    [⟨0x531, 0x556, 1⟩, ⟨0x559, 0x58A, 1⟩, ⟨0x58D, 0x58F, 1⟩, ⟨0xFB13, 0xFB17, 1⟩]

/-- Avestan. -/
def avestan : Script where
  code := "avst"
  further := ["avestan"]
  runs :=
    [⟨0x10B00, 0x10B35, 1⟩, ⟨0x10B39, 0x10B3F, 1⟩]

/-- Balinese. -/
def balinese : Script where
  code := "bali"
  further := ["balinese"]
  runs :=
    [⟨0x1B00, 0x1B4C, 1⟩, ⟨0x1B4E, 0x1B7F, 1⟩]

/-- Bamum. -/
def bamum : Script where
  code := "bamu"
  further := ["bamum"]
  runs :=
    [⟨0xA6A0, 0xA6F7, 1⟩, ⟨0x16800, 0x16A38, 1⟩]

/-- Bassa Vah. -/
def bassaVah : Script where
  code := "bass"
  further := ["bassavah"]
  runs :=
    [⟨0x16AD0, 0x16AED, 1⟩, ⟨0x16AF0, 0x16AF5, 1⟩]

/-- Batak. -/
def batak : Script where
  code := "batk"
  further := ["batak"]
  runs :=
    [⟨0x1BC0, 0x1BF3, 1⟩, ⟨0x1BFC, 0x1BFF, 1⟩]

/-- Bengali. -/
def bengali : Script where
  code := "beng"
  further := ["bengali"]
  runs :=
    [⟨0x980, 0x983, 1⟩, ⟨0x985, 0x98C, 1⟩, ⟨0x98F, 0x990, 1⟩, ⟨0x993, 0x9A8, 1⟩, ⟨0x9AA, 0x9B0, 1⟩,
     ⟨0x9B2, 0x9B2, 1⟩, ⟨0x9B6, 0x9B9, 1⟩, ⟨0x9BC, 0x9C4, 1⟩, ⟨0x9C7, 0x9C8, 1⟩, ⟨0x9CB, 0x9CE, 1⟩,
     ⟨0x9D7, 0x9D7, 1⟩, ⟨0x9DC, 0x9DD, 1⟩, ⟨0x9DF, 0x9E3, 1⟩, ⟨0x9E6, 0x9FE, 1⟩]

/-- Bhaiksuki. -/
def bhaiksuki : Script where
  code := "bhks"
  further := ["bhaiksuki"]
  runs :=
    [⟨0x11C00, 0x11C08, 1⟩, ⟨0x11C0A, 0x11C36, 1⟩, ⟨0x11C38, 0x11C45, 1⟩, ⟨0x11C50, 0x11C6C, 1⟩]

/-- Bopomofo. -/
def bopomofo : Script where
  code := "bopo"
  further := ["bopomofo"]
  runs :=
    [⟨0x2EA, 0x2EB, 1⟩, ⟨0x3105, 0x312F, 1⟩, ⟨0x31A0, 0x31BF, 1⟩]

/-- Brahmi. -/
def brahmi : Script where
  code := "brah"
  further := ["brahmi"]
  runs :=
    [⟨0x11000, 0x1104D, 1⟩, ⟨0x11052, 0x11075, 1⟩, ⟨0x1107F, 0x1107F, 1⟩]

/-- Braille. -/
def braille : Script where
  code := "brai"
  further := ["braille"]
  runs :=
    [⟨0x2800, 0x28FF, 1⟩]

/-- Buginese. -/
def buginese : Script where
  code := "bugi"
  further := ["buginese"]
  runs :=
    [⟨0x1A00, 0x1A1B, 1⟩, ⟨0x1A1E, 0x1A1F, 1⟩]

/-- Buhid. -/
def buhid : Script where
  code := "buhd"
  further := ["buhid"]
  runs :=
    [⟨0x1740, 0x1753, 1⟩]

/-- Canadian Aboriginal. -/
def canadianAboriginal : Script where
  code := "cans"
  further := ["canadianaboriginal"]
  runs :=
    [⟨0x1400, 0x167F, 1⟩, ⟨0x18B0, 0x18F5, 1⟩, ⟨0x11AB0, 0x11ABF, 1⟩]

/-- Carian. -/
def carian : Script where
  code := "cari"
  further := ["carian"]
  runs :=
    [⟨0x102A0, 0x102D0, 1⟩]

/-- Caucasian Albanian. -/
def caucasianAlbanian : Script where
  code := "aghb"
  further := ["caucasianalbanian"]
  runs :=
    [⟨0x10530, 0x10563, 1⟩, ⟨0x1056F, 0x1056F, 1⟩]

/-- Chakma. -/
def chakma : Script where
  code := "cakm"
  further := ["chakma"]
  runs :=
    [⟨0x11100, 0x11134, 1⟩, ⟨0x11136, 0x11147, 1⟩]

/-- Cham. -/
def cham : Script where
  code := "cham"
  further := []
  runs :=
    [⟨0xAA00, 0xAA36, 1⟩, ⟨0xAA40, 0xAA4D, 1⟩, ⟨0xAA50, 0xAA59, 1⟩, ⟨0xAA5C, 0xAA5F, 1⟩]

/-- Cherokee. -/
def cherokee : Script where
  code := "cher"
  further := ["cherokee"]
  runs :=
    [⟨0x13A0, 0x13F5, 1⟩, ⟨0x13F8, 0x13FD, 1⟩, ⟨0xAB70, 0xABBF, 1⟩]

/-- Chorasmian. -/
def chorasmian : Script where
  code := "chrs"
  further := ["chorasmian"]
  runs :=
    [⟨0x10FB0, 0x10FCB, 1⟩]

/-- Characters of all scripts. -/
def common : Script where
  code := "zyyy"
  further := ["common"]
  runs :=
    [⟨0x0, 0x40, 1⟩, ⟨0x5B, 0x60, 1⟩, ⟨0x7B, 0xA9, 1⟩, ⟨0xAB, 0xB9, 1⟩, ⟨0xBB, 0xBF, 1⟩,
     ⟨0xD7, 0xD7, 1⟩, ⟨0xF7, 0xF7, 1⟩, ⟨0x2B9, 0x2DF, 1⟩, ⟨0x2E5, 0x2E9, 1⟩, ⟨0x2EC, 0x2FF, 1⟩,
     ⟨0x374, 0x374, 1⟩, ⟨0x37E, 0x37E, 1⟩, ⟨0x385, 0x387, 2⟩, ⟨0x605, 0x605, 1⟩, ⟨0x60C, 0x60C, 1⟩,
     ⟨0x61B, 0x61B, 1⟩, ⟨0x61F, 0x61F, 1⟩, ⟨0x640, 0x640, 1⟩, ⟨0x6DD, 0x6DD, 1⟩, ⟨0x8E2, 0x8E2, 1⟩,
     ⟨0x964, 0x965, 1⟩, ⟨0xE3F, 0xE3F, 1⟩, ⟨0xFD5, 0xFD8, 1⟩, ⟨0x10FB, 0x10FB, 1⟩,
     ⟨0x16EB, 0x16ED, 1⟩, ⟨0x1735, 0x1736, 1⟩, ⟨0x1802, 0x1803, 1⟩, ⟨0x1805, 0x1805, 1⟩,
     ⟨0x1CD3, 0x1CD3, 1⟩, ⟨0x1CE1, 0x1CE1, 1⟩, ⟨0x1CE9, 0x1CEC, 1⟩, ⟨0x1CEE, 0x1CF3, 1⟩,
     ⟨0x1CF5, 0x1CF7, 1⟩, ⟨0x1CFA, 0x1CFA, 1⟩, ⟨0x2000, 0x200B, 1⟩, ⟨0x200E, 0x2064, 1⟩,
     ⟨0x2066, 0x2070, 1⟩, ⟨0x2074, 0x207E, 1⟩, ⟨0x2080, 0x208E, 1⟩, ⟨0x20A0, 0x20C0, 1⟩,
     ⟨0x2100, 0x2125, 1⟩, ⟨0x2127, 0x2129, 1⟩, ⟨0x212C, 0x2131, 1⟩, ⟨0x2133, 0x214D, 1⟩,
     ⟨0x214F, 0x215F, 1⟩, ⟨0x2189, 0x218B, 1⟩, ⟨0x2190, 0x2429, 1⟩, ⟨0x2440, 0x244A, 1⟩,
     ⟨0x2460, 0x27FF, 1⟩, ⟨0x2900, 0x2B73, 1⟩, ⟨0x2B76, 0x2B95, 1⟩, ⟨0x2B97, 0x2BFF, 1⟩,
     ⟨0x2E00, 0x2E5D, 1⟩, ⟨0x2FF0, 0x3004, 1⟩, ⟨0x3006, 0x3006, 1⟩, ⟨0x3008, 0x3020, 1⟩,
     ⟨0x3030, 0x3037, 1⟩, ⟨0x303C, 0x303F, 1⟩, ⟨0x309B, 0x309C, 1⟩, ⟨0x30A0, 0x30A0, 1⟩,
     ⟨0x30FB, 0x30FC, 1⟩, ⟨0x3190, 0x319F, 1⟩, ⟨0x31C0, 0x31E5, 1⟩, ⟨0x31EF, 0x31EF, 1⟩,
     ⟨0x3220, 0x325F, 1⟩, ⟨0x327F, 0x32CF, 1⟩, ⟨0x32FF, 0x32FF, 1⟩, ⟨0x3358, 0x33FF, 1⟩,
     ⟨0x4DC0, 0x4DFF, 1⟩, ⟨0xA700, 0xA721, 1⟩, ⟨0xA788, 0xA78A, 1⟩, ⟨0xA830, 0xA839, 1⟩,
     ⟨0xA92E, 0xA92E, 1⟩, ⟨0xA9CF, 0xA9CF, 1⟩, ⟨0xAB5B, 0xAB5B, 1⟩, ⟨0xAB6A, 0xAB6B, 1⟩,
     ⟨0xFD3E, 0xFD3F, 1⟩, ⟨0xFE10, 0xFE19, 1⟩, ⟨0xFE30, 0xFE52, 1⟩, ⟨0xFE54, 0xFE66, 1⟩,
     ⟨0xFE68, 0xFE6B, 1⟩, ⟨0xFEFF, 0xFEFF, 1⟩, ⟨0xFF01, 0xFF20, 1⟩, ⟨0xFF3B, 0xFF40, 1⟩,
     ⟨0xFF5B, 0xFF65, 1⟩, ⟨0xFF70, 0xFF70, 1⟩, ⟨0xFF9E, 0xFF9F, 1⟩, ⟨0xFFE0, 0xFFE6, 1⟩,
     ⟨0xFFE8, 0xFFEE, 1⟩, ⟨0xFFF9, 0xFFFD, 1⟩, ⟨0x10100, 0x10102, 1⟩, ⟨0x10107, 0x10133, 1⟩,
     ⟨0x10137, 0x1013F, 1⟩, ⟨0x10190, 0x1019C, 1⟩, ⟨0x101D0, 0x101FC, 1⟩, ⟨0x102E1, 0x102FB, 1⟩,
     ⟨0x1BCA0, 0x1BCA3, 1⟩, ⟨0x1CC00, 0x1CCF9, 1⟩, ⟨0x1CD00, 0x1CEB3, 1⟩, ⟨0x1CF50, 0x1CFC3, 1⟩,
     ⟨0x1D000, 0x1D0F5, 1⟩, ⟨0x1D100, 0x1D126, 1⟩, ⟨0x1D129, 0x1D166, 1⟩, ⟨0x1D16A, 0x1D17A, 1⟩,
     ⟨0x1D183, 0x1D184, 1⟩, ⟨0x1D18C, 0x1D1A9, 1⟩, ⟨0x1D1AE, 0x1D1EA, 1⟩, ⟨0x1D2C0, 0x1D2D3, 1⟩,
     ⟨0x1D2E0, 0x1D2F3, 1⟩, ⟨0x1D300, 0x1D356, 1⟩, ⟨0x1D360, 0x1D378, 1⟩, ⟨0x1D400, 0x1D454, 1⟩,
     ⟨0x1D456, 0x1D49C, 1⟩, ⟨0x1D49E, 0x1D49F, 1⟩, ⟨0x1D4A2, 0x1D4A2, 1⟩, ⟨0x1D4A5, 0x1D4A6, 1⟩,
     ⟨0x1D4A9, 0x1D4AC, 1⟩, ⟨0x1D4AE, 0x1D4B9, 1⟩, ⟨0x1D4BB, 0x1D4BB, 1⟩, ⟨0x1D4BD, 0x1D4C3, 1⟩,
     ⟨0x1D4C5, 0x1D505, 1⟩, ⟨0x1D507, 0x1D50A, 1⟩, ⟨0x1D50D, 0x1D514, 1⟩, ⟨0x1D516, 0x1D51C, 1⟩,
     ⟨0x1D51E, 0x1D539, 1⟩, ⟨0x1D53B, 0x1D53E, 1⟩, ⟨0x1D540, 0x1D544, 1⟩, ⟨0x1D546, 0x1D546, 1⟩,
     ⟨0x1D54A, 0x1D550, 1⟩, ⟨0x1D552, 0x1D6A5, 1⟩, ⟨0x1D6A8, 0x1D7CB, 1⟩, ⟨0x1D7CE, 0x1D7FF, 1⟩,
     ⟨0x1EC71, 0x1ECB4, 1⟩, ⟨0x1ED01, 0x1ED3D, 1⟩, ⟨0x1F000, 0x1F02B, 1⟩, ⟨0x1F030, 0x1F093, 1⟩,
     ⟨0x1F0A0, 0x1F0AE, 1⟩, ⟨0x1F0B1, 0x1F0BF, 1⟩, ⟨0x1F0C1, 0x1F0CF, 1⟩, ⟨0x1F0D1, 0x1F0F5, 1⟩,
     ⟨0x1F100, 0x1F1AD, 1⟩, ⟨0x1F1E6, 0x1F1FF, 1⟩, ⟨0x1F201, 0x1F202, 1⟩, ⟨0x1F210, 0x1F23B, 1⟩,
     ⟨0x1F240, 0x1F248, 1⟩, ⟨0x1F250, 0x1F251, 1⟩, ⟨0x1F260, 0x1F265, 1⟩, ⟨0x1F300, 0x1F6D7, 1⟩,
     ⟨0x1F6DC, 0x1F6EC, 1⟩, ⟨0x1F6F0, 0x1F6FC, 1⟩, ⟨0x1F700, 0x1F776, 1⟩, ⟨0x1F77B, 0x1F7D9, 1⟩,
     ⟨0x1F7E0, 0x1F7EB, 1⟩, ⟨0x1F7F0, 0x1F7F0, 1⟩, ⟨0x1F800, 0x1F80B, 1⟩, ⟨0x1F810, 0x1F847, 1⟩,
     ⟨0x1F850, 0x1F859, 1⟩, ⟨0x1F860, 0x1F887, 1⟩, ⟨0x1F890, 0x1F8AD, 1⟩, ⟨0x1F8B0, 0x1F8BB, 1⟩,
     ⟨0x1F8C0, 0x1F8C1, 1⟩, ⟨0x1F900, 0x1FA53, 1⟩, ⟨0x1FA60, 0x1FA6D, 1⟩, ⟨0x1FA70, 0x1FA7C, 1⟩,
     ⟨0x1FA80, 0x1FA89, 1⟩, ⟨0x1FA8F, 0x1FAC6, 1⟩, ⟨0x1FACE, 0x1FADC, 1⟩, ⟨0x1FADF, 0x1FAE9, 1⟩,
     ⟨0x1FAF0, 0x1FAF8, 1⟩, ⟨0x1FB00, 0x1FB92, 1⟩, ⟨0x1FB94, 0x1FBF9, 1⟩, ⟨0xE0001, 0xE0001, 1⟩,
     ⟨0xE0020, 0xE007F, 1⟩]

/-- Coptic. -/
def coptic : Script where
  code := "copt"
  further := ["coptic", "qaac"]
  runs :=
    [⟨0x3E2, 0x3EF, 1⟩, ⟨0x2C80, 0x2CF3, 1⟩, ⟨0x2CF9, 0x2CFF, 1⟩]

/-- Cuneiform. -/
def cuneiform : Script where
  code := "xsux"
  further := ["cuneiform"]
  runs :=
    [⟨0x12000, 0x12399, 1⟩, ⟨0x12400, 0x1246E, 1⟩, ⟨0x12470, 0x12474, 1⟩, ⟨0x12480, 0x12543, 1⟩]

/-- Cypriot. -/
def cypriot : Script where
  code := "cprt"
  further := ["cypriot"]
  runs :=
    [⟨0x10800, 0x10805, 1⟩, ⟨0x10808, 0x10808, 1⟩, ⟨0x1080A, 0x10835, 1⟩, ⟨0x10837, 0x10838, 1⟩,
     ⟨0x1083C, 0x1083C, 1⟩, ⟨0x1083F, 0x1083F, 1⟩]

/-- Cypro Minoan. -/
def cyproMinoan : Script where
  code := "cpmn"
  further := ["cyprominoan"]
  runs :=
    [⟨0x12F90, 0x12FF2, 1⟩]

/-- Cyrillic. -/
def cyrillic : Script where
  code := "cyrl"
  further := ["cyrillic"]
  runs :=
    [⟨0x400, 0x484, 1⟩, ⟨0x487, 0x52F, 1⟩, ⟨0x1C80, 0x1C8A, 1⟩, ⟨0x1D2B, 0x1D2B, 1⟩,
     ⟨0x1D78, 0x1D78, 1⟩, ⟨0x2DE0, 0x2DFF, 1⟩, ⟨0xA640, 0xA69F, 1⟩, ⟨0xFE2E, 0xFE2F, 1⟩,
     ⟨0x1E030, 0x1E06D, 1⟩, ⟨0x1E08F, 0x1E08F, 1⟩]

/-- Deseret. -/
def deseret : Script where
  code := "dsrt"
  further := ["deseret"]
  runs :=
    [⟨0x10400, 0x1044F, 1⟩]

/-- Devanagari. -/
def devanagari : Script where
  code := "deva"
  further := ["devanagari"]
  runs :=
    [⟨0x900, 0x950, 1⟩, ⟨0x955, 0x963, 1⟩, ⟨0x966, 0x97F, 1⟩, ⟨0xA8E0, 0xA8FF, 1⟩,
     ⟨0x11B00, 0x11B09, 1⟩]

/-- Dives Akuru. -/
def divesAkuru : Script where
  code := "diak"
  further := ["divesakuru"]
  runs :=
    [⟨0x11900, 0x11906, 1⟩, ⟨0x11909, 0x11909, 1⟩, ⟨0x1190C, 0x11913, 1⟩, ⟨0x11915, 0x11916, 1⟩,
     ⟨0x11918, 0x11935, 1⟩, ⟨0x11937, 0x11938, 1⟩, ⟨0x1193B, 0x11946, 1⟩, ⟨0x11950, 0x11959, 1⟩]

/-- Dogra. -/
def dogra : Script where
  code := "dogr"
  further := ["dogra"]
  runs :=
    [⟨0x11800, 0x1183B, 1⟩]

/-- Duployan. -/
def duployan : Script where
  code := "dupl"
  further := ["duployan"]
  runs :=
    [⟨0x1BC00, 0x1BC6A, 1⟩, ⟨0x1BC70, 0x1BC7C, 1⟩, ⟨0x1BC80, 0x1BC88, 1⟩, ⟨0x1BC90, 0x1BC99, 1⟩,
     ⟨0x1BC9C, 0x1BC9F, 1⟩]

/-- Egyptian Hieroglyphs. -/
def egyptianHieroglyphs : Script where
  code := "egyp"
  further := ["egyptianhieroglyphs"]
  runs :=
    [⟨0x13000, 0x13455, 1⟩, ⟨0x13460, 0x143FA, 1⟩]

/-- Elbasan. -/
def elbasan : Script where
  code := "elba"
  further := ["elbasan"]
  runs :=
    [⟨0x10500, 0x10527, 1⟩]

/-- Elymaic. -/
def elymaic : Script where
  code := "elym"
  further := ["elymaic"]
  runs :=
    [⟨0x10FE0, 0x10FF6, 1⟩]

/-- Ethiopic. -/
def ethiopic : Script where
  code := "ethi"
  further := ["ethiopic"]
  runs :=
    [⟨0x1200, 0x1248, 1⟩, ⟨0x124A, 0x124D, 1⟩, ⟨0x1250, 0x1256, 1⟩, ⟨0x1258, 0x1258, 1⟩,
     ⟨0x125A, 0x125D, 1⟩, ⟨0x1260, 0x1288, 1⟩, ⟨0x128A, 0x128D, 1⟩, ⟨0x1290, 0x12B0, 1⟩,
     ⟨0x12B2, 0x12B5, 1⟩, ⟨0x12B8, 0x12BE, 1⟩, ⟨0x12C0, 0x12C0, 1⟩, ⟨0x12C2, 0x12C5, 1⟩,
     ⟨0x12C8, 0x12D6, 1⟩, ⟨0x12D8, 0x1310, 1⟩, ⟨0x1312, 0x1315, 1⟩, ⟨0x1318, 0x135A, 1⟩,
     ⟨0x135D, 0x137C, 1⟩, ⟨0x1380, 0x1399, 1⟩, ⟨0x2D80, 0x2D96, 1⟩, ⟨0x2DA0, 0x2DA6, 1⟩,
     ⟨0x2DA8, 0x2DAE, 1⟩, ⟨0x2DB0, 0x2DB6, 1⟩, ⟨0x2DB8, 0x2DBE, 1⟩, ⟨0x2DC0, 0x2DC6, 1⟩,
     ⟨0x2DC8, 0x2DCE, 1⟩, ⟨0x2DD0, 0x2DD6, 1⟩, ⟨0x2DD8, 0x2DDE, 1⟩, ⟨0xAB01, 0xAB06, 1⟩,
     ⟨0xAB09, 0xAB0E, 1⟩, ⟨0xAB11, 0xAB16, 1⟩, ⟨0xAB20, 0xAB26, 1⟩, ⟨0xAB28, 0xAB2E, 1⟩,
     ⟨0x1E7E0, 0x1E7E6, 1⟩, ⟨0x1E7E8, 0x1E7EB, 1⟩, ⟨0x1E7ED, 0x1E7EE, 1⟩, ⟨0x1E7F0, 0x1E7FE, 1⟩]

/-- Garay. -/
def garay : Script where
  code := "gara"
  further := ["garay"]
  runs :=
    [⟨0x10D40, 0x10D65, 1⟩, ⟨0x10D69, 0x10D85, 1⟩, ⟨0x10D8E, 0x10D8F, 1⟩]

/-- Georgian. -/
def georgian : Script where
  code := "geor"
  further := ["georgian"]
  runs :=
    [⟨0x10A0, 0x10C5, 1⟩, ⟨0x10C7, 0x10C7, 1⟩, ⟨0x10CD, 0x10CD, 1⟩, ⟨0x10D0, 0x10FA, 1⟩,
     ⟨0x10FC, 0x10FF, 1⟩, ⟨0x1C90, 0x1CBA, 1⟩, ⟨0x1CBD, 0x1CBF, 1⟩, ⟨0x2D00, 0x2D25, 1⟩,
     ⟨0x2D27, 0x2D27, 1⟩, ⟨0x2D2D, 0x2D2D, 1⟩]

/-- Glagolitic. -/
def glagolitic : Script where
  code := "glag"
  further := ["glagolitic"]
  runs :=
    [⟨0x2C00, 0x2C5F, 1⟩, ⟨0x1E000, 0x1E006, 1⟩, ⟨0x1E008, 0x1E018, 1⟩, ⟨0x1E01B, 0x1E021, 1⟩,
     ⟨0x1E023, 0x1E024, 1⟩, ⟨0x1E026, 0x1E02A, 1⟩]

/-- Gothic. -/
def gothic : Script where
  code := "goth"
  further := ["gothic"]
  runs :=
    [⟨0x10330, 0x1034A, 1⟩]

/-- Grantha. -/
def grantha : Script where
  code := "gran"
  further := ["grantha"]
  runs :=
    [⟨0x11300, 0x11303, 1⟩, ⟨0x11305, 0x1130C, 1⟩, ⟨0x1130F, 0x11310, 1⟩, ⟨0x11313, 0x11328, 1⟩,
     ⟨0x1132A, 0x11330, 1⟩, ⟨0x11332, 0x11333, 1⟩, ⟨0x11335, 0x11339, 1⟩, ⟨0x1133C, 0x11344, 1⟩,
     ⟨0x11347, 0x11348, 1⟩, ⟨0x1134B, 0x1134D, 1⟩, ⟨0x11350, 0x11350, 1⟩, ⟨0x11357, 0x11357, 1⟩,
     ⟨0x1135D, 0x11363, 1⟩, ⟨0x11366, 0x1136C, 1⟩, ⟨0x11370, 0x11374, 1⟩]

/-- Greek. -/
def greek : Script where
  code := "grek"
  further := ["greek"]
  runs :=
    [⟨0x370, 0x373, 1⟩, ⟨0x375, 0x377, 1⟩, ⟨0x37A, 0x37D, 1⟩, ⟨0x37F, 0x37F, 1⟩, ⟨0x384, 0x386, 2⟩,
     ⟨0x388, 0x38A, 1⟩, ⟨0x38C, 0x38C, 1⟩, ⟨0x38E, 0x3A1, 1⟩, ⟨0x3A3, 0x3E1, 1⟩, ⟨0x3F0, 0x3FF, 1⟩,
     ⟨0x1D26, 0x1D2A, 1⟩, ⟨0x1D5D, 0x1D61, 1⟩, ⟨0x1D66, 0x1D6A, 1⟩, ⟨0x1DBF, 0x1DBF, 1⟩,
     ⟨0x1F00, 0x1F15, 1⟩, ⟨0x1F18, 0x1F1D, 1⟩, ⟨0x1F20, 0x1F45, 1⟩, ⟨0x1F48, 0x1F4D, 1⟩,
     ⟨0x1F50, 0x1F57, 1⟩, ⟨0x1F59, 0x1F5D, 2⟩, ⟨0x1F5F, 0x1F7D, 1⟩, ⟨0x1F80, 0x1FB4, 1⟩,
     ⟨0x1FB6, 0x1FC4, 1⟩, ⟨0x1FC6, 0x1FD3, 1⟩, ⟨0x1FD6, 0x1FDB, 1⟩, ⟨0x1FDD, 0x1FEF, 1⟩,
     ⟨0x1FF2, 0x1FF4, 1⟩, ⟨0x1FF6, 0x1FFE, 1⟩, ⟨0x2126, 0x2126, 1⟩, ⟨0xAB65, 0xAB65, 1⟩,
     ⟨0x10140, 0x1018E, 1⟩, ⟨0x101A0, 0x101A0, 1⟩, ⟨0x1D200, 0x1D245, 1⟩]

/-- Gujarati. -/
def gujarati : Script where
  code := "gujr"
  further := ["gujarati"]
  runs :=
    [⟨0xA81, 0xA83, 1⟩, ⟨0xA85, 0xA8D, 1⟩, ⟨0xA8F, 0xA91, 1⟩, ⟨0xA93, 0xAA8, 1⟩, ⟨0xAAA, 0xAB0, 1⟩,
     ⟨0xAB2, 0xAB3, 1⟩, ⟨0xAB5, 0xAB9, 1⟩, ⟨0xABC, 0xAC5, 1⟩, ⟨0xAC7, 0xAC9, 1⟩, ⟨0xACB, 0xACD, 1⟩,
     ⟨0xAD0, 0xAD0, 1⟩, ⟨0xAE0, 0xAE3, 1⟩, ⟨0xAE6, 0xAF1, 1⟩, ⟨0xAF9, 0xAFF, 1⟩]

/-- Gunjala Gondi. -/
def gunjalaGondi : Script where
  code := "gong"
  further := ["gunjalagondi"]
  runs :=
    [⟨0x11D60, 0x11D65, 1⟩, ⟨0x11D67, 0x11D68, 1⟩, ⟨0x11D6A, 0x11D8E, 1⟩, ⟨0x11D90, 0x11D91, 1⟩,
     ⟨0x11D93, 0x11D98, 1⟩, ⟨0x11DA0, 0x11DA9, 1⟩]

/-- Gurmukhi. -/
def gurmukhi : Script where
  code := "guru"
  further := ["gurmukhi"]
  runs :=
    [⟨0xA01, 0xA03, 1⟩, ⟨0xA05, 0xA0A, 1⟩, ⟨0xA0F, 0xA10, 1⟩, ⟨0xA13, 0xA28, 1⟩, ⟨0xA2A, 0xA30, 1⟩,
     ⟨0xA32, 0xA33, 1⟩, ⟨0xA35, 0xA36, 1⟩, ⟨0xA38, 0xA39, 1⟩, ⟨0xA3C, 0xA3C, 1⟩, ⟨0xA3E, 0xA42, 1⟩,
     ⟨0xA47, 0xA48, 1⟩, ⟨0xA4B, 0xA4D, 1⟩, ⟨0xA51, 0xA51, 1⟩, ⟨0xA59, 0xA5C, 1⟩, ⟨0xA5E, 0xA5E, 1⟩,
     ⟨0xA66, 0xA76, 1⟩]

/-- Gurung Khema. -/
def gurungKhema : Script where
  code := "gukh"
  further := ["gurungkhema"]
  runs :=
    [⟨0x16100, 0x16139, 1⟩]

/-- Han. -/
def han : Script where
  code := "hani"
  further := ["han"]
  runs :=
    [⟨0x2E80, 0x2E99, 1⟩, ⟨0x2E9B, 0x2EF3, 1⟩, ⟨0x2F00, 0x2FD5, 1⟩, ⟨0x3005, 0x3007, 2⟩,
     ⟨0x3021, 0x3029, 1⟩, ⟨0x3038, 0x303B, 1⟩, ⟨0x3400, 0x4DBF, 1⟩, ⟨0x4E00, 0x9FFF, 1⟩,
     ⟨0xF900, 0xFA6D, 1⟩, ⟨0xFA70, 0xFAD9, 1⟩, ⟨0x16FE2, 0x16FE3, 1⟩, ⟨0x16FF0, 0x16FF1, 1⟩,
     ⟨0x20000, 0x2A6DF, 1⟩, ⟨0x2A700, 0x2B739, 1⟩, ⟨0x2B740, 0x2B81D, 1⟩, ⟨0x2B820, 0x2CEA1, 1⟩,
     ⟨0x2CEB0, 0x2EBE0, 1⟩, ⟨0x2EBF0, 0x2EE5D, 1⟩, ⟨0x2F800, 0x2FA1D, 1⟩, ⟨0x30000, 0x3134A, 1⟩,
     ⟨0x31350, 0x323AF, 1⟩]

/-- Hangul. -/
def hangul : Script where
  code := "hang"
  further := ["hangul"]
  runs :=
    [⟨0x1100, 0x11FF, 1⟩, ⟨0x302E, 0x302F, 1⟩, ⟨0x3131, 0x318E, 1⟩, ⟨0x3200, 0x321E, 1⟩,
     ⟨0x3260, 0x327E, 1⟩, ⟨0xA960, 0xA97C, 1⟩, ⟨0xAC00, 0xD7A3, 1⟩, ⟨0xD7B0, 0xD7C6, 1⟩,
     ⟨0xD7CB, 0xD7FB, 1⟩, ⟨0xFFA0, 0xFFBE, 1⟩, ⟨0xFFC2, 0xFFC7, 1⟩, ⟨0xFFCA, 0xFFCF, 1⟩,
     ⟨0xFFD2, 0xFFD7, 1⟩, ⟨0xFFDA, 0xFFDC, 1⟩]

/-- Hanifi Rohingya. -/
def hanifiRohingya : Script where
  code := "rohg"
  further := ["hanifirohingya"]
  runs :=
    [⟨0x10D00, 0x10D27, 1⟩, ⟨0x10D30, 0x10D39, 1⟩]

/-- Hanunoo. -/
def hanunoo : Script where
  code := "hano"
  further := ["hanunoo"]
  runs :=
    [⟨0x1720, 0x1734, 1⟩]

/-- Hatran. -/
def hatran : Script where
  code := "hatr"
  further := ["hatran"]
  runs :=
    [⟨0x108E0, 0x108F2, 1⟩, ⟨0x108F4, 0x108F5, 1⟩, ⟨0x108FB, 0x108FF, 1⟩]

/-- Hebrew. -/
def hebrew : Script where
  code := "hebr"
  further := ["hebrew"]
  runs :=
    [⟨0x591, 0x5C7, 1⟩, ⟨0x5D0, 0x5EA, 1⟩, ⟨0x5EF, 0x5F4, 1⟩, ⟨0xFB1D, 0xFB36, 1⟩,
     ⟨0xFB38, 0xFB3C, 1⟩, ⟨0xFB3E, 0xFB3E, 1⟩, ⟨0xFB40, 0xFB41, 1⟩, ⟨0xFB43, 0xFB44, 1⟩,
     ⟨0xFB46, 0xFB4F, 1⟩]

/-- Hiragana. -/
def hiragana : Script where
  code := "hira"
  further := ["hiragana"]
  runs :=
    [⟨0x3041, 0x3096, 1⟩, ⟨0x309D, 0x309F, 1⟩, ⟨0x1B001, 0x1B11F, 1⟩, ⟨0x1B132, 0x1B132, 1⟩,
     ⟨0x1B150, 0x1B152, 1⟩, ⟨0x1F200, 0x1F200, 1⟩]

/-- Imperial Aramaic. -/
def imperialAramaic : Script where
  code := "armi"
  further := ["imperialaramaic"]
  runs :=
    [⟨0x10840, 0x10855, 1⟩, ⟨0x10857, 0x1085F, 1⟩]

/-- Characters that take the script of what they stand on. -/
def inherited : Script where
  code := "zinh"
  further := ["inherited", "qaai"]
  runs :=
    [⟨0x300, 0x36F, 1⟩, ⟨0x485, 0x486, 1⟩, ⟨0x64B, 0x655, 1⟩, ⟨0x670, 0x670, 1⟩, ⟨0x951, 0x954, 1⟩,
     ⟨0x1AB0, 0x1ACE, 1⟩, ⟨0x1CD0, 0x1CD2, 1⟩, ⟨0x1CD4, 0x1CE0, 1⟩, ⟨0x1CE2, 0x1CE8, 1⟩,
     ⟨0x1CED, 0x1CED, 1⟩, ⟨0x1CF4, 0x1CF4, 1⟩, ⟨0x1CF8, 0x1CF9, 1⟩, ⟨0x1DC0, 0x1DFF, 1⟩,
     ⟨0x200C, 0x200D, 1⟩, ⟨0x20D0, 0x20F0, 1⟩, ⟨0x302A, 0x302D, 1⟩, ⟨0x3099, 0x309A, 1⟩,
     ⟨0xFE00, 0xFE0F, 1⟩, ⟨0xFE20, 0xFE2D, 1⟩, ⟨0x101FD, 0x101FD, 1⟩, ⟨0x102E0, 0x102E0, 1⟩,
     ⟨0x1133B, 0x1133B, 1⟩, ⟨0x1CF00, 0x1CF2D, 1⟩, ⟨0x1CF30, 0x1CF46, 1⟩, ⟨0x1D167, 0x1D169, 1⟩,
     ⟨0x1D17B, 0x1D182, 1⟩, ⟨0x1D185, 0x1D18B, 1⟩, ⟨0x1D1AA, 0x1D1AD, 1⟩, ⟨0xE0100, 0xE01EF, 1⟩]

/-- Inscriptional Pahlavi. -/
def inscriptionalPahlavi : Script where
  code := "phli"
  further := ["inscriptionalpahlavi"]
  runs :=
    [⟨0x10B60, 0x10B72, 1⟩, ⟨0x10B78, 0x10B7F, 1⟩]

/-- Inscriptional Parthian. -/
def inscriptionalParthian : Script where
  code := "prti"
  further := ["inscriptionalparthian"]
  runs :=
    [⟨0x10B40, 0x10B55, 1⟩, ⟨0x10B58, 0x10B5F, 1⟩]

/-- Javanese. -/
def javanese : Script where
  code := "java"
  further := ["javanese"]
  runs :=
    [⟨0xA980, 0xA9CD, 1⟩, ⟨0xA9D0, 0xA9D9, 1⟩, ⟨0xA9DE, 0xA9DF, 1⟩]

/-- Kaithi. -/
def kaithi : Script where
  code := "kthi"
  further := ["kaithi"]
  runs :=
    [⟨0x11080, 0x110C2, 1⟩, ⟨0x110CD, 0x110CD, 1⟩]

/-- Kannada. -/
def kannada : Script where
  code := "knda"
  further := ["kannada"]
  runs :=
    [⟨0xC80, 0xC8C, 1⟩, ⟨0xC8E, 0xC90, 1⟩, ⟨0xC92, 0xCA8, 1⟩, ⟨0xCAA, 0xCB3, 1⟩, ⟨0xCB5, 0xCB9, 1⟩,
     ⟨0xCBC, 0xCC4, 1⟩, ⟨0xCC6, 0xCC8, 1⟩, ⟨0xCCA, 0xCCD, 1⟩, ⟨0xCD5, 0xCD6, 1⟩, ⟨0xCDD, 0xCDE, 1⟩,
     ⟨0xCE0, 0xCE3, 1⟩, ⟨0xCE6, 0xCEF, 1⟩, ⟨0xCF1, 0xCF3, 1⟩]

/-- Katakana. -/
def katakana : Script where
  code := "kana"
  further := ["katakana"]
  runs :=
    [⟨0x30A1, 0x30FA, 1⟩, ⟨0x30FD, 0x30FF, 1⟩, ⟨0x31F0, 0x31FF, 1⟩, ⟨0x32D0, 0x32FE, 1⟩,
     ⟨0x3300, 0x3357, 1⟩, ⟨0xFF66, 0xFF6F, 1⟩, ⟨0xFF71, 0xFF9D, 1⟩, ⟨0x1AFF0, 0x1AFF3, 1⟩,
     ⟨0x1AFF5, 0x1AFFB, 1⟩, ⟨0x1AFFD, 0x1AFFE, 1⟩, ⟨0x1B000, 0x1B000, 1⟩, ⟨0x1B120, 0x1B122, 1⟩,
     ⟨0x1B155, 0x1B155, 1⟩, ⟨0x1B164, 0x1B167, 1⟩]

/-- Kawi. -/
def kawi : Script where
  code := "kawi"
  further := []
  runs :=
    [⟨0x11F00, 0x11F10, 1⟩, ⟨0x11F12, 0x11F3A, 1⟩, ⟨0x11F3E, 0x11F5A, 1⟩]

/-- Kayah Li. -/
def kayahLi : Script where
  code := "kali"
  further := ["kayahli"]
  runs :=
    [⟨0xA900, 0xA92D, 1⟩, ⟨0xA92F, 0xA92F, 1⟩]

/-- Kharoshthi. -/
def kharoshthi : Script where
  code := "khar"
  further := ["kharoshthi"]
  runs :=
    [⟨0x10A00, 0x10A03, 1⟩, ⟨0x10A05, 0x10A06, 1⟩, ⟨0x10A0C, 0x10A13, 1⟩, ⟨0x10A15, 0x10A17, 1⟩,
     ⟨0x10A19, 0x10A35, 1⟩, ⟨0x10A38, 0x10A3A, 1⟩, ⟨0x10A3F, 0x10A48, 1⟩, ⟨0x10A50, 0x10A58, 1⟩]

/-- Khitan Small Script. -/
def khitanSmallScript : Script where
  code := "kits"
  further := ["khitansmallscript"]
  runs :=
    [⟨0x16FE4, 0x16FE4, 1⟩, ⟨0x18B00, 0x18CD5, 1⟩, ⟨0x18CFF, 0x18CFF, 1⟩]

/-- Khmer. -/
def khmer : Script where
  code := "khmr"
  further := ["khmer"]
  runs :=
    [⟨0x1780, 0x17DD, 1⟩, ⟨0x17E0, 0x17E9, 1⟩, ⟨0x17F0, 0x17F9, 1⟩, ⟨0x19E0, 0x19FF, 1⟩]

/-- Khojki. -/
def khojki : Script where
  code := "khoj"
  further := ["khojki"]
  runs :=
    [⟨0x11200, 0x11211, 1⟩, ⟨0x11213, 0x11241, 1⟩]

/-- Khudawadi. -/
def khudawadi : Script where
  code := "sind"
  further := ["khudawadi"]
  runs :=
    [⟨0x112B0, 0x112EA, 1⟩, ⟨0x112F0, 0x112F9, 1⟩]

/-- Kirat Rai. -/
def kiratRai : Script where
  code := "krai"
  further := ["kiratrai"]
  runs :=
    [⟨0x16D40, 0x16D79, 1⟩]

/-- Lao. -/
def lao : Script where
  code := "laoo"
  further := ["lao"]
  runs :=
    [⟨0xE81, 0xE82, 1⟩, ⟨0xE84, 0xE84, 1⟩, ⟨0xE86, 0xE8A, 1⟩, ⟨0xE8C, 0xEA3, 1⟩, ⟨0xEA5, 0xEA5, 1⟩,
     ⟨0xEA7, 0xEBD, 1⟩, ⟨0xEC0, 0xEC4, 1⟩, ⟨0xEC6, 0xEC6, 1⟩, ⟨0xEC8, 0xECE, 1⟩, ⟨0xED0, 0xED9, 1⟩,
     ⟨0xEDC, 0xEDF, 1⟩]

/-- Latin. -/
def latin : Script where
  code := "latn"
  further := ["latin"]
  runs :=
    [⟨0x41, 0x5A, 1⟩, ⟨0x61, 0x7A, 1⟩, ⟨0xAA, 0xAA, 1⟩, ⟨0xBA, 0xBA, 1⟩, ⟨0xC0, 0xD6, 1⟩,
     ⟨0xD8, 0xF6, 1⟩, ⟨0xF8, 0x2B8, 1⟩, ⟨0x2E0, 0x2E4, 1⟩, ⟨0x1D00, 0x1D25, 1⟩, ⟨0x1D2C, 0x1D5C, 1⟩,
     ⟨0x1D62, 0x1D65, 1⟩, ⟨0x1D6B, 0x1D77, 1⟩, ⟨0x1D79, 0x1DBE, 1⟩, ⟨0x1E00, 0x1EFF, 1⟩,
     ⟨0x2071, 0x2071, 1⟩, ⟨0x207F, 0x207F, 1⟩, ⟨0x2090, 0x209C, 1⟩, ⟨0x212A, 0x212B, 1⟩,
     ⟨0x2132, 0x2132, 1⟩, ⟨0x214E, 0x214E, 1⟩, ⟨0x2160, 0x2188, 1⟩, ⟨0x2C60, 0x2C7F, 1⟩,
     ⟨0xA722, 0xA787, 1⟩, ⟨0xA78B, 0xA7CD, 1⟩, ⟨0xA7D0, 0xA7D1, 1⟩, ⟨0xA7D3, 0xA7D3, 1⟩,
     ⟨0xA7D5, 0xA7DC, 1⟩, ⟨0xA7F2, 0xA7FF, 1⟩, ⟨0xAB30, 0xAB5A, 1⟩, ⟨0xAB5C, 0xAB64, 1⟩,
     ⟨0xAB66, 0xAB69, 1⟩, ⟨0xFB00, 0xFB06, 1⟩, ⟨0xFF21, 0xFF3A, 1⟩, ⟨0xFF41, 0xFF5A, 1⟩,
     ⟨0x10780, 0x10785, 1⟩, ⟨0x10787, 0x107B0, 1⟩, ⟨0x107B2, 0x107BA, 1⟩, ⟨0x1DF00, 0x1DF1E, 1⟩,
     ⟨0x1DF25, 0x1DF2A, 1⟩]

/-- Lepcha. -/
def lepcha : Script where
  code := "lepc"
  further := ["lepcha"]
  runs :=
    [⟨0x1C00, 0x1C37, 1⟩, ⟨0x1C3B, 0x1C49, 1⟩, ⟨0x1C4D, 0x1C4F, 1⟩]

/-- Limbu. -/
def limbu : Script where
  code := "limb"
  further := ["limbu"]
  runs :=
    [⟨0x1900, 0x191E, 1⟩, ⟨0x1920, 0x192B, 1⟩, ⟨0x1930, 0x193B, 1⟩, ⟨0x1940, 0x1940, 1⟩,
     ⟨0x1944, 0x194F, 1⟩]

/-- Linear A. -/
def linearA : Script where
  code := "lina"
  further := ["lineara"]
  runs :=
    [⟨0x10600, 0x10736, 1⟩, ⟨0x10740, 0x10755, 1⟩, ⟨0x10760, 0x10767, 1⟩]

/-- Linear B. -/
def linearB : Script where
  code := "linb"
  further := ["linearb"]
  runs :=
    [⟨0x10000, 0x1000B, 1⟩, ⟨0x1000D, 0x10026, 1⟩, ⟨0x10028, 0x1003A, 1⟩, ⟨0x1003C, 0x1003D, 1⟩,
     ⟨0x1003F, 0x1004D, 1⟩, ⟨0x10050, 0x1005D, 1⟩, ⟨0x10080, 0x100FA, 1⟩]

/-- Lisu. -/
def lisu : Script where
  code := "lisu"
  further := []
  runs :=
    [⟨0xA4D0, 0xA4FF, 1⟩, ⟨0x11FB0, 0x11FB0, 1⟩]

/-- Lycian. -/
def lycian : Script where
  code := "lyci"
  further := ["lycian"]
  runs :=
    [⟨0x10280, 0x1029C, 1⟩]

/-- Lydian. -/
def lydian : Script where
  code := "lydi"
  further := ["lydian"]
  runs :=
    [⟨0x10920, 0x10939, 1⟩, ⟨0x1093F, 0x1093F, 1⟩]

/-- Mahajani. -/
def mahajani : Script where
  code := "mahj"
  further := ["mahajani"]
  runs :=
    [⟨0x11150, 0x11176, 1⟩]

/-- Makasar. -/
def makasar : Script where
  code := "maka"
  further := ["makasar"]
  runs :=
    [⟨0x11EE0, 0x11EF8, 1⟩]

/-- Malayalam. -/
def malayalam : Script where
  code := "mlym"
  further := ["malayalam"]
  runs :=
    [⟨0xD00, 0xD0C, 1⟩, ⟨0xD0E, 0xD10, 1⟩, ⟨0xD12, 0xD44, 1⟩, ⟨0xD46, 0xD48, 1⟩, ⟨0xD4A, 0xD4F, 1⟩,
     ⟨0xD54, 0xD63, 1⟩, ⟨0xD66, 0xD7F, 1⟩]

/-- Mandaic. -/
def mandaic : Script where
  code := "mand"
  further := ["mandaic"]
  runs :=
    [⟨0x840, 0x85B, 1⟩, ⟨0x85E, 0x85E, 1⟩]

/-- Manichaean. -/
def manichaean : Script where
  code := "mani"
  further := ["manichaean"]
  runs :=
    [⟨0x10AC0, 0x10AE6, 1⟩, ⟨0x10AEB, 0x10AF6, 1⟩]

/-- Marchen. -/
def marchen : Script where
  code := "marc"
  further := ["marchen"]
  runs :=
    [⟨0x11C70, 0x11C8F, 1⟩, ⟨0x11C92, 0x11CA7, 1⟩, ⟨0x11CA9, 0x11CB6, 1⟩]

/-- Masaram Gondi. -/
def masaramGondi : Script where
  code := "gonm"
  further := ["masaramgondi"]
  runs :=
    [⟨0x11D00, 0x11D06, 1⟩, ⟨0x11D08, 0x11D09, 1⟩, ⟨0x11D0B, 0x11D36, 1⟩, ⟨0x11D3A, 0x11D3A, 1⟩,
     ⟨0x11D3C, 0x11D3D, 1⟩, ⟨0x11D3F, 0x11D47, 1⟩, ⟨0x11D50, 0x11D59, 1⟩]

/-- Medefaidrin. -/
def medefaidrin : Script where
  code := "medf"
  further := ["medefaidrin"]
  runs :=
    [⟨0x16E40, 0x16E9A, 1⟩]

/-- Meetei Mayek. -/
def meeteiMayek : Script where
  code := "mtei"
  further := ["meeteimayek"]
  runs :=
    [⟨0xAAE0, 0xAAF6, 1⟩, ⟨0xABC0, 0xABED, 1⟩, ⟨0xABF0, 0xABF9, 1⟩]

/-- Mende Kikakui. -/
def mendeKikakui : Script where
  code := "mend"
  further := ["mendekikakui"]
  runs :=
    [⟨0x1E800, 0x1E8C4, 1⟩, ⟨0x1E8C7, 0x1E8D6, 1⟩]

/-- Meroitic Cursive. -/
def meroiticCursive : Script where
  code := "merc"
  further := ["meroiticcursive"]
  runs :=
    [⟨0x109A0, 0x109B7, 1⟩, ⟨0x109BC, 0x109CF, 1⟩, ⟨0x109D2, 0x109FF, 1⟩]

/-- Meroitic Hieroglyphs. -/
def meroiticHieroglyphs : Script where
  code := "mero"
  further := ["meroitichieroglyphs"]
  runs :=
    [⟨0x10980, 0x1099F, 1⟩]

/-- Miao. -/
def miao : Script where
  code := "plrd"
  further := ["miao"]
  runs :=
    [⟨0x16F00, 0x16F4A, 1⟩, ⟨0x16F4F, 0x16F87, 1⟩, ⟨0x16F8F, 0x16F9F, 1⟩]

/-- Modi. -/
def modi : Script where
  code := "modi"
  further := []
  runs :=
    [⟨0x11600, 0x11644, 1⟩, ⟨0x11650, 0x11659, 1⟩]

/-- Mongolian. -/
def mongolian : Script where
  code := "mong"
  further := ["mongolian"]
  runs :=
    [⟨0x1800, 0x1801, 1⟩, ⟨0x1804, 0x1804, 1⟩, ⟨0x1806, 0x1819, 1⟩, ⟨0x1820, 0x1878, 1⟩,
     ⟨0x1880, 0x18AA, 1⟩, ⟨0x11660, 0x1166C, 1⟩]

/-- Mro. -/
def mro : Script where
  code := "mroo"
  further := ["mro"]
  runs :=
    [⟨0x16A40, 0x16A5E, 1⟩, ⟨0x16A60, 0x16A69, 1⟩, ⟨0x16A6E, 0x16A6F, 1⟩]

/-- Multani. -/
def multani : Script where
  code := "mult"
  further := ["multani"]
  runs :=
    [⟨0x11280, 0x11286, 1⟩, ⟨0x11288, 0x11288, 1⟩, ⟨0x1128A, 0x1128D, 1⟩, ⟨0x1128F, 0x1129D, 1⟩,
     ⟨0x1129F, 0x112A9, 1⟩]

/-- Myanmar. -/
def myanmar : Script where
  code := "mymr"
  further := ["myanmar"]
  runs :=
    [⟨0x1000, 0x109F, 1⟩, ⟨0xA9E0, 0xA9FE, 1⟩, ⟨0xAA60, 0xAA7F, 1⟩, ⟨0x116D0, 0x116E3, 1⟩]

/-- Nabataean. -/
def nabataean : Script where
  code := "nbat"
  further := ["nabataean"]
  runs :=
    [⟨0x10880, 0x1089E, 1⟩, ⟨0x108A7, 0x108AF, 1⟩]

/-- Nag Mundari. -/
def nagMundari : Script where
  code := "nagm"
  further := ["nagmundari"]
  runs :=
    [⟨0x1E4D0, 0x1E4F9, 1⟩]

/-- Nandinagari. -/
def nandinagari : Script where
  code := "nand"
  further := ["nandinagari"]
  runs :=
    [⟨0x119A0, 0x119A7, 1⟩, ⟨0x119AA, 0x119D7, 1⟩, ⟨0x119DA, 0x119E4, 1⟩]

/-- New Tai Lue. -/
def newTaiLue : Script where
  code := "talu"
  further := ["newtailue"]
  runs :=
    [⟨0x1980, 0x19AB, 1⟩, ⟨0x19B0, 0x19C9, 1⟩, ⟨0x19D0, 0x19DA, 1⟩, ⟨0x19DE, 0x19DF, 1⟩]

/-- Newa. -/
def newa : Script where
  code := "newa"
  further := []
  runs :=
    [⟨0x11400, 0x1145B, 1⟩, ⟨0x1145D, 0x11461, 1⟩]

/-- Nko. -/
def nko : Script where
  code := "nkoo"
  further := ["nko"]
  runs :=
    [⟨0x7C0, 0x7FA, 1⟩, ⟨0x7FD, 0x7FF, 1⟩]

/-- Nushu. -/
def nushu : Script where
  code := "nshu"
  further := ["nushu"]
  runs :=
    [⟨0x16FE1, 0x16FE1, 1⟩, ⟨0x1B170, 0x1B2FB, 1⟩]

/-- Nyiakeng Puachue Hmong. -/
def nyiakengPuachueHmong : Script where
  code := "hmnp"
  further := ["nyiakengpuachuehmong"]
  runs :=
    [⟨0x1E100, 0x1E12C, 1⟩, ⟨0x1E130, 0x1E13D, 1⟩, ⟨0x1E140, 0x1E149, 1⟩, ⟨0x1E14E, 0x1E14F, 1⟩]

/-- Ogham. -/
def ogham : Script where
  code := "ogam"
  further := ["ogham"]
  runs :=
    [⟨0x1680, 0x169C, 1⟩]

/-- Ol Chiki. -/
def olChiki : Script where
  code := "olck"
  further := ["olchiki"]
  runs :=
    [⟨0x1C50, 0x1C7F, 1⟩]

/-- Ol Onal. -/
def olOnal : Script where
  code := "onao"
  further := ["olonal"]
  runs :=
    [⟨0x1E5D0, 0x1E5FA, 1⟩, ⟨0x1E5FF, 0x1E5FF, 1⟩]

/-- Old Hungarian. -/
def oldHungarian : Script where
  code := "hung"
  further := ["oldhungarian"]
  runs :=
    [⟨0x10C80, 0x10CB2, 1⟩, ⟨0x10CC0, 0x10CF2, 1⟩, ⟨0x10CFA, 0x10CFF, 1⟩]

/-- Old Italic. -/
def oldItalic : Script where
  code := "ital"
  further := ["olditalic"]
  runs :=
    [⟨0x10300, 0x10323, 1⟩, ⟨0x1032D, 0x1032F, 1⟩]

/-- Old North Arabian. -/
def oldNorthArabian : Script where
  code := "narb"
  further := ["oldnortharabian"]
  runs :=
    [⟨0x10A80, 0x10A9F, 1⟩]

/-- Old Permic. -/
def oldPermic : Script where
  code := "perm"
  further := ["oldpermic"]
  runs :=
    [⟨0x10350, 0x1037A, 1⟩]

/-- Old Persian. -/
def oldPersian : Script where
  code := "xpeo"
  further := ["oldpersian"]
  runs :=
    [⟨0x103A0, 0x103C3, 1⟩, ⟨0x103C8, 0x103D5, 1⟩]

/-- Old Sogdian. -/
def oldSogdian : Script where
  code := "sogo"
  further := ["oldsogdian"]
  runs :=
    [⟨0x10F00, 0x10F27, 1⟩]

/-- Old South Arabian. -/
def oldSouthArabian : Script where
  code := "sarb"
  further := ["oldsoutharabian"]
  runs :=
    [⟨0x10A60, 0x10A7F, 1⟩]

/-- Old Turkic. -/
def oldTurkic : Script where
  code := "orkh"
  further := ["oldturkic"]
  runs :=
    [⟨0x10C00, 0x10C48, 1⟩]

/-- Old Uyghur. -/
def oldUyghur : Script where
  code := "ougr"
  further := ["olduyghur"]
  runs :=
    [⟨0x10F70, 0x10F89, 1⟩]

/-- Oriya. -/
def oriya : Script where
  code := "orya"
  further := ["oriya"]
  runs :=
    [⟨0xB01, 0xB03, 1⟩, ⟨0xB05, 0xB0C, 1⟩, ⟨0xB0F, 0xB10, 1⟩, ⟨0xB13, 0xB28, 1⟩, ⟨0xB2A, 0xB30, 1⟩,
     ⟨0xB32, 0xB33, 1⟩, ⟨0xB35, 0xB39, 1⟩, ⟨0xB3C, 0xB44, 1⟩, ⟨0xB47, 0xB48, 1⟩, ⟨0xB4B, 0xB4D, 1⟩,
     ⟨0xB55, 0xB57, 1⟩, ⟨0xB5C, 0xB5D, 1⟩, ⟨0xB5F, 0xB63, 1⟩, ⟨0xB66, 0xB77, 1⟩]

/-- Osage. -/
def osage : Script where
  code := "osge"
  further := ["osage"]
  runs :=
    [⟨0x104B0, 0x104D3, 1⟩, ⟨0x104D8, 0x104FB, 1⟩]

/-- Osmanya. -/
def osmanya : Script where
  code := "osma"
  further := ["osmanya"]
  runs :=
    [⟨0x10480, 0x1049D, 1⟩, ⟨0x104A0, 0x104A9, 1⟩]

/-- Pahawh Hmong. -/
def pahawhHmong : Script where
  code := "hmng"
  further := ["pahawhhmong"]
  runs :=
    [⟨0x16B00, 0x16B45, 1⟩, ⟨0x16B50, 0x16B59, 1⟩, ⟨0x16B5B, 0x16B61, 1⟩, ⟨0x16B63, 0x16B77, 1⟩,
     ⟨0x16B7D, 0x16B8F, 1⟩]

/-- Palmyrene. -/
def palmyrene : Script where
  code := "palm"
  further := ["palmyrene"]
  runs :=
    [⟨0x10860, 0x1087F, 1⟩]

/-- Pau Cin Hau. -/
def pauCinHau : Script where
  code := "pauc"
  further := ["paucinhau"]
  runs :=
    [⟨0x11AC0, 0x11AF8, 1⟩]

/-- Phags Pa. -/
def phagsPa : Script where
  code := "phag"
  further := ["phagspa"]
  runs :=
    [⟨0xA840, 0xA877, 1⟩]

/-- Phoenician. -/
def phoenician : Script where
  code := "phnx"
  further := ["phoenician"]
  runs :=
    [⟨0x10900, 0x1091B, 1⟩, ⟨0x1091F, 0x1091F, 1⟩]

/-- Psalter Pahlavi. -/
def psalterPahlavi : Script where
  code := "phlp"
  further := ["psalterpahlavi"]
  runs :=
    [⟨0x10B80, 0x10B91, 1⟩, ⟨0x10B99, 0x10B9C, 1⟩, ⟨0x10BA9, 0x10BAF, 1⟩]

/-- Rejang. -/
def rejang : Script where
  code := "rjng"
  further := ["rejang"]
  runs :=
    [⟨0xA930, 0xA953, 1⟩, ⟨0xA95F, 0xA95F, 1⟩]

/-- Runic. -/
def runic : Script where
  code := "runr"
  further := ["runic"]
  runs :=
    [⟨0x16A0, 0x16EA, 1⟩, ⟨0x16EE, 0x16F8, 1⟩]

/-- Samaritan. -/
def samaritan : Script where
  code := "samr"
  further := ["samaritan"]
  runs :=
    [⟨0x800, 0x82D, 1⟩, ⟨0x830, 0x83E, 1⟩]

/-- Saurashtra. -/
def saurashtra : Script where
  code := "saur"
  further := ["saurashtra"]
  runs :=
    [⟨0xA880, 0xA8C5, 1⟩, ⟨0xA8CE, 0xA8D9, 1⟩]

/-- Sharada. -/
def sharada : Script where
  code := "shrd"
  further := ["sharada"]
  runs :=
    [⟨0x11180, 0x111DF, 1⟩]

/-- Shavian. -/
def shavian : Script where
  code := "shaw"
  further := ["shavian"]
  runs :=
    [⟨0x10450, 0x1047F, 1⟩]

/-- Siddham. -/
def siddham : Script where
  code := "sidd"
  further := ["siddham"]
  runs :=
    [⟨0x11580, 0x115B5, 1⟩, ⟨0x115B8, 0x115DD, 1⟩]

/-- SignWriting. -/
def signWriting : Script where
  code := "sgnw"
  further := ["signwriting"]
  runs :=
    [⟨0x1D800, 0x1DA8B, 1⟩, ⟨0x1DA9B, 0x1DA9F, 1⟩, ⟨0x1DAA1, 0x1DAAF, 1⟩]

/-- Sinhala. -/
def sinhala : Script where
  code := "sinh"
  further := ["sinhala"]
  runs :=
    [⟨0xD81, 0xD83, 1⟩, ⟨0xD85, 0xD96, 1⟩, ⟨0xD9A, 0xDB1, 1⟩, ⟨0xDB3, 0xDBB, 1⟩, ⟨0xDBD, 0xDBD, 1⟩,
     ⟨0xDC0, 0xDC6, 1⟩, ⟨0xDCA, 0xDCA, 1⟩, ⟨0xDCF, 0xDD4, 1⟩, ⟨0xDD6, 0xDD6, 1⟩, ⟨0xDD8, 0xDDF, 1⟩,
     ⟨0xDE6, 0xDEF, 1⟩, ⟨0xDF2, 0xDF4, 1⟩, ⟨0x111E1, 0x111F4, 1⟩]

/-- Sogdian. -/
def sogdian : Script where
  code := "sogd"
  further := ["sogdian"]
  runs :=
    [⟨0x10F30, 0x10F59, 1⟩]

/-- Sora Sompeng. -/
def soraSompeng : Script where
  code := "sora"
  further := ["sorasompeng"]
  runs :=
    [⟨0x110D0, 0x110E8, 1⟩, ⟨0x110F0, 0x110F9, 1⟩]

/-- Soyombo. -/
def soyombo : Script where
  code := "soyo"
  further := ["soyombo"]
  runs :=
    [⟨0x11A50, 0x11AA2, 1⟩]

/-- Sundanese. -/
def sundanese : Script where
  code := "sund"
  further := ["sundanese"]
  runs :=
    [⟨0x1B80, 0x1BBF, 1⟩, ⟨0x1CC0, 0x1CC7, 1⟩]

/-- Sunuwar. -/
def sunuwar : Script where
  code := "sunu"
  further := ["sunuwar"]
  runs :=
    [⟨0x11BC0, 0x11BE1, 1⟩, ⟨0x11BF0, 0x11BF9, 1⟩]

/-- Syloti Nagri. -/
def sylotiNagri : Script where
  code := "sylo"
  further := ["sylotinagri"]
  runs :=
    [⟨0xA800, 0xA82C, 1⟩]

/-- Syriac. -/
def syriac : Script where
  code := "syrc"
  further := ["syriac"]
  runs :=
    [⟨0x700, 0x70D, 1⟩, ⟨0x70F, 0x74A, 1⟩, ⟨0x74D, 0x74F, 1⟩, ⟨0x860, 0x86A, 1⟩]

/-- Tagalog. -/
def tagalog : Script where
  code := "tglg"
  further := ["tagalog"]
  runs :=
    [⟨0x1700, 0x1715, 1⟩, ⟨0x171F, 0x171F, 1⟩]

/-- Tagbanwa. -/
def tagbanwa : Script where
  code := "tagb"
  further := ["tagbanwa"]
  runs :=
    [⟨0x1760, 0x176C, 1⟩, ⟨0x176E, 0x1770, 1⟩, ⟨0x1772, 0x1773, 1⟩]

/-- Tai Le. -/
def taiLe : Script where
  code := "tale"
  further := ["taile"]
  runs :=
    [⟨0x1950, 0x196D, 1⟩, ⟨0x1970, 0x1974, 1⟩]

/-- Tai Tham. -/
def taiTham : Script where
  code := "lana"
  further := ["taitham"]
  runs :=
    [⟨0x1A20, 0x1A5E, 1⟩, ⟨0x1A60, 0x1A7C, 1⟩, ⟨0x1A7F, 0x1A89, 1⟩, ⟨0x1A90, 0x1A99, 1⟩,
     ⟨0x1AA0, 0x1AAD, 1⟩]

/-- Tai Viet. -/
def taiViet : Script where
  code := "tavt"
  further := ["taiviet"]
  runs :=
    [⟨0xAA80, 0xAAC2, 1⟩, ⟨0xAADB, 0xAADF, 1⟩]

/-- Takri. -/
def takri : Script where
  code := "takr"
  further := ["takri"]
  runs :=
    [⟨0x11680, 0x116B9, 1⟩, ⟨0x116C0, 0x116C9, 1⟩]

/-- Tamil. -/
def tamil : Script where
  code := "taml"
  further := ["tamil"]
  runs :=
    [⟨0xB82, 0xB83, 1⟩, ⟨0xB85, 0xB8A, 1⟩, ⟨0xB8E, 0xB90, 1⟩, ⟨0xB92, 0xB95, 1⟩, ⟨0xB99, 0xB9A, 1⟩,
     ⟨0xB9C, 0xB9C, 1⟩, ⟨0xB9E, 0xB9F, 1⟩, ⟨0xBA3, 0xBA4, 1⟩, ⟨0xBA8, 0xBAA, 1⟩, ⟨0xBAE, 0xBB9, 1⟩,
     ⟨0xBBE, 0xBC2, 1⟩, ⟨0xBC6, 0xBC8, 1⟩, ⟨0xBCA, 0xBCD, 1⟩, ⟨0xBD0, 0xBD0, 1⟩, ⟨0xBD7, 0xBD7, 1⟩,
     ⟨0xBE6, 0xBFA, 1⟩, ⟨0x11FC0, 0x11FF1, 1⟩, ⟨0x11FFF, 0x11FFF, 1⟩]

/-- Tangsa. -/
def tangsa : Script where
  code := "tnsa"
  further := ["tangsa"]
  runs :=
    [⟨0x16A70, 0x16ABE, 1⟩, ⟨0x16AC0, 0x16AC9, 1⟩]

/-- Tangut. -/
def tangut : Script where
  code := "tang"
  further := ["tangut"]
  runs :=
    [⟨0x16FE0, 0x16FE0, 1⟩, ⟨0x17000, 0x187F7, 1⟩, ⟨0x18800, 0x18AFF, 1⟩, ⟨0x18D00, 0x18D08, 1⟩]

/-- Telugu. -/
def telugu : Script where
  code := "telu"
  further := ["telugu"]
  runs :=
    [⟨0xC00, 0xC0C, 1⟩, ⟨0xC0E, 0xC10, 1⟩, ⟨0xC12, 0xC28, 1⟩, ⟨0xC2A, 0xC39, 1⟩, ⟨0xC3C, 0xC44, 1⟩,
     ⟨0xC46, 0xC48, 1⟩, ⟨0xC4A, 0xC4D, 1⟩, ⟨0xC55, 0xC56, 1⟩, ⟨0xC58, 0xC5A, 1⟩, ⟨0xC5D, 0xC5D, 1⟩,
     ⟨0xC60, 0xC63, 1⟩, ⟨0xC66, 0xC6F, 1⟩, ⟨0xC77, 0xC7F, 1⟩]

/-- Thaana. -/
def thaana : Script where
  code := "thaa"
  further := ["thaana"]
  runs :=
    [⟨0x780, 0x7B1, 1⟩]

/-- Thai. -/
def thai : Script where
  code := "thai"
  further := []
  runs :=
    [⟨0xE01, 0xE3A, 1⟩, ⟨0xE40, 0xE5B, 1⟩]

/-- Tibetan. -/
def tibetan : Script where
  code := "tibt"
  further := ["tibetan"]
  runs :=
    [⟨0xF00, 0xF47, 1⟩, ⟨0xF49, 0xF6C, 1⟩, ⟨0xF71, 0xF97, 1⟩, ⟨0xF99, 0xFBC, 1⟩, ⟨0xFBE, 0xFCC, 1⟩,
     ⟨0xFCE, 0xFD4, 1⟩, ⟨0xFD9, 0xFDA, 1⟩]

/-- Tifinagh. -/
def tifinagh : Script where
  code := "tfng"
  further := ["tifinagh"]
  runs :=
    [⟨0x2D30, 0x2D67, 1⟩, ⟨0x2D6F, 0x2D70, 1⟩, ⟨0x2D7F, 0x2D7F, 1⟩]

/-- Tirhuta. -/
def tirhuta : Script where
  code := "tirh"
  further := ["tirhuta"]
  runs :=
    [⟨0x11480, 0x114C7, 1⟩, ⟨0x114D0, 0x114D9, 1⟩]

/-- Todhri. -/
def todhri : Script where
  code := "todr"
  further := ["todhri"]
  runs :=
    [⟨0x105C0, 0x105F3, 1⟩]

/-- Toto. -/
def toto : Script where
  code := "toto"
  further := []
  runs :=
    [⟨0x1E290, 0x1E2AE, 1⟩]

/-- Tulu Tigalari. -/
def tuluTigalari : Script where
  code := "tutg"
  further := ["tulutigalari"]
  runs :=
    [⟨0x11380, 0x11389, 1⟩, ⟨0x1138B, 0x1138B, 1⟩, ⟨0x1138E, 0x1138E, 1⟩, ⟨0x11390, 0x113B5, 1⟩,
     ⟨0x113B7, 0x113C0, 1⟩, ⟨0x113C2, 0x113C2, 1⟩, ⟨0x113C5, 0x113C5, 1⟩, ⟨0x113C7, 0x113CA, 1⟩,
     ⟨0x113CC, 0x113D5, 1⟩, ⟨0x113D7, 0x113D8, 1⟩, ⟨0x113E1, 0x113E2, 1⟩]

/-- Ugaritic. -/
def ugaritic : Script where
  code := "ugar"
  further := ["ugaritic"]
  runs :=
    [⟨0x10380, 0x1039D, 1⟩, ⟨0x1039F, 0x1039F, 1⟩]

/-- Vai. -/
def vai : Script where
  code := "vaii"
  further := ["vai"]
  runs :=
    [⟨0xA500, 0xA62B, 1⟩]

/-- Vithkuqi. -/
def vithkuqi : Script where
  code := "vith"
  further := ["vithkuqi"]
  runs :=
    [⟨0x10570, 0x1057A, 1⟩, ⟨0x1057C, 0x1058A, 1⟩, ⟨0x1058C, 0x10592, 1⟩, ⟨0x10594, 0x10595, 1⟩,
     ⟨0x10597, 0x105A1, 1⟩, ⟨0x105A3, 0x105B1, 1⟩, ⟨0x105B3, 0x105B9, 1⟩, ⟨0x105BB, 0x105BC, 1⟩]

/-- Wancho. -/
def wancho : Script where
  code := "wcho"
  further := ["wancho"]
  runs :=
    [⟨0x1E2C0, 0x1E2F9, 1⟩, ⟨0x1E2FF, 0x1E2FF, 1⟩]

/-- Warang Citi. -/
def warangCiti : Script where
  code := "wara"
  further := ["warangciti"]
  runs :=
    [⟨0x118A0, 0x118F2, 1⟩, ⟨0x118FF, 0x118FF, 1⟩]

/-- Yezidi. -/
def yezidi : Script where
  code := "yezi"
  further := ["yezidi"]
  runs :=
    [⟨0x10E80, 0x10EA9, 1⟩, ⟨0x10EAB, 0x10EAD, 1⟩, ⟨0x10EB0, 0x10EB1, 1⟩]

/-- Yi. -/
def yi : Script where
  code := "yiii"
  further := ["yi"]
  runs :=
    [⟨0xA000, 0xA48C, 1⟩, ⟨0xA490, 0xA4C6, 1⟩]

/-- Zanabazar Square. -/
def zanabazarSquare : Script where
  code := "zanb"
  further := ["zanabazarsquare"]
  runs :=
    [⟨0x11A00, 0x11A47, 1⟩]

end Script

/-- The scripts. -/
def scripts : List Script :=
  [.adlam, .ahom, .anatolianHieroglyphs, .arabic, .armenian, .avestan, .balinese, .bamum, .bassaVah,
   .batak, .bengali, .bhaiksuki, .bopomofo, .brahmi, .braille, .buginese, .buhid,
   .canadianAboriginal, .carian, .caucasianAlbanian, .chakma, .cham, .cherokee, .chorasmian,
   .common, .coptic, .cuneiform, .cypriot, .cyproMinoan, .cyrillic, .deseret, .devanagari,
   .divesAkuru, .dogra, .duployan, .egyptianHieroglyphs, .elbasan, .elymaic, .ethiopic, .garay,
   .georgian, .glagolitic, .gothic, .grantha, .greek, .gujarati, .gunjalaGondi, .gurmukhi,
   .gurungKhema, .han, .hangul, .hanifiRohingya, .hanunoo, .hatran, .hebrew, .hiragana,
   .imperialAramaic, .inherited, .inscriptionalPahlavi, .inscriptionalParthian, .javanese, .kaithi,
   .kannada, .katakana, .kawi, .kayahLi, .kharoshthi, .khitanSmallScript, .khmer, .khojki,
   .khudawadi, .kiratRai, .lao, .latin, .lepcha, .limbu, .linearA, .linearB, .lisu, .lycian,
   .lydian, .mahajani, .makasar, .malayalam, .mandaic, .manichaean, .marchen, .masaramGondi,
   .medefaidrin, .meeteiMayek, .mendeKikakui, .meroiticCursive, .meroiticHieroglyphs, .miao, .modi,
   .mongolian, .mro, .multani, .myanmar, .nabataean, .nagMundari, .nandinagari, .newTaiLue, .newa,
   .nko, .nushu, .nyiakengPuachueHmong, .ogham, .olChiki, .olOnal, .oldHungarian, .oldItalic,
   .oldNorthArabian, .oldPermic, .oldPersian, .oldSogdian, .oldSouthArabian, .oldTurkic, .oldUyghur,
   .oriya, .osage, .osmanya, .pahawhHmong, .palmyrene, .pauCinHau, .phagsPa, .phoenician,
   .psalterPahlavi, .rejang, .runic, .samaritan, .saurashtra, .sharada, .shavian, .siddham,
   .signWriting, .sinhala, .sogdian, .soraSompeng, .soyombo, .sundanese, .sunuwar, .sylotiNagri,
   .syriac, .tagalog, .tagbanwa, .taiLe, .taiTham, .taiViet, .takri, .tamil, .tangsa, .tangut,
   .telugu, .thaana, .thai, .tibetan, .tifinagh, .tirhuta, .todhri, .toto, .tuluTigalari, .ugaritic,
   .vai, .vithkuqi, .wancho, .warangCiti, .yezidi, .yi, .zanabazarSquare]

/-- Characters that are used with several scripts, whose codes are listed. -/
structure ScriptUse where
  codes : List String
  runs : List Run

/-- The characters whose use is not that of their own script alone. -/
def scriptUses : List ScriptUse :=
  [⟨["avst", "cari", "copt", "dupl", "elba", "geor", "glag", "gong", "goth", "grek", "hani", "latn",
     "lydi", "mahj", "perm", "shaw"],
     [⟨0xB7, 0xB7, 1⟩]⟩,
   ⟨["beng", "cyrl", "deva", "latn", "lisu", "thai", "toto"],
     [⟨0x2BC, 0x2BC, 1⟩]⟩,
   ⟨["bopo", "latn"],
     [⟨0x2C7, 0x2C7, 1⟩, ⟨0x2C9, 0x2CB, 1⟩, ⟨0x2D9, 0x2D9, 1⟩]⟩,
   ⟨["latn", "lisu"],
     [⟨0x2CD, 0x2CD, 1⟩]⟩,
   ⟨["latn", "thai"],
     [⟨0x2D7, 0x2D7, 1⟩]⟩,
   ⟨["cher", "copt", "cyrl", "grek", "latn", "perm", "sunu", "tale"],
     [⟨0x300, 0x300, 1⟩]⟩,
   ⟨["cher", "cyrl", "grek", "latn", "osge", "sunu", "tale", "todr"],
     [⟨0x301, 0x301, 1⟩]⟩,
   ⟨["cher", "cyrl", "latn", "tfng"],
     [⟨0x302, 0x302, 1⟩]⟩,
   ⟨["glag", "latn", "sunu", "syrc", "thai"],
     [⟨0x303, 0x303, 1⟩]⟩,
   ⟨["aghb", "cher", "copt", "cyrl", "goth", "grek", "latn", "osge", "syrc", "tfng", "todr"],
     [⟨0x304, 0x304, 1⟩]⟩,
   ⟨["copt", "elba", "glag", "goth", "kana", "latn"],
     [⟨0x305, 0x305, 1⟩]⟩,
   ⟨["cyrl", "grek", "latn", "perm", "tfng"],
     [⟨0x306, 0x306, 1⟩]⟩,
   ⟨["copt", "dupl", "hebr", "latn", "perm", "syrc", "tale", "tfng", "todr"],
     [⟨0x307, 0x307, 1⟩]⟩,
   ⟨["armn", "cyrl", "dupl", "goth", "grek", "hebr", "latn", "perm", "syrc", "tale", "tfng"],
     [⟨0x308, 0x308, 1⟩]⟩,
   ⟨["latn", "tfng"],
     [⟨0x309, 0x309, 1⟩]⟩,
   ⟨["dupl", "latn", "syrc"],
     [⟨0x30A, 0x30A, 1⟩]⟩,
   ⟨["cher", "cyrl", "latn", "osge"],
     [⟨0x30B, 0x30B, 1⟩]⟩,
   ⟨["cher", "latn", "tale"],
     [⟨0x30C, 0x30C, 1⟩]⟩,
   ⟨["latn", "sunu"],
     [⟨0x30D, 0x30D, 1⟩, ⟨0x310, 0x310, 1⟩]⟩,
   ⟨["ethi", "latn"],
     [⟨0x30E, 0x30E, 1⟩]⟩,
   ⟨["cyrl", "latn", "todr"],
     [⟨0x311, 0x311, 1⟩]⟩,
   ⟨["grek", "latn", "perm", "todr"],
     [⟨0x313, 0x313, 1⟩]⟩,
   ⟨["cher", "dupl", "kana", "latn", "syrc", "tfng"],
     [⟨0x323, 0x323, 1⟩]⟩,
   ⟨["cher", "dupl", "latn", "syrc"],
     [⟨0x324, 0x324, 1⟩]⟩,
   ⟨["latn", "syrc"],
     [⟨0x325, 0x325, 1⟩, ⟨0x32E, 0x32E, 1⟩]⟩,
   ⟨["latn", "sunu", "syrc"],
     [⟨0x32D, 0x32D, 1⟩]⟩,
   ⟨["cher", "latn", "syrc"],
     [⟨0x330, 0x330, 1⟩]⟩,
   ⟨["aghb", "cher", "goth", "latn", "sunu", "syrc", "thai"],
     [⟨0x331, 0x331, 1⟩]⟩,
   ⟨["grek"],
     [⟨0x342, 0x342, 1⟩, ⟨0x345, 0x345, 1⟩, ⟨0x1DC0, 0x1DC1, 1⟩]⟩,
   ⟨["latn", "osge"],
     [⟨0x358, 0x358, 1⟩]⟩,
   ⟨["aghb", "latn", "todr"],
     [⟨0x35E, 0x35E, 1⟩]⟩,
   ⟨["latn"],
     [⟨0x363, 0x36F, 1⟩]⟩,
   ⟨["copt", "grek"],
     [⟨0x374, 0x375, 1⟩]⟩,
   ⟨["cyrl", "perm"],
     [⟨0x483, 0x483, 1⟩]⟩,
   ⟨["cyrl", "glag"],
     [⟨0x484, 0x484, 1⟩, ⟨0x487, 0x487, 1⟩, ⟨0x2E43, 0x2E43, 1⟩, ⟨0xA66F, 0xA66F, 1⟩]⟩,
   ⟨["cyrl", "latn"],
     [⟨0x485, 0x486, 1⟩]⟩,
   ⟨["armn", "geor", "glag"],
     [⟨0x589, 0x589, 1⟩]⟩,
   ⟨["arab", "gara", "nkoo", "rohg", "syrc", "thaa", "yezi"],
     [⟨0x60C, 0x60C, 1⟩, ⟨0x61B, 0x61B, 1⟩]⟩,
   ⟨["arab", "syrc", "thaa"],
     [⟨0x61C, 0x61C, 1⟩]⟩,
   ⟨["adlm", "arab", "gara", "nkoo", "rohg", "syrc", "thaa", "yezi"],
     [⟨0x61F, 0x61F, 1⟩]⟩,
   ⟨["adlm", "arab", "mand", "mani", "ougr", "phlp", "rohg", "sogd", "syrc"],
     [⟨0x640, 0x640, 1⟩]⟩,
   ⟨["arab", "syrc"],
     [⟨0x64B, 0x655, 1⟩, ⟨0x670, 0x670, 1⟩]⟩,
   ⟨["arab", "thaa", "yezi"],
     [⟨0x660, 0x669, 1⟩]⟩,
   ⟨["arab", "rohg"],
     [⟨0x6D4, 0x6D4, 1⟩]⟩,
   ⟨["beng", "deva", "gran", "gujr", "guru", "knda", "latn", "mlym", "nand", "newa", "orya", "shrd",
     "taml", "telu", "tirh"],
     [⟨0x951, 0x951, 1⟩]⟩,
   ⟨["beng", "deva", "gran", "gujr", "guru", "knda", "latn", "mlym", "newa", "orya", "taml", "telu",
     "tirh"],
     [⟨0x952, 0x952, 1⟩]⟩,
   ⟨["beng", "deva", "dogr", "gong", "gonm", "gran", "gujr", "guru", "knda", "mahj", "mlym", "nand",
     "onao", "orya", "sind", "sinh", "sylo", "takr", "taml", "telu", "tirh"],
     [⟨0x964, 0x964, 1⟩]⟩,
   ⟨["beng", "deva", "dogr", "gong", "gonm", "gran", "gujr", "gukh", "guru", "knda", "limb", "mahj",
     "mlym", "nand", "onao", "orya", "sind", "sinh", "sylo", "takr", "taml", "telu", "tirh"],
     [⟨0x965, 0x965, 1⟩]⟩,
   ⟨["deva", "dogr", "kthi", "mahj"],
     [⟨0x966, 0x96F, 1⟩]⟩,
   ⟨["beng", "cakm", "sylo"],
     [⟨0x9E6, 0x9EF, 1⟩]⟩,
   ⟨["guru", "mult"],
     [⟨0xA66, 0xA6F, 1⟩]⟩,
   ⟨["gujr", "khoj"],
     [⟨0xAE6, 0xAEF, 1⟩]⟩,
   ⟨["gran", "taml"],
     [⟨0xBE6, 0xBF3, 1⟩, ⟨0x11301, 0x11303, 2⟩, ⟨0x1133B, 0x1133C, 1⟩, ⟨0x11FD0, 0x11FD1, 1⟩,
      ⟨0x11FD3, 0x11FD3, 1⟩]⟩,
   ⟨["knda", "nand", "tutg"],
     [⟨0xCE6, 0xCEF, 1⟩]⟩,
   ⟨["cakm", "mymr", "tale"],
     [⟨0x1040, 0x1049, 1⟩]⟩,
   ⟨["geor", "glag", "latn"],
     [⟨0x10FB, 0x10FB, 1⟩]⟩,
   ⟨["runr"],
     [⟨0x16EB, 0x16ED, 1⟩]⟩,
   ⟨["buhd", "hano", "tagb", "tglg"],
     [⟨0x1735, 0x1736, 1⟩]⟩,
   ⟨["mong", "phag"],
     [⟨0x1802, 0x1803, 1⟩, ⟨0x1805, 0x1805, 1⟩]⟩,
   ⟨["beng", "deva", "gran", "knda"],
     [⟨0x1CD0, 0x1CD2, 2⟩]⟩,
   ⟨["deva"],
     [⟨0x1CD1, 0x1CD1, 1⟩, ⟨0x1CD4, 0x1CD4, 1⟩, ⟨0x1CDB, 0x1CDB, 1⟩, ⟨0x1CDE, 0x1CDF, 1⟩,
      ⟨0x1CE3, 0x1CE8, 1⟩, ⟨0x1CEC, 0x1CEC, 1⟩, ⟨0x1CEE, 0x1CF1, 1⟩]⟩,
   ⟨["deva", "gran", "knda"],
     [⟨0x1CD3, 0x1CD3, 1⟩]⟩,
   ⟨["beng", "deva", "newa", "telu", "tirh"],
     [⟨0x1CD5, 0x1CD5, 1⟩]⟩,
   ⟨["beng", "deva", "telu"],
     [⟨0x1CD6, 0x1CD6, 1⟩]⟩,
   ⟨["deva", "newa", "shrd"],
     [⟨0x1CD7, 0x1CD7, 1⟩]⟩,
   ⟨["beng", "deva", "newa", "telu"],
     [⟨0x1CD8, 0x1CD8, 1⟩]⟩,
   ⟨["deva", "shrd"],
     [⟨0x1CD9, 0x1CD9, 1⟩, ⟨0x1CDC, 0x1CDD, 1⟩, ⟨0x1CE0, 0x1CE0, 1⟩]⟩,
   ⟨["deva", "knda", "mlym", "orya", "taml", "telu"],
     [⟨0x1CDA, 0x1CDA, 1⟩]⟩,
   ⟨["beng", "deva"],
     [⟨0x1CE1, 0x1CE1, 1⟩, ⟨0x1CF5, 0x1CF6, 1⟩]⟩,
   ⟨["deva", "newa", "tirh"],
     [⟨0x1CE2, 0x1CE2, 1⟩]⟩,
   ⟨["deva", "nand", "newa"],
     [⟨0x1CE9, 0x1CE9, 1⟩]⟩,
   ⟨["beng", "deva", "shrd"],
     [⟨0x1CEA, 0x1CEA, 1⟩]⟩,
   ⟨["deva", "newa"],
     [⟨0x1CEB, 0x1CEB, 1⟩]⟩,
   ⟨["beng", "deva", "newa", "shrd"],
     [⟨0x1CED, 0x1CED, 1⟩]⟩,
   ⟨["beng", "deva", "gran", "knda", "mlym", "nand", "orya", "sinh", "telu", "tirh", "tutg"],
     [⟨0x1CF2, 0x1CF2, 1⟩]⟩,
   ⟨["deva", "gran"],
     [⟨0x1CF3, 0x1CF3, 1⟩, ⟨0x1CF8, 0x1CF9, 1⟩]⟩,
   ⟨["deva", "gran", "knda", "tutg"],
     [⟨0x1CF4, 0x1CF4, 1⟩]⟩,
   ⟨["beng"],
     [⟨0x1CF7, 0x1CF7, 1⟩]⟩,
   ⟨["nand"],
     [⟨0x1CFA, 0x1CFA, 1⟩]⟩,
   ⟨["cyrl", "latn", "syrc"],
     [⟨0x1DF8, 0x1DF8, 1⟩]⟩,
   ⟨["syrc"],
     [⟨0x1DFA, 0x1DFA, 1⟩]⟩,
   ⟨["latn", "mong", "phag"],
     [⟨0x202F, 0x202F, 1⟩]⟩,
   ⟨["adlm", "arab"],
     [⟨0x204F, 0x204F, 1⟩]⟩,
   ⟨["cari", "geor", "glag", "hung", "lyci", "orkh"],
     [⟨0x205A, 0x205A, 1⟩]⟩,
   ⟨["cari", "grek", "hung", "mero"],
     [⟨0x205D, 0x205D, 1⟩]⟩,
   ⟨["deva", "gran", "latn"],
     [⟨0x20F0, 0x20F0, 1⟩]⟩,
   ⟨["copt", "latn"],
     [⟨0x2E17, 0x2E17, 1⟩]⟩,
   ⟨["avst", "orkh"],
     [⟨0x2E30, 0x2E30, 1⟩]⟩,
   ⟨["avst", "cari", "geor", "hung", "kthi", "lydi", "samr"],
     [⟨0x2E31, 0x2E31, 1⟩]⟩,
   ⟨["dupl"],
     [⟨0x2E3C, 0x2E3C, 1⟩, ⟨0x1BCA0, 0x1BCA3, 1⟩]⟩,
   ⟨["adlm", "arab", "hung"],
     [⟨0x2E41, 0x2E41, 1⟩]⟩,
   ⟨["hani", "tang"],
     [⟨0x2FF0, 0x2FFF, 1⟩, ⟨0x31EF, 0x31EF, 1⟩]⟩,
   ⟨["bopo", "hang", "hani", "hira", "kana", "mong", "yiii"],
     [⟨0x3001, 0x3001, 1⟩]⟩,
   ⟨["bopo", "hang", "hani", "hira", "kana", "mong", "phag", "yiii"],
     [⟨0x3002, 0x3002, 1⟩]⟩,
   ⟨["bopo", "hang", "hani", "hira", "kana"],
     [⟨0x3003, 0x3003, 1⟩, ⟨0x3013, 0x3013, 1⟩, ⟨0x301C, 0x301F, 1⟩, ⟨0x3030, 0x3030, 1⟩,
      ⟨0x3037, 0x3037, 1⟩, ⟨0xFE45, 0xFE46, 1⟩]⟩,
   ⟨["hani"],
     [⟨0x3006, 0x3006, 1⟩, ⟨0x303E, 0x303F, 1⟩, ⟨0x3190, 0x319F, 1⟩, ⟨0x31C0, 0x31E5, 1⟩,
      ⟨0x3220, 0x3247, 1⟩, ⟨0x3280, 0x32B0, 1⟩, ⟨0x32C0, 0x32CB, 1⟩, ⟨0x32FF, 0x32FF, 1⟩,
      ⟨0x3358, 0x3370, 1⟩, ⟨0x337B, 0x337F, 1⟩, ⟨0x33E0, 0x33FE, 1⟩, ⟨0x1D360, 0x1D371, 1⟩,
      ⟨0x1F250, 0x1F251, 1⟩]⟩,
   ⟨["bopo", "hang", "hani", "hira", "kana", "mong", "tibt", "yiii"],
     [⟨0x3008, 0x3009, 1⟩]⟩,
   ⟨["bopo", "hang", "hani", "hira", "kana", "lisu", "mong", "tibt", "yiii"],
     [⟨0x300A, 0x300B, 1⟩]⟩,
   ⟨["bopo", "hang", "hani", "hira", "kana", "yiii"],
     [⟨0x300C, 0x3011, 1⟩, ⟨0x3014, 0x301B, 1⟩, ⟨0x30FB, 0x30FB, 1⟩, ⟨0xFF61, 0xFF65, 1⟩]⟩,
   ⟨["bopo", "hani"],
     [⟨0x302A, 0x302D, 1⟩]⟩,
   ⟨["hira", "kana"],
     [⟨0x3031, 0x3035, 1⟩, ⟨0x3099, 0x309C, 1⟩, ⟨0x30A0, 0x30A0, 1⟩, ⟨0x30FC, 0x30FC, 1⟩,
      ⟨0xFF70, 0xFF70, 1⟩, ⟨0xFF9E, 0xFF9F, 1⟩]⟩,
   ⟨["hani", "hira", "kana"],
     [⟨0x303C, 0x303D, 1⟩]⟩,
   ⟨["hani", "latn"],
     [⟨0xA700, 0xA707, 1⟩]⟩,
   ⟨["deva", "dogr", "gujr", "guru", "khoj", "knda", "kthi", "mahj", "mlym", "modi", "nand", "shrd",
     "sind", "takr", "tirh", "tutg"],
     [⟨0xA830, 0xA832, 1⟩]⟩,
   ⟨["deva", "dogr", "gujr", "guru", "khoj", "knda", "kthi", "mahj", "modi", "nand", "shrd", "sind",
     "takr", "tirh", "tutg"],
     [⟨0xA833, 0xA835, 1⟩]⟩,
   ⟨["deva", "dogr", "gujr", "guru", "khoj", "kthi", "mahj", "modi", "sind", "takr", "tirh"],
     [⟨0xA836, 0xA837, 1⟩, ⟨0xA839, 0xA839, 1⟩]⟩,
   ⟨["deva", "dogr", "gujr", "guru", "khoj", "kthi", "mahj", "modi", "shrd", "sind", "takr",
     "tirh"],
     [⟨0xA838, 0xA838, 1⟩]⟩,
   ⟨["beng", "deva", "tutg"],
     [⟨0xA8F1, 0xA8F1, 1⟩]⟩,
   ⟨["deva", "taml"],
     [⟨0xA8F3, 0xA8F3, 1⟩]⟩,
   ⟨["kali", "latn", "mymr"],
     [⟨0xA92E, 0xA92E, 1⟩]⟩,
   ⟨["bugi", "java"],
     [⟨0xA9CF, 0xA9CF, 1⟩]⟩,
   ⟨["arab", "nkoo"],
     [⟨0xFD3E, 0xFD3F, 1⟩]⟩,
   ⟨["arab", "thaa"],
     [⟨0xFDF2, 0xFDF2, 1⟩, ⟨0xFDFD, 0xFDFD, 1⟩]⟩,
   ⟨["cpmn", "cprt", "linb"],
     [⟨0x10100, 0x10101, 1⟩]⟩,
   ⟨["cprt", "linb"],
     [⟨0x10102, 0x10102, 1⟩, ⟨0x10137, 0x1013F, 1⟩]⟩,
   ⟨["cprt", "lina", "linb"],
     [⟨0x10107, 0x10133, 1⟩]⟩,
   ⟨["arab", "copt"],
     [⟨0x102E0, 0x102FB, 1⟩]⟩,
   ⟨["mani", "ougr"],
     [⟨0x10AF2, 0x10AF2, 1⟩]⟩]

end ReleaseBundle.Text
