/-! The code points that show nothing unless a font knows better
(`Default_Ignorable_Code_Point` of Unicode 17.0): joiners, selectors, tags, and letters that
only fill a place. -/

namespace Rollout.Text.DefaultIgnorable

/-- Inclusive bounds, in increasing order and pairwise disjoint. -/
def ranges : List (Nat × Nat) := [
  (0x00AD, 0x00AD), (0x034F, 0x034F), (0x061C, 0x061C), (0x115F, 0x1160), (0x17B4, 0x17B5),
  (0x180B, 0x180F), (0x200B, 0x200F), (0x202A, 0x202E), (0x2060, 0x206F), (0x3164, 0x3164),
  (0xFE00, 0xFE0F), (0xFEFF, 0xFEFF), (0xFFA0, 0xFFA0), (0xFFF0, 0xFFF8), (0x1BCA0, 0x1BCA3),
  (0x1D173, 0x1D17A), (0xE0000, 0xE0FFF)]

end Rollout.Text.DefaultIgnorable
