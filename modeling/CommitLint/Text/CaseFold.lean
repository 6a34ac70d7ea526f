/-!
# Letters that differ in case only

The characters that are told apart by case alone, as pairs of code points. The pairs are kept in
runs, in which the smaller members go up by a fixed step and the larger ones stand at a fixed
distance. `caseVariants` lists a character with its partners; those of a letter without case are the
letter alone.
-/

namespace CommitLint.Text

/-- A run of pairs. -/
structure CaseRun where
  /-- The smaller member of the first pair. -/
  first : Nat
  /-- The smaller member of the last pair. -/
  last : Nat
  /-- From one smaller member to the next. -/
  step : Nat
  /-- From a smaller member to its partner. -/
  distance : Nat
  deriving DecidableEq, Repr

/-- Whether a code point is the smaller member of a pair. -/
def CaseRun.starts (run : CaseRun) (n : Nat) : Bool :=
  decide (run.first ≤ n) && decide (n ≤ run.last) && decide ((n - run.first) % run.step = 0)

/-- The partners that a code point has within a run. -/
def CaseRun.partners (run : CaseRun) (n : Nat) : List Nat :=
  (if run.starts n then [n + run.distance] else [])
  ++ if run.distance ≤ n ∧ run.starts (n - run.distance) = true then [n - run.distance] else []

/-- Every pair of characters that differ in case only, in runs. -/
def caseRuns : List CaseRun :=
  [⟨0x0041, 0x005A, 1, 0x0020⟩, ⟨0x004B, 0x004B, 1, 0x20DF⟩, ⟨0x0053, 0x0053, 1, 0x012C⟩,
   ⟨0x006B, 0x006B, 1, 0x20BF⟩, ⟨0x0073, 0x0073, 1, 0x010C⟩, ⟨0x00B5, 0x00B5, 1, 0x02E7⟩,
   ⟨0x00B5, 0x00B5, 1, 0x0307⟩, ⟨0x00C0, 0x00D6, 1, 0x0020⟩, ⟨0x00C5, 0x00C5, 1, 0x2066⟩,
   ⟨0x00D8, 0x00DE, 1, 0x0020⟩, ⟨0x00DF, 0x00DF, 1, 0x1DBF⟩, ⟨0x00E5, 0x00E5, 1, 0x2046⟩,
   ⟨0x00FF, 0x00FF, 1, 0x0079⟩, ⟨0x0100, 0x012E, 2, 0x0001⟩, ⟨0x0132, 0x0136, 2, 0x0001⟩,
   ⟨0x0139, 0x0147, 2, 0x0001⟩, ⟨0x014A, 0x0176, 2, 0x0001⟩, ⟨0x0179, 0x017D, 2, 0x0001⟩,
   ⟨0x0180, 0x0180, 1, 0x00C3⟩, ⟨0x0181, 0x0181, 1, 0x00D2⟩, ⟨0x0182, 0x0184, 2, 0x0001⟩,
   ⟨0x0186, 0x0186, 1, 0x00CE⟩, ⟨0x0187, 0x0187, 1, 0x0001⟩, ⟨0x0189, 0x018A, 1, 0x00CD⟩,
   ⟨0x018B, 0x018B, 1, 0x0001⟩, ⟨0x018E, 0x018E, 1, 0x004F⟩, ⟨0x018F, 0x018F, 1, 0x00CA⟩,
   ⟨0x0190, 0x0190, 1, 0x00CB⟩, ⟨0x0191, 0x0191, 1, 0x0001⟩, ⟨0x0193, 0x0193, 1, 0x00CD⟩,
   ⟨0x0194, 0x0194, 1, 0x00CF⟩, ⟨0x0195, 0x0195, 1, 0x0061⟩, ⟨0x0196, 0x0196, 1, 0x00D3⟩,
   ⟨0x0197, 0x0197, 1, 0x00D1⟩, ⟨0x0198, 0x0198, 1, 0x0001⟩, ⟨0x019A, 0x019A, 1, 0x00A3⟩,
   ⟨0x019B, 0x019B, 1, 0xA641⟩, ⟨0x019C, 0x019C, 1, 0x00D3⟩, ⟨0x019D, 0x019D, 1, 0x00D5⟩,
   ⟨0x019E, 0x019E, 1, 0x0082⟩, ⟨0x019F, 0x019F, 1, 0x00D6⟩, ⟨0x01A0, 0x01A4, 2, 0x0001⟩,
   ⟨0x01A6, 0x01A6, 1, 0x00DA⟩, ⟨0x01A7, 0x01A7, 1, 0x0001⟩, ⟨0x01A9, 0x01A9, 1, 0x00DA⟩,
   ⟨0x01AC, 0x01AC, 1, 0x0001⟩, ⟨0x01AE, 0x01AE, 1, 0x00DA⟩, ⟨0x01AF, 0x01AF, 1, 0x0001⟩,
   ⟨0x01B1, 0x01B2, 1, 0x00D9⟩, ⟨0x01B3, 0x01B5, 2, 0x0001⟩, ⟨0x01B7, 0x01B7, 1, 0x00DB⟩,
   ⟨0x01B8, 0x01B8, 1, 0x0001⟩, ⟨0x01BC, 0x01BC, 1, 0x0001⟩, ⟨0x01BF, 0x01BF, 1, 0x0038⟩,
   ⟨0x01C4, 0x01C5, 1, 0x0001⟩, ⟨0x01C4, 0x01C4, 1, 0x0002⟩, ⟨0x01C7, 0x01C8, 1, 0x0001⟩,
   ⟨0x01C7, 0x01C7, 1, 0x0002⟩, ⟨0x01CA, 0x01CB, 1, 0x0001⟩, ⟨0x01CA, 0x01CA, 1, 0x0002⟩,
   ⟨0x01CD, 0x01DB, 2, 0x0001⟩, ⟨0x01DE, 0x01EE, 2, 0x0001⟩, ⟨0x01F1, 0x01F2, 1, 0x0001⟩,
   ⟨0x01F1, 0x01F1, 1, 0x0002⟩, ⟨0x01F4, 0x01F4, 1, 0x0001⟩, ⟨0x01F8, 0x021E, 2, 0x0001⟩,
   ⟨0x0222, 0x0232, 2, 0x0001⟩, ⟨0x023A, 0x023A, 1, 0x2A2B⟩, ⟨0x023B, 0x023B, 1, 0x0001⟩,
   ⟨0x023E, 0x023E, 1, 0x2A28⟩, ⟨0x023F, 0x0240, 1, 0x2A3F⟩, ⟨0x0241, 0x0241, 1, 0x0001⟩,
   ⟨0x0244, 0x0244, 1, 0x0045⟩, ⟨0x0245, 0x0245, 1, 0x0047⟩, ⟨0x0246, 0x024E, 2, 0x0001⟩,
   ⟨0x0250, 0x0250, 1, 0x2A1F⟩, ⟨0x0251, 0x0251, 1, 0x2A1C⟩, ⟨0x0252, 0x0252, 1, 0x2A1E⟩,
   ⟨0x025C, 0x025C, 1, 0xA54F⟩, ⟨0x0261, 0x0261, 1, 0xA54B⟩, ⟨0x0264, 0x0264, 1, 0xA567⟩,
   ⟨0x0265, 0x0265, 1, 0xA528⟩, ⟨0x0266, 0x0266, 1, 0xA544⟩, ⟨0x026A, 0x026A, 1, 0xA544⟩,
   ⟨0x026B, 0x026B, 1, 0x29F7⟩, ⟨0x026C, 0x026C, 1, 0xA541⟩, ⟨0x0271, 0x0271, 1, 0x29FD⟩,
   ⟨0x027D, 0x027D, 1, 0x29E7⟩, ⟨0x0282, 0x0282, 1, 0xA543⟩, ⟨0x0287, 0x0287, 1, 0xA52A⟩,
   ⟨0x029D, 0x029D, 1, 0xA515⟩, ⟨0x029E, 0x029E, 1, 0xA512⟩, ⟨0x0345, 0x0345, 1, 0x0054⟩,
   ⟨0x0345, 0x0345, 1, 0x0074⟩, ⟨0x0345, 0x0345, 1, 0x1C79⟩, ⟨0x0370, 0x0372, 2, 0x0001⟩,
   ⟨0x0376, 0x0376, 1, 0x0001⟩, ⟨0x037B, 0x037D, 1, 0x0082⟩, ⟨0x037F, 0x037F, 1, 0x0074⟩,
   ⟨0x0386, 0x0386, 1, 0x0026⟩, ⟨0x0388, 0x038A, 1, 0x0025⟩, ⟨0x038C, 0x038C, 1, 0x0040⟩,
   ⟨0x038E, 0x038F, 1, 0x003F⟩, ⟨0x0390, 0x0390, 1, 0x1C43⟩, ⟨0x0391, 0x03A1, 1, 0x0020⟩,
   ⟨0x0392, 0x0392, 1, 0x003E⟩, ⟨0x0395, 0x0395, 1, 0x0060⟩, ⟨0x0398, 0x0398, 1, 0x0039⟩,
   ⟨0x0398, 0x0398, 1, 0x005C⟩, ⟨0x0399, 0x0399, 1, 0x1C25⟩, ⟨0x039A, 0x039A, 1, 0x0056⟩,
   ⟨0x03A0, 0x03A0, 1, 0x0036⟩, ⟨0x03A1, 0x03A1, 1, 0x0050⟩, ⟨0x03A3, 0x03A3, 1, 0x001F⟩,
   ⟨0x03A3, 0x03AB, 1, 0x0020⟩, ⟨0x03A6, 0x03A6, 1, 0x002F⟩, ⟨0x03A9, 0x03A9, 1, 0x1D7D⟩,
   ⟨0x03B0, 0x03B0, 1, 0x1C33⟩, ⟨0x03B2, 0x03B2, 1, 0x001E⟩, ⟨0x03B5, 0x03B5, 1, 0x0040⟩,
   ⟨0x03B8, 0x03B8, 1, 0x0019⟩, ⟨0x03B8, 0x03B8, 1, 0x003C⟩, ⟨0x03B9, 0x03B9, 1, 0x1C05⟩,
   ⟨0x03BA, 0x03BA, 1, 0x0036⟩, ⟨0x03C0, 0x03C0, 1, 0x0016⟩, ⟨0x03C1, 0x03C1, 1, 0x0030⟩,
   ⟨0x03C2, 0x03C2, 1, 0x0001⟩, ⟨0x03C6, 0x03C6, 1, 0x000F⟩, ⟨0x03C9, 0x03C9, 1, 0x1D5D⟩,
   ⟨0x03CF, 0x03CF, 1, 0x0008⟩, ⟨0x03D1, 0x03D1, 1, 0x0023⟩, ⟨0x03D8, 0x03EE, 2, 0x0001⟩,
   ⟨0x03F2, 0x03F2, 1, 0x0007⟩, ⟨0x03F7, 0x03F7, 1, 0x0001⟩, ⟨0x03FA, 0x03FA, 1, 0x0001⟩,
   ⟨0x0400, 0x040F, 1, 0x0050⟩, ⟨0x0410, 0x042F, 1, 0x0020⟩, ⟨0x0412, 0x0412, 1, 0x186E⟩,
   ⟨0x0414, 0x0414, 1, 0x186D⟩, ⟨0x041E, 0x041E, 1, 0x1864⟩, ⟨0x0421, 0x0422, 1, 0x1862⟩,
   ⟨0x0422, 0x0422, 1, 0x1863⟩, ⟨0x042A, 0x042A, 1, 0x185C⟩, ⟨0x0432, 0x0432, 1, 0x184E⟩,
   ⟨0x0434, 0x0434, 1, 0x184D⟩, ⟨0x043E, 0x043E, 1, 0x1844⟩, ⟨0x0441, 0x0442, 1, 0x1842⟩,
   ⟨0x0442, 0x0442, 1, 0x1843⟩, ⟨0x044A, 0x044A, 1, 0x183C⟩, ⟨0x0460, 0x0480, 2, 0x0001⟩,
   ⟨0x0462, 0x0462, 1, 0x1825⟩, ⟨0x0463, 0x0463, 1, 0x1824⟩, ⟨0x048A, 0x04BE, 2, 0x0001⟩,
   ⟨0x04C0, 0x04C0, 1, 0x000F⟩, ⟨0x04C1, 0x04CD, 2, 0x0001⟩, ⟨0x04D0, 0x052E, 2, 0x0001⟩,
   ⟨0x0531, 0x0556, 1, 0x0030⟩, ⟨0x10A0, 0x10C5, 1, 0x1C60⟩, ⟨0x10C7, 0x10C7, 1, 0x1C60⟩,
   ⟨0x10CD, 0x10CD, 1, 0x1C60⟩, ⟨0x10D0, 0x10FA, 1, 0x0BC0⟩, ⟨0x10FD, 0x10FF, 1, 0x0BC0⟩,
   ⟨0x13A0, 0x13EF, 1, 0x97D0⟩, ⟨0x13F0, 0x13F5, 1, 0x0008⟩, ⟨0x1C84, 0x1C84, 1, 0x0001⟩,
   ⟨0x1C88, 0x1C88, 1, 0x89C2⟩, ⟨0x1C88, 0x1C88, 1, 0x89C3⟩, ⟨0x1C89, 0x1C89, 1, 0x0001⟩,
   ⟨0x1D79, 0x1D79, 1, 0x8A04⟩, ⟨0x1D7D, 0x1D7D, 1, 0x0EE6⟩, ⟨0x1D8E, 0x1D8E, 1, 0x8A38⟩,
   ⟨0x1E00, 0x1E94, 2, 0x0001⟩, ⟨0x1E60, 0x1E60, 1, 0x003B⟩, ⟨0x1E61, 0x1E61, 1, 0x003A⟩,
   ⟨0x1EA0, 0x1EFE, 2, 0x0001⟩, ⟨0x1F00, 0x1F07, 1, 0x0008⟩, ⟨0x1F10, 0x1F15, 1, 0x0008⟩,
   ⟨0x1F20, 0x1F27, 1, 0x0008⟩, ⟨0x1F30, 0x1F37, 1, 0x0008⟩, ⟨0x1F40, 0x1F45, 1, 0x0008⟩,
   ⟨0x1F51, 0x1F57, 2, 0x0008⟩, ⟨0x1F60, 0x1F67, 1, 0x0008⟩, ⟨0x1F70, 0x1F71, 1, 0x004A⟩,
   ⟨0x1F72, 0x1F75, 1, 0x0056⟩, ⟨0x1F76, 0x1F77, 1, 0x0064⟩, ⟨0x1F78, 0x1F79, 1, 0x0080⟩,
   ⟨0x1F7A, 0x1F7B, 1, 0x0070⟩, ⟨0x1F7C, 0x1F7D, 1, 0x007E⟩, ⟨0x1F80, 0x1F87, 1, 0x0008⟩,
   ⟨0x1F90, 0x1F97, 1, 0x0008⟩, ⟨0x1FA0, 0x1FA7, 1, 0x0008⟩, ⟨0x1FB0, 0x1FB1, 1, 0x0008⟩,
   ⟨0x1FB3, 0x1FB3, 1, 0x0009⟩, ⟨0x1FC3, 0x1FC3, 1, 0x0009⟩, ⟨0x1FD0, 0x1FD1, 1, 0x0008⟩,
   ⟨0x1FE0, 0x1FE1, 1, 0x0008⟩, ⟨0x1FE5, 0x1FE5, 1, 0x0007⟩, ⟨0x1FF3, 0x1FF3, 1, 0x0009⟩,
   ⟨0x2132, 0x2132, 1, 0x001C⟩, ⟨0x2160, 0x216F, 1, 0x0010⟩, ⟨0x2183, 0x2183, 1, 0x0001⟩,
   ⟨0x24B6, 0x24CF, 1, 0x001A⟩, ⟨0x2C00, 0x2C2F, 1, 0x0030⟩, ⟨0x2C60, 0x2C60, 1, 0x0001⟩,
   ⟨0x2C67, 0x2C6B, 2, 0x0001⟩, ⟨0x2C72, 0x2C72, 1, 0x0001⟩, ⟨0x2C75, 0x2C75, 1, 0x0001⟩,
   ⟨0x2C80, 0x2CE2, 2, 0x0001⟩, ⟨0x2CEB, 0x2CED, 2, 0x0001⟩, ⟨0x2CF2, 0x2CF2, 1, 0x0001⟩,
   ⟨0xA640, 0xA66C, 2, 0x0001⟩, ⟨0xA680, 0xA69A, 2, 0x0001⟩, ⟨0xA722, 0xA72E, 2, 0x0001⟩,
   ⟨0xA732, 0xA76E, 2, 0x0001⟩, ⟨0xA779, 0xA77B, 2, 0x0001⟩, ⟨0xA77E, 0xA786, 2, 0x0001⟩,
   ⟨0xA78B, 0xA78B, 1, 0x0001⟩, ⟨0xA790, 0xA792, 2, 0x0001⟩, ⟨0xA794, 0xA794, 1, 0x0030⟩,
   ⟨0xA796, 0xA7A8, 2, 0x0001⟩, ⟨0xA7B3, 0xA7B3, 1, 0x03A0⟩, ⟨0xA7B4, 0xA7C2, 2, 0x0001⟩,
   ⟨0xA7C7, 0xA7C9, 2, 0x0001⟩, ⟨0xA7CC, 0xA7CC, 1, 0x0001⟩, ⟨0xA7D0, 0xA7D0, 1, 0x0001⟩,
   ⟨0xA7D6, 0xA7DA, 2, 0x0001⟩, ⟨0xA7F5, 0xA7F5, 1, 0x0001⟩, ⟨0xFB05, 0xFB05, 1, 0x0001⟩,
   ⟨0xFF21, 0xFF3A, 1, 0x0020⟩, ⟨0x10400, 0x10427, 1, 0x0028⟩, ⟨0x104B0, 0x104D3, 1, 0x0028⟩,
   ⟨0x10570, 0x1057A, 1, 0x0027⟩, ⟨0x1057C, 0x1058A, 1, 0x0027⟩, ⟨0x1058C, 0x10592, 1, 0x0027⟩,
   ⟨0x10594, 0x10595, 1, 0x0027⟩, ⟨0x10C80, 0x10CB2, 1, 0x0040⟩, ⟨0x10D50, 0x10D65, 1, 0x0020⟩,
   ⟨0x118A0, 0x118BF, 1, 0x0020⟩, ⟨0x16E40, 0x16E5F, 1, 0x0020⟩, ⟨0x1E900, 0x1E921, 1, 0x0022⟩]

/-- A character with those that differ from it in case only. -/
def caseVariants (c : Char) : List Char :=
  c :: caseRuns.flatMap fun run => (run.partners c.toNat).map Char.ofNat

/-- A letter from a to z in either case, any other character alone. -/
def asciiVariants (c : Char) : List Char :=
  if c.isLower then [c, c.toUpper] else if c.isUpper then [c, c.toLower] else [c]

theorem mem_caseVariants_self (c : Char) : c ∈ caseVariants c := by simp [caseVariants]

theorem mem_asciiVariants_self (c : Char) : c ∈ asciiVariants c := by
  rw [asciiVariants]
  split
  · simp
  · split <;> simp

end CommitLint.Text
